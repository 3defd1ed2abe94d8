import RecordCoding.Configuration.Settings
import RecordCoding.Proofs.Commands.Notices
import RecordCoding.Proofs.Commands.Underscores
import RecordCoding.Proofs.Expansion.Defects
import RecordCoding.Proofs.Source.SuffixedNames

/-!
# Names of key tables

A key table is named after its type with the configured suffix behind it. A suffix is accepted if it
has nothing but letters, digits and underscores, where letters and digits are meant in the wide
sense of Unicode. That does not always make an identifier: some digits cannot follow in one, and
what comes out may be a reserved word. These are the only ways to fail, and each of them is reported
in place of the code, although the run for the type was done.
-/

namespace RecordCoding

namespace Configuration

open Source

/-- The suffix makes an identifier of the name of a type: all its characters may follow in one, and
the whole is not reserved. -/
structure Names (config : Configuration) (typeName : String) : Prop where
  continues : ∀ c ∈ config.tableSuffix.toList, Text.isIdentifierContinue c = true
  free : config.tableName typeName ∉ reservedWords

/-- What a suffix comes to behind the name of a type. -/
structure Suffixes (config : Configuration) (typeName : String) : Prop where
  /-- An identifier that is not reserved, and that is read as such. -/
  named : config.Names typeName → IsSourceName (config.tableName typeName) ∧
    readName (config.tableName typeName) = .ok (config.tableName typeName)
  unnamed : ¬ config.Names typeName →
    ∃ cause, readName (config.tableName typeName) = .error cause

section

variable {config : Configuration}

/-- A suffix that is accepted has nothing but the characters of suffixes. -/
theorem isSuffixChar_of_flaw? (accepted : config.flaw? = none) :
    ∀ c ∈ config.tableSuffix.toList, isSuffixChar c = true :=
  List.all_eq_true.mp ((flaw?_eq_none_iff config).mp accepted).2

/-- Behind a word, an accepted suffix makes an identifier unless its characters or the reserved
words keep it from that. -/
theorem suffixes_of_isWord (accepted : config.flaw? = none) {typeName : String}
    (word : IsWord typeName.toList) : Suffixes config typeName := by
  have reads := readName_append word (isSuffixChar_of_flaw? accepted)
  constructor
  case named =>
    intro names
    have free : isName (config.tableName typeName) = true := by
      simpa [isName] using names.free
    have written : IsIdentifierText (config.tableName typeName) := by
      rw [IsIdentifierText, tableName, String.toList_append]
      generalize typeName.toList = chars at word
      obtain ⟨start, before⟩ := word
      exact .plain (.mk start (List.forall_mem_append.mpr ⟨before, names.continues⟩))
    rw [if_pos (List.all_eq_true.mpr names.continues)] at reads
    exact ⟨⟨free, written⟩, reads.trans (if_pos free)⟩
  case unnamed =>
    intro unfit
    split at reads
    · rename_i continues
      have reserved : ¬ isName (config.tableName typeName) = true :=
        fun free => unfit ⟨List.all_eq_true.mp continues, by simpa [isName] using free⟩
      exact ⟨_, reads.trans (if_neg reserved)⟩
    · exact ⟨_, reads⟩

/-- So it does behind every name in a source text, where the mark of raw identifiers does not
count. -/
theorem suffixes_of_isSourceName (accepted : config.flaw? = none) {written : String}
    (name : IsSourceName written) : Suffixes config (unraw written) :=
  suffixes_of_isWord accepted (isIdentifier_unraw name.written name.free).isWord

/-- Every type has a name for its key table where the suffix is in ASCII and no reserved word ends
with it. -/
theorem names_of_ascii (accepted : config.flaw? = none)
    (ascii : ∀ c ∈ config.tableSuffix.toList, c.toNat < 128)
    (apart : ∀ reserved ∈ reservedWords, ¬ config.tableSuffix.toList <:+ reserved.toList)
    (typeName : String) : config.Names typeName where
  continues c member := by
    by_contra stops
    have stranger : IsStranger c :=
      ⟨isSuffixChar_of_flaw? accepted c member, Bool.eq_false_iff.mpr stops⟩
    exact Nat.not_lt.mpr stranger.wide (ascii c member)
  free reserved := by
    refine apart _ reserved ?_
    rw [tableName, String.toList_append]
    exact List.suffix_append _ _

end

end Configuration

namespace Expansion

open Source

/-- The code for a type under the name of its key table. -/
structure NamesTable (item : TypeItem) (config : Configuration) : Prop where
  name : config.Suffixes item.lower.decl.name
  /-- The name is in the way of the code exactly if the suffix makes no identifier. -/
  obstacle : ∀ hasBridge name,
    Code.ofOutcome item.lower.decl (outcomeOf item config) hasBridge =
        .error (.defect (.tableName name)) ↔
      name = config.tableName item.lower.decl.name ∧ ¬ config.Names item.lower.decl.name
  /-- A run that is done is then rendered as its findings and the report of the name. -/
  reported : (outcomeOf item config).state = .done → ¬ config.Names item.lower.decl.name →
    render item item.lower (outcomeOf item config) config =
      .ok (notices (item.lower.flaws ++ (outcomeOf item config).diagnostics ++
        [(Defect.tableName (config.tableName item.lower.decl.name)).diagnostic]))

/-- Every type with a name of a source text is rendered so under an accepted configuration. -/
theorem namesTable_of_isSourceName {item : TypeItem} {config : Configuration}
    (accepted : config.flaw? = none) (spelt : IsSourceName item.name) : NamesTable item config := by
  have suffixes : config.Suffixes item.lower.decl.name :=
    item.name_lower ▸ Configuration.suffixes_of_isSourceName accepted spelt
  have refused (hasBridge : Bool) (unfit : ¬ config.Names item.lower.decl.name) :
      Code.ofOutcome item.lower.decl (outcomeOf item config) hasBridge =
        .error (.defect (.tableName (config.tableName item.lower.decl.name))) := by
    obtain ⟨cause, unread⟩ := suffixes.unnamed unfit
    -- The name of the table is what the code begins with.
    refine bind_eq_error_iff.mpr (.inl ?_)
    rw [tableIdentifier, keyTableName_generate, unread]
    rfl
  constructor
  case name => exact suffixes
  case obstacle =>
    intro hasBridge name
    constructor
    · intro failed
      cases arises_of_code failed with
      | tableName unread =>
        refine ⟨rfl, fun names => ?_⟩
        rw [(suffixes.named names).2] at unread
        cases unread
    · rintro ⟨rfl, unfit⟩
      exact refused hasBridge unfit
  case reported => exact fun done unfit => render_of_defect done (refused _ unfit)

end Expansion

namespace Commands

open Source Expansion

/-- Under every configuration that can be read, the suffix makes an identifier of the name of a type
unless it has a character that cannot follow in one or the whole is reserved, which no suffix in
ASCII does that no reserved word ends with. Nothing but that keeps the code for a type from having a
name for its key table. -/
theorem namesTables {settings : String} {config : Configuration}
    (read : Configuration.ofText settings = .ok config) :
    (∀ written, IsSourceName written → config.Suffixes (unraw written)) ∧
      ((∀ c ∈ config.tableSuffix.toList, c.toNat < 128) →
        (∀ reserved ∈ reservedWords, ¬ config.tableSuffix.toList <:+ reserved.toList) →
        ∀ typeName, config.Names typeName) ∧
      ∀ text, (∀ item, readTypeItem text = .ok item → NamesTable item config) ∧
        ∀ path file, SourceFile.ofText path text = .ok file →
          ∀ type ∈ file.survey.types, NamesTable type.item config := by
  have accepted := Configuration.flaw?_of_ofText read
  refine ⟨fun _ => Configuration.suffixes_of_isSourceName accepted,
    Configuration.names_of_ascii accepted, fun text => ⟨?_, ?_⟩⟩
  · intro item reads
    exact namesTable_of_isSourceName accepted (isSpelt_of_readTypeItem reads).name
  · intro path file opened type member
    exact namesTable_of_isSourceName accepted (isSpelt_of_mem_types opened member).name

/-- A suffix of two letters makes a name for the key table of one type, and a reserved word for that
of another. -/
theorem namesTables_reserved :
    Configuration.ofText "key_table_suffix = \"lf\"" = .ok reserved ∧
      readName (reserved.tableName "Go") = .ok "Golf" ∧
      ∃ cause, readName (reserved.tableName "Se") = .error cause := by
  have read : Configuration.ofText "key_table_suffix = \"lf\"" = .ok reserved := by
    decide +kernel
  obtain ⟨suffixes, -⟩ := namesTables read
  have golf : reserved.Names "Go" :=
    ⟨forall_mem_of_all (by decide +kernel), by decide +kernel⟩
  have self : ¬ reserved.Names "Se" := fun names => names.free (by decide +kernel)
  have go : IsSourceName "Go" := ⟨by decide +kernel, by decide +kernel⟩
  have se : IsSourceName "Se" := ⟨by decide +kernel, by decide +kernel⟩
  exact ⟨read, ((suffixes "Go" go).named golf).2, (suffixes "Se" se).unnamed self⟩

/-- A plain type. -/
def area : String := "#[derive(Codify)] struct Area \x7b side: u8 \x7d"

/-- Not every suffix that is accepted makes names for key tables: with a digit that is written high
there is none, and although nothing is found about a type its code is given up for that. -/
theorem suffix_unnamed : ¬ ∀ settings config text item,
    Configuration.ofText settings = .ok config → readTypeItem text = .ok item →
    item.lower.flaws = [] → (outcomeOf item config).state = .done →
    ∀ name, Code.ofOutcome item.lower.decl (outcomeOf item config)
      (config.serdeBridge && !item.lower.skipsBridge) ≠ .error (.defect (.tableName name)) := by
  intro always
  have accepted : Configuration.ofText "key_table_suffix = \"²\"" = .ok squared := by
    decide +kernel
  have outcome : (readTypeItem area).map (fun item => (item.lower.flaws,
      (outcomeOf item squared).state, squared.tableName item.lower.decl.name)) =
      .ok ([], .done, "Area²") := by
    decide +kernel
  obtain ⟨item, read, found⟩ := map_eq_ok_iff.mp outcome
  obtain ⟨flawless, found⟩ := Prod.mk.inj found
  obtain ⟨done, name⟩ := Prod.mk.inj found
  refine always _ squared area item accepted read flawless done "Area²" ?_
  refine bind_eq_error_iff.mpr (.inl ?_)
  rw [keyTableName_generate, name]
  decide +kernel

end Commands

end RecordCoding
