import RecordCoding.Proofs.Commands.FileParts
import RecordCoding.Proofs.Commands.Underscores
import RecordCoding.Proofs.Expansion.Defects
import RecordCoding.Proofs.Generation.LineReports
import RecordCoding.Proofs.Source.AttributeLines

/-!
# Findings in one line

A finding is meant to be one line. Names, keys and refusals are lines, so that a line is broken in a
message only by a text that is repeated as it stands: the tag of a case style that does not exist,
which is a literal and may have any character, or in place of the code the text of a type that could
not be read again.
-/

namespace RecordCoding

open Text

/-- A line is broken in a text about a diagnostic where it is in a tag that names no case style, and
nowhere else. -/
def Diagnostic.BreaksInTag (d : Diagnostic) (text : String) : Prop :=
  ∀ c, isLineBreak c = true →
    (c ∈ text.toList ↔ ∃ tag, d.cause = .unknownCaseStyle tag ∧ c ∈ tag.toList)

theorem Diagnostic.IsPlain.breaksInTag {d : Diagnostic} (plain : d.IsPlain) :
    d.BreaksInTag d.message := fun _ breaks => plain.mem_message_iff breaks

/-- An accepted suffix is a line. -/
theorem Configuration.isLine_tableSuffix {config : Configuration} (accepted : config.flaw? = none) :
    isLine config.tableSuffix = true := by
  have other : ∀ d ∈ lineBreaks, isSuffixChar d = false :=
    Source.forall_mem_of_all (by decide +kernel)
  rw [isLine_iff]
  intro c breaks member
  have allowed := List.all_eq_true.mp ((flaw?_eq_none_iff config).mp accepted).2 c member
  rw [other c (List.contains_iff_mem.mp breaks)] at allowed
  cases allowed

namespace Source

/-- The names in the declaration for a type of a source text are lines. -/
theorem TypeItem.IsSpelt.isLine_lower {item : TypeItem} (spelt : item.IsSpelt) :
    item.lower.decl.IsLine where
  name := by
    rw [item.name_lower]
    exact isLine_unraw (isLine_of_isIdentifierText spelt.name.written)
  fields field declared := by
    obtain ⟨position, source, inside, name⟩ := Expansion.exists_of_mem_fields declared
    rw [name]
    exact (spelt.body.of_mem_fields inside).isLine_fieldName position

end Source

namespace Expansion

open Source

/-! ## Defects of the code -/

/-- The name of a key table and what is wrong with an expression are said in one line. -/
theorem Defect.isLine_tableName {name : String} (line : isLine name = true) :
    isLine (Defect.tableName name).message = true :=
  isLine_between (isLine_ofList rfl) line (isLine_ofList rfl)

theorem Defect.isLine_expression {field : String} {cause : SyntaxError}
    (named : isLine field = true) (line : cause.IsLine) :
    isLine (Defect.expression field cause).message = true := by
  have front : isLine ("default value for `" ++ field ++ "` is not a valid expression: ") = true :=
    isLine_between (isLine_ofList rfl) named (isLine_ofList rfl)
  dsimp only [message]
  rw [isLine_append, front, line.message]
  rfl

/-- In what is wrong with a type a line is broken by its text alone. -/
theorem Defect.mem_message_type_iff {text : String} {cause : SyntaxError} (line : cause.IsLine)
    {c : Char} (breaks : isLineBreak c = true) :
    c ∈ (Defect.type text cause).message.toList ↔ c ∈ text.toList := by
  have refusal := mem_iff_false breaks line.message
  dsimp only [message]
  simp (disch := exact isLine_ofList rfl) only [String.toList_append, List.mem_append,
    mem_iff_false breaks, refusal, false_or, or_false]

/-- A line is broken in the report of a defect if it is in the text of a type that could not be
read. -/
theorem mem_message_of_arises {decl : Declaration} {tableName : String} {defect : Defect}
    (lines : decl.IsLine) (line : isLine tableName = true) (arises : Arises decl tableName defect)
    {c : Char} (breaks : isLineBreak c = true) :
    c ∈ defect.diagnostic.message.toList ↔
      ∃ text cause, defect = .type text cause ∧ c ∈ text.toList := by
  have detail : defect.diagnostic.cause.detail = defect.message := rfl
  rw [Diagnostic.mem_message_iff breaks, detail]
  cases arises with
  | tableName unread =>
    rw [mem_iff_false breaks (Defect.isLine_tableName line)]
    simp
  | expression declared unread =>
    rw [mem_iff_false breaks (Defect.isLine_expression (lines.fields _ declared)
      (isLine_of_readExpression unread))]
    simp
  | type unread =>
    rw [Defect.mem_message_type_iff (isLine_of_readType unread) breaks]
    simp

/-- What is said about a type, in one line as far as possible. -/
structure SpeaksInLines (item : TypeItem) (config : Configuration) : Prop where
  /-- What is found while the attributes are read. -/
  flaws : ∀ d ∈ item.lower.flaws, d.BreaksInTag d.message
  /-- What a run reports. -/
  run : ∀ d ∈ (outcomeOf item config).diagnostics, isLine d.message = true
  /-- What is reported in place of the code. -/
  defects : config.flaw? = none → ∀ hasBridge defect,
    Code.ofOutcome item.lower.decl (outcomeOf item config) hasBridge = .error (.defect defect) →
    ∀ c, isLineBreak c = true → (c ∈ defect.diagnostic.message.toList ↔
      ∃ text cause, defect = .type text cause ∧ c ∈ text.toList)

/-- So it is for every type of a source text. -/
theorem speaksInLines_of_isSpelt {item : TypeItem} (spelt : item.IsSpelt) (config : Configuration) :
    SpeaksInLines item config where
  flaws _ member := (spelt.isPlain_of_mem_flaws member).breaksInTag
  run _ member := (spelt.isLine_lower.of_mem_generate member).message
  defects accepted _ _ failed _ breaks := by
    have line : isLine (config.tableName item.lower.decl.name) = true := by
      rw [Configuration.tableName, isLine_append, spelt.isLine_lower.name,
        Configuration.isLine_tableSuffix accepted]
      rfl
    exact mem_message_of_arises spelt.isLine_lower line (arises_of_code failed) breaks

end Expansion

namespace Commands

open Source Expansion

/-! ## Files -/

section

variable {items : List Item} (spelt : ∀ item ∈ openedItems items, item.DeclaresSpelt)

include spelt

/-- The names of the enumerations are lines. -/
theorem isLine_of_mem_enumerations {name : String} (member : name ∈ (survey items).enumerations) :
    isLine name = true := by
  rw [survey_eq] at member
  obtain ⟨item, inside, is⟩ := List.mem_filterMap.mp member
  cases item with
  | type declared =>
    obtain ⟨attrs, visibility, own, generics, body⟩ := declared
    cases body with
    | enumeration variants =>
      cases is
      exact isLine_of_isIdentifierText (spelt (.type _) inside).name.written
    | named _ | tuple _ | unit | union => cases is
  | function _ | implementation _ | module _ | other => cases is

/-- Everything that is found about a type within its file is plain. -/
theorem isPlain_of_mem_found {type : SurveyedType} (member : type ∈ (survey items).types)
    {config : Configuration} {d : Diagnostic}
    (found : d ∈ ((survey items).situate type config).found config) : d.IsPlain := by
  have ofType := isSpelt_of_mem_survey spelt member
  rcases List.mem_append.mp found with flaw | generated
  · rcases List.mem_append.mp flaw with lowered | conflict
    · exact ofType.isPlain_of_mem_flaws lowered
    · unfold Survey.situate at conflict
      dsimp only at conflict
      split at conflict
      · rename_i taken
        rw [List.mem_singleton.mp conflict]
        have listed := List.contains_iff_mem.mp (Bool.and_eq_true_iff.mp taken).2
        exact ⟨.inr (isLine_of_mem_enumerations spelt listed), Target.isLine_type⟩
      · cases conflict
  · split at generated
    · cases generated
    · -- Whether the type asks for generation makes no difference to its names.
      have lines : ((survey items).situate type config).lowered.decl.IsLine :=
        ⟨ofType.isLine_lower.name, ofType.isLine_lower.fields⟩
      exact (lines.of_mem_generate generated).isPlain

/-- The owner of a finding is a line, and what is found is plain. -/
theorem isPlain_of_mem_check {path : String} {config : Configuration} {finding : Finding}
    (member : finding ∈ check ⟨path, survey items⟩ config) :
    finding.file = path ∧ isLine finding.owner = true ∧ finding.diagnostic.IsPlain := by
  rw [check_eq] at member
  rcases List.mem_append.mp member with ofType | misplaced
  · obtain ⟨type, inside, found⟩ := List.mem_flatMap.mp ofType
    obtain ⟨d, raised, rfl⟩ := List.mem_map.mp found
    have named := (isSpelt_of_mem_survey spelt inside).name.written
    exact ⟨rfl, isLine_unraw (isLine_of_isIdentifierText named),
      isPlain_of_mem_found spelt inside raised⟩
  · obtain ⟨found, inside, rfl⟩ := List.mem_map.mp misplaced
    obtain ⟨owner, line⟩ := isLine_of_mem_misplaced spelt inside
    exact ⟨rfl, owner, line.isPlain⟩

end

/-- In the line for a finding everything but the message is a line if the path is one. -/
theorem Finding.breaksInTag {finding : Finding} (path : isLine finding.file = true)
    (owner : isLine finding.owner = true) (plain : finding.diagnostic.IsPlain) :
    finding.diagnostic.BreaksInTag finding.text := by
  have words : isLine ": " = true ∧ isLine " (" = true ∧ isLine "): " = true :=
    ⟨isLine_ofList rfl, isLine_ofList rfl, isLine_ofList rfl⟩
  have severity : isLine finding.diagnostic.severity.text = true := by
    cases finding.diagnostic.severity <;> exact isLine_ofList rfl
  have front : isLine (finding.file ++ ": " ++ finding.owner ++ ": " ++
      finding.diagnostic.severity.text ++ " (" ++ finding.diagnostic.target.text ++ "): ") =
      true := by
    simp only [isLine_append, path, owner, severity, plain.target, words, Bool.and_self]
  intro c breaks
  rw [text, String.toList_append, List.mem_append, mem_iff_false breaks front, false_or]
  exact plain.mem_message_iff breaks

/-- So it is for everything that a check finds in a file that was read. -/
theorem breaksInTag_of_mem_check {path text : String} {file : SourceFile} {config : Configuration}
    (opened : SourceFile.ofText path text = .ok file) (line : isLine path = true)
    {finding : Finding} (member : finding ∈ check file config) :
    finding.diagnostic.BreaksInTag finding.text := by
  obtain ⟨items, rfl, spelt⟩ := exists_of_ofText opened
  obtain ⟨rfl, owner, plain⟩ := isPlain_of_mem_check spelt member
  exact Finding.breaksInTag line owner plain

/-- What commands say about a file, in one line as far as possible. -/
structure FileInLines (file : SourceFile) (config : Configuration) : Prop where
  types : ∀ type ∈ file.survey.types, SpeaksInLines type.item config
  /-- What is found about a type within the file, which includes conflicts about its key table. -/
  found : ∀ type ∈ file.survey.types, ∀ d ∈ (file.survey.situate type config).found config,
    d.BreaksInTag d.message
  /-- What is found about items that cannot take directives. -/
  misplaced : ∀ found ∈ file.survey.misplaced, isLine found.diagnostic.message = true
  /-- The lines of a check. -/
  findings : isLine file.path = true → ∀ finding ∈ check file config,
    finding.diagnostic.BreaksInTag finding.text

/-- For every source text and every configuration, no line is broken in anything that is found, but
by the tag of a case style that does not exist or by the text of a type that could not be read. -/
theorem speaksInLines (config : Configuration) (text : String) :
    (∀ item, readTypeItem text = .ok item → SpeaksInLines item config) ∧
      ∀ path file, SourceFile.ofText path text = .ok file → FileInLines file config := by
  refine ⟨fun item read => speaksInLines_of_isSpelt (isSpelt_of_readTypeItem read) config, ?_⟩
  intro path file opened
  obtain ⟨items, same, spelt⟩ := exists_of_ofText opened
  subst same
  constructor
  case types =>
    exact fun type member => speaksInLines_of_isSpelt (isSpelt_of_mem_survey spelt member) config
  case found =>
    exact fun type member d raised => (isPlain_of_mem_found spelt member raised).breaksInTag
  case misplaced => exact fun found member => (isLine_of_mem_misplaced spelt member).2.message
  case findings => exact fun line finding => breaksInTag_of_mem_check opened line

/-- A type with a tag of two lines that names no case style. -/
def torn : String :=
  "#[derive(Codify)] #[codify(case = \"a\\nb\")] struct S \x7b x: u8 \x7d"

/-- A check of the file finds the tag. -/
theorem exists_check_torn : ∃ file, SourceFile.ofText "models.rs" torn = .ok file ∧
    ∃ finding ∈ check file .standard, finding.diagnostic.cause = .unknownCaseStyle "a\nb" := by
  have found : (SourceFile.ofText "models.rs" torn).map (fun file =>
      (check file .standard).map (·.diagnostic.cause)) = .ok [.unknownCaseStyle "a\nb"] := by
    decide +kernel
  obtain ⟨file, opened, causes⟩ := map_eq_ok_iff.mp found
  have listed : Cause.unknownCaseStyle "a\nb" ∈
      (check file .standard).map (·.diagnostic.cause) := by
    rw [causes]
    exact List.mem_singleton_self _
  obtain ⟨finding, member, cause⟩ := List.mem_map.mp listed
  exact ⟨file, opened, finding, member, cause⟩

/-- The line is broken in what a check prints about it. -/
theorem speaksInLines_torn : ∃ file, SourceFile.ofText "models.rs" torn = .ok file ∧
    ∃ finding ∈ check file .standard, '\n' ∈ finding.text.toList := by
  obtain ⟨file, opened, finding, member, cause⟩ := exists_check_torn
  obtain ⟨items, same, -⟩ := exists_of_ofText opened
  have named : isLine "models.rs" = true := isLine_ofList rfl
  have path : isLine file.path = true := same ▸ named
  have lines := (speaksInLines .standard torn).2 "models.rs" file opened
  have breaks := lines.findings path finding member '\n' (by decide)
  exact ⟨file, opened, finding, member, breaks.mpr ⟨_, cause, by decide⟩⟩

/-- Not everything that a check prints about a file is one line, even if the path is one. -/
theorem check_torn : ¬ ∀ path text file config, isLine path = true →
    SourceFile.ofText path text = .ok file →
    ∀ finding ∈ check file config, isLine finding.text = true := by
  intro always
  obtain ⟨file, opened, finding, member, cause⟩ := exists_check_torn
  have path : isLine "models.rs" = true := isLine_ofList rfl
  have breaks := breaksInTag_of_mem_check opened path member '\n' (by decide)
  have line := always _ torn file .standard path opened finding member
  exact isLine_iff.mp line '\n' (by decide) (breaks.mpr ⟨_, cause, by decide⟩)

end Commands

end RecordCoding
