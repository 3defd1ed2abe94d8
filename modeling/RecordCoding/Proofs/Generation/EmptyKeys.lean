import RecordCoding.Proofs.CaseStyle.Separated
import RecordCoding.Proofs.Generation.TableContents

/-!
# Empty wire keys

A style writes nothing for an identifier exactly if it has nothing but separators: every other
identifier has a word, no word is empty, and neither casings nor what stands between words takes
anything away. So a generated table has the empty key exactly for the stored fields whose names
consist of separators, where a style applies and neither a literal key, nor a prefix, nor a suffix
is there to fill in.
-/

namespace RecordCoding

namespace LetterRules

variable {rules : LetterRules}

/-- An identifier has no words exactly if there is nothing in it but separators. -/
theorem words_eq_nil_iff (full : ∀ c, rules.lower c ≠ []) {identifier : List Char} :
    rules.words identifier = [] ↔ ∀ c ∈ identifier, isWordSeparator c = true := by
  rw [words_eq_cutWords full]
  have kept := rules.flatten_cutWords identifier
  constructor
  · intro none c member
    rw [none, List.flatten_nil] at kept
    by_contra solid
    have inside : c ∈ identifier.filter fun c => !isWordSeparator c :=
      List.mem_filter.mpr ⟨member, by simpa using solid⟩
    exact full c (List.flatMap_eq_nil_iff.mp kept.symm c inside)
  · intro separators
    have none : (identifier.filter fun c => !isWordSeparator c) = [] :=
      List.filter_eq_nil_iff.mpr fun c member => by simp [separators c member]
    rw [none] at kept
    refine List.eq_nil_iff_forall_not_mem.mpr fun word member => ?_
    have empty : word = [] := List.flatten_eq_nil_iff.mp kept word member
    exact nil_notMem_cutWords full identifier (empty ▸ member)

/-- A casing writes something for every word. -/
theorem write_ne_nil (full : ∀ c, rules.upper c ≠ []) (casing : Casing) (index : Nat)
    {word : List Char} (present : word ≠ []) : casing.write rules index word ≠ [] := by
  obtain ⟨c, rest, rfl⟩ := List.exists_cons_of_ne_nil present
  have capitalized : rules.capitalize (c :: rest) ≠ [] :=
    fun none => full c (List.append_eq_nil_iff.mp none).1
  cases casing with
  | lower => exact present
  | upper => exact fun none => full c (List.flatMap_eq_nil_iff.mp none c List.mem_cons_self)
  | capitalized => exact capitalized
  | camel =>
    by_cases first : index = 0
    · simp [Casing.write, first]
    · simpa [Casing.write, first] using capitalized

end LetterRules

/-- Something that is not empty stays when it is joined with others. -/
theorem intercalate_eq_nil_iff {α : Type} {separator : List α} {parts : List (List α)}
    (full : ∀ part ∈ parts, part ≠ []) : separator.intercalate parts = [] ↔ parts = [] := by
  match parts with
  | [] => simp
  | [part] => simpa using full part
  | part :: next :: rest => simp [List.intercalate_cons_cons, full part List.mem_cons_self]

namespace CaseStyle

/-- What a style writes for an identifier is empty exactly if the identifier has nothing but
separators. -/
theorem apply_eq_empty_iff {style : CaseStyle} (changes : style ≠ .noChange)
    {identifier : String} :
    style.apply identifier = "" ↔ ∀ c ∈ identifier.toList, isWordSeparator c = true := by
  obtain ⟨separator, casing, layout⟩ := exists_layout changes
  have written : ∀ part ∈ (unicodeLetters.words identifier.toList).mapIdx
      (casing.write unicodeLetters), part ≠ [] := by
    intro part member
    obtain ⟨index, bound, rfl⟩ := List.mem_mapIdx.mp member
    refine LetterRules.write_ne_nil Text.toUpper_ne_nil casing index fun none => ?_
    have inside := none ▸ List.getElem_mem bound
    rw [LetterRules.words_eq_cutWords Text.toLower_ne_nil] at inside
    exact LetterRules.nil_notMem_cutWords Text.toLower_ne_nil _ inside
  have empty : style.apply identifier = "" ↔
      style.applyChars unicodeLetters identifier.toList = [] := by
    rw [apply, ← String.toList_inj, String.toList_ofList]
    rfl
  rw [empty, applyChars, layout]
  dsimp only
  rw [intercalate_eq_nil_iff written, List.mapIdx_eq_nil_iff,
    LetterRules.words_eq_nil_iff Text.toLower_ne_nil]

end CaseStyle

namespace Field

/-- Nothing is left of the name of a field in the style that applies to it, and nothing is written
in its place. -/
structure Vanishes (field : Field) (decl : Declaration) : Prop where
  unnamed : field.renames = []
  styled : ∃ style, field.inherited? decl Directive.caseStyle? = some style ∧ style ≠ .noChange
  separators : ∀ c ∈ field.name.toList, isWordSeparator c = true
  noPrefix : (field.inherited? decl Directive.keyPrefix?).getD "" = ""
  noSuffix : (field.inherited? decl Directive.keySuffix?).getD "" = ""

/-- A name becomes empty exactly if there are only separators in it and a style removes them. -/
theorem styledName_eq_empty_iff {field : Field} {decl : Declaration} (named : field.name ≠ "") :
    field.styledName decl = "" ↔
      (∃ style, field.inherited? decl Directive.caseStyle? = some style ∧ style ≠ .noChange) ∧
        ∀ c ∈ field.name.toList, isWordSeparator c = true := by
  unfold styledName
  cases field.inherited? decl Directive.caseStyle? with
  | none => simp [named]
  | some style =>
    by_cases identity : style = .noChange
    · subst identity
      have same : CaseStyle.noChange.apply field.name = field.name := String.ofList_toList
      simp [same, named]
    · simp [CaseStyle.apply_eq_empty_iff identity, identity]

/-- The key a field calls for is empty exactly if the field vanishes, or a literal key says so. -/
theorem chosenKey_eq_empty_iff {field : Field} {decl : Declaration} (named : field.name ≠ "") :
    field.chosenKey decl = "" ↔ field.Vanishes decl ∨ field.renames.head? = some "" := by
  unfold chosenKey
  cases renames : field.renames with
  | cons key rest =>
    have literal : ¬ field.Vanishes decl := fun vanishes => by
      rw [vanishes.unnamed] at renames
      cases renames
    simp [literal]
  | nil =>
    simp only [String.append_eq_empty_iff, styledName_eq_empty_iff named]
    refine ⟨fun ⟨⟨before, styled, separators⟩, after⟩ => .inl ⟨renames, styled, separators, before,
      after⟩, ?_⟩
    rintro (vanishes | literal)
    · exact ⟨⟨vanishes.noPrefix, vanishes.styled, vanishes.separators⟩, vanishes.noSuffix⟩
    · cases literal

/-- A literal key that is accepted is not empty. -/
theorem head?_renames_of_wireKey {field : Field} {defaults : KeyDefaults} {found : WireKey}
    (chosen : field.wireKey defaults = .ok found) : field.renames.head? ≠ some "" := by
  unfold wireKey at chosen
  split at chosen
  · rename_i none
    simp [none]
  · rename_i key single
    split at chosen
    · cases chosen
    · rename_i full
      rw [single]
      rintro ⟨⟩
      exact full rfl
  · cases chosen

end Field

namespace KeyTable

/-- In a generated table the key of a stored field with a name is empty exactly if the field
vanishes. -/
theorem key_eq_empty_iff {decl : Declaration} {config : Configuration} {report : KeyTableReport}
    (made : generate decl config = .ok report) {field : Field} (stored : field ∈ decl.storedFields)
    (named : field.name ≠ "") : field.chosenKey decl = "" ↔ field.Vanishes decl := by
  obtain ⟨-, -, harmless, -⟩ := generate_eq_ok_iff.mp made
  obtain ⟨declared, kept⟩ := Declaration.mem_storedFields.mp stored
  have accepted : field.renames.head? ≠ some "" := by
    rcases contribution_cases config decl.keyDefaults field with
      ⟨computed, -, -⟩ | ⟨-, found, chosen, -⟩ | ⟨-, d, -, prevents⟩
    · rw [kept] at computed
      cases computed
    · exact Field.head?_renames_of_wireKey chosen
    · have fatal := harmless field declared
      rw [prevents] at fatal
      cases fatal
  rw [Field.chosenKey_eq_empty_iff named]
  exact or_iff_left accepted

end KeyTable

end RecordCoding
