import RecordCoding.Proofs.Commands.Underscores
import RecordCoding.Proofs.Generation.EmptyKeys

/-!
# Names of which a style leaves nothing

A name that is read off a source text is never empty, and the only separators in it are
underscores. A name of nothing but underscores is allowed, however, and a case style removes them
all. So these are the stored fields that have the empty key, unless a literal key, a prefix or a
suffix is written for them; an empty literal key is reported and leaves no table.
-/

namespace RecordCoding

namespace Expansion

open Source Text

/-- The only separator in a plain word is the underscore. -/
theorem isWordSeparator_iff_of_isWord {chars : List Char} (word : IsWord chars) {c : Char}
    (member : c ∈ chars) : isWordSeparator c = true ↔ c = '_' := by
  obtain ⟨start, continues⟩ := word
  have noHyphen : c ≠ '-' := by
    rintro rfl
    rcases List.mem_cons.mp member with rfl | later
    · exact absurd start (by decide)
    · exact absurd (continues _ later) (by decide)
  simp [isWordSeparator, noHyphen]

/-- So it is in every name of a field. -/
theorem IsFieldName.isWord {name : String} (named : IsFieldName name) : IsWord name.toList := by
  rcases named with identifier | rfl
  · exact identifier.isWord
  · decide

/-- The entry of a stored field in a key table: its key is empty exactly if the field vanishes. -/
structure Fills (decl : Declaration) (field : Field) (entry : KeyEntry) : Prop where
  listed : entry.field = field.name
  present : field.name ≠ ""
  /-- What styles remove from the name are its underscores. -/
  separators : ∀ c ∈ field.name.toList, isWordSeparator c = true ↔ c = '_'
  key : entry.key = "" ↔ field.Vanishes decl

/-- A generated table has one entry for each stored field, in order, and no empty key but those of
fields that vanish. -/
def FillsKeys (item : TypeItem) (config : Configuration) : Prop :=
  ∀ table, (outcomeOf item config).artifacts.keyTable = some table →
    List.Forall₂ (Fills item.lower.decl) item.lower.decl.storedFields table.entries

/-- So it is for every type whose fields are named that should be. -/
theorem fillsKeys_of_isNamed {item : TypeItem} (named : item.body.IsNamed)
    (config : Configuration) : FillsKeys item config := by
  intro table produced
  have done : (outcomeOf item config).state = .done := done_of_keyTable produced
  obtain ⟨found, stands⟩ := exists_generate_of_keyTable produced
  have entries := KeyTable.entries_of_generate stands
  dsimp only at entries
  rw [entries, List.forall₂_map_right_iff, List.forall₂_same]
  intro field stored
  have declared := (Declaration.mem_storedFields.mp stored).1
  have word : IsWord field.name.toList :=
    IsFieldName.isWord ((name_of_mem_fields named done declared).imp_right And.left)
  have present : field.name ≠ "" := by
    intro empty
    rw [empty] at word
    cases word
  exact ⟨rfl, present, fun _ => isWordSeparator_iff_of_isWord word,
    KeyTable.key_eq_empty_iff stands stored present⟩

end Expansion

namespace Commands

open Source Expansion

/-- Whatever text a type is read off, on its own or in a file, no key of its generated table is
empty but those of fields that vanish. -/
theorem fillsKeys (text : String) (config : Configuration) :
    (∀ item, readTypeItem text = .ok item → FillsKeys item config) ∧
      ∀ path file, SourceFile.ofText path text = .ok file →
        ∀ type ∈ file.survey.types, FillsKeys type.item config :=
  ⟨fun _ read => fillsKeys_of_isNamed (isNamed_of_readTypeItem read) config,
    fun _ _ opened _ member => fillsKeys_of_isNamed (isNamed_of_mem_types opened member) config⟩

/-- A struct with two fields that are named by underscores, one of them with a literal key. -/
def gaps : String :=
  "#[derive(Codify)] #[codify(case = \"camelCase\")] struct Gaps " ++
    "\x7b __: u8, #[codify(rename = \"blank\")] ___: u8, user_name: u8 \x7d"

/-- Nothing is wrong in its attributes, and there is a key table for it. -/
private theorem read_gaps : ∃ item table, readTypeItem gaps = .ok item ∧ item.lower.flaws = [] ∧
    (outcomeOf item .standard).artifacts.keyTable = some table ∧
    table.entries = [⟨"__", ""⟩, ⟨"___", "blank"⟩, ⟨"user_name", "userName"⟩] := by
  have keys : (readTypeItem gaps).map (fun item => (item.lower.flaws,
      (outcomeOf item .standard).artifacts.keyTable.map (·.entries))) =
      .ok ([], some [⟨"__", ""⟩, ⟨"___", "blank"⟩, ⟨"user_name", "userName"⟩]) := by
    decide +kernel
  obtain ⟨item, read, outcome⟩ := map_eq_ok_iff.mp keys
  obtain ⟨flawless, produced⟩ := Prod.mk.inj outcome
  obtain ⟨table, made, entries⟩ := Option.map_eq_some_iff.mp produced
  exact ⟨item, table, read, flawless, made, entries⟩

/-- The field without a literal key vanishes, and the other ones have keys. -/
theorem fillsKeys_gaps : ∃ item table, readTypeItem gaps = .ok item ∧
    (outcomeOf item .standard).artifacts.keyTable = some table ∧
    List.Forall₂ (Fills item.lower.decl) item.lower.decl.storedFields table.entries ∧
    table.entries.map (·.key) = ["", "blank", "userName"] := by
  obtain ⟨item, table, read, -, made, entries⟩ := read_gaps
  have fills : FillsKeys item .standard := (fillsKeys gaps .standard).1 item read
  exact ⟨item, table, read, made, fills table made, by rw [entries]; rfl⟩

/-- Not every key of a generated table is something, even for types without anything wrong in their
attributes. -/
theorem gaps_keyed_empty : ¬ ∀ (text : String) (config : Configuration) (item : TypeItem)
    (table : KeyTable), readTypeItem text = .ok item → item.lower.flaws = [] →
    (outcomeOf item config).state = .done →
    (outcomeOf item config).artifacts.keyTable = some table →
    ∀ entry ∈ table.entries, entry.key ≠ "" := by
  intro always
  obtain ⟨item, table, read, flawless, made, entries⟩ := read_gaps
  have empty : ⟨"__", ""⟩ ∈ table.entries := by
    rw [entries]
    exact List.mem_cons_self
  exact always gaps .standard item table read flawless (done_of_keyTable made) made _ empty rfl

end Commands

end RecordCoding
