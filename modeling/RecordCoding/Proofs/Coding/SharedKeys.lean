import RecordCoding.Coding.KeySet
import RecordCoding.Proofs.Coding.Generated

/-!
# Keys that are shared

A key table is made without comparing its keys, so fields whose directives call for the same key
share it. Of fields that share a key the first is the one found under it, and the last that writes
something is the one whose member remains.
-/

namespace RecordCoding

namespace KeySet

/-- A key is found at its first position. -/
theorem indexOf?_eq_some_iff {keys : List String} {text : String} {index : Nat} :
    indexOf? keys text = some index ↔
      keys[index]? = some text ∧ ∀ earlier < index, keys[earlier]? ≠ some text := by
  unfold indexOf?
  rw [List.findIdx?_eq_some_iff_getElem]
  constructor
  · rintro ⟨bound, here, before⟩
    refine ⟨by simpa [List.getElem?_eq_getElem bound] using here, ?_⟩
    intro earlier less same
    obtain ⟨inside, found⟩ := List.getElem?_eq_some_iff.mp same
    exact before earlier less (by simpa using found)
  · rintro ⟨here, before⟩
    obtain ⟨bound, found⟩ := List.getElem?_eq_some_iff.mp here
    refine ⟨bound, by simpa using found, ?_⟩
    intro earlier less same
    have inside := less.trans bound
    exact before earlier less (List.getElem?_eq_some_iff.mpr ⟨inside, by simpa using same⟩)

/-- Every key is found at its own position exactly if none is repeated. -/
theorem nodup_iff_indexOf? {keys : List String} :
    keys.Nodup ↔ ∀ index text, keys[index]? = some text → indexOf? keys text = some index := by
  rw [List.nodup_iff_getElem?_ne_getElem?]
  constructor
  · intro distinct index text here
    refine indexOf?_eq_some_iff.mpr ⟨here, ?_⟩
    intro earlier less same
    obtain ⟨bound, -⟩ := List.getElem?_eq_some_iff.mp here
    exact distinct earlier index less bound (same.trans here.symm)
  · intro found first second less bound same
    have here := List.getElem?_eq_getElem bound
    have firstFound := found first _ (same.trans here)
    rw [found second _ here] at firstFound
    cases firstFound
    exact lt_irrefl _ less

end KeySet

namespace Field

variable {decl : Declaration} {first second : Field}

/-- The same prefix and the same suffix apply to two fields. -/
def AffixedAlike (decl : Declaration) (first second : Field) : Prop :=
  (first.inherited? decl Directive.keyPrefix?).getD "" =
      (second.inherited? decl Directive.keyPrefix?).getD "" ∧
    (first.inherited? decl Directive.keySuffix?).getD "" =
      (second.inherited? decl Directive.keySuffix?).getD ""

/-- No case style changes the name of a field. -/
def Unstyled (decl : Declaration) (field : Field) : Prop :=
  field.inherited? decl Directive.caseStyle? = none ∨
    field.inherited? decl Directive.caseStyle? = some .noChange

/-- A literal key is the key. -/
theorem chosenKey_of_literal {field : Field} {key : String} (single : field.renames = [key]) :
    field.chosenKey decl = key := by
  rw [chosenKey, single]

/-- Between the same prefix and suffix, keys are the same exactly if names are in their styles. -/
theorem chosenKey_eq_iff_of_unnamed (unnamed : first.renames = [] ∧ second.renames = [])
    (alike : AffixedAlike decl first second) :
    first.chosenKey decl = second.chosenKey decl ↔
      first.styledName decl = second.styledName decl := by
  rw [chosenKey, unnamed.1, chosenKey, unnamed.2]
  dsimp only
  rw [alike.1, alike.2, String.append_left_inj, String.append_right_inj]

/-- A name that no style changes stays as it is. -/
theorem styledName_of_unstyled {field : Field} (unstyled : field.Unstyled decl) :
    field.styledName decl = field.name := by
  rcases unstyled with none | identity
  · rw [styledName, none]
  · rw [styledName, identity]
    exact String.ofList_toList

end Field

namespace RecordFormat

variable {format : RecordFormat} {decl : Declaration}

/-- Under a table that assigns to the stored fields the keys they call for, these are the keys. -/
theorem Declares.key_eq_chosenKey (declares : format.Declares decl)
    (entries : format.keys.entries =
      decl.storedFields.map fun field => ⟨field.name, field.chosenKey decl⟩)
    {declared : Field} (stored : declared ∈ decl.storedFields) :
    format.key declared.name = declared.chosenKey decl := by
  have distinct : (format.keys.entries.map (·.field)).Nodup := by
    rw [entries, List.map_map]
    exact (List.filter_sublist.map _).nodup declares.names
  have member : (⟨declared.name, declared.chosenKey decl⟩ : KeyEntry) ∈ format.keys.entries := by
    rw [entries]
    exact List.mem_map_of_mem stored
  rw [key, KeyTable.wireKey?, find?_key distinct member]
  rfl

end RecordFormat

/-- A key table assigns to the stored fields the keys they call for, whether or not fields share
them. -/
structure AssignsKeys (table : KeyTable) (decl : Declaration) (config : Configuration) :
    Prop where
  /-- There is one entry for each stored field, in order, with the key it calls for. -/
  entries : table.entries = decl.storedFields.map fun field => ⟨field.name, field.chosenKey decl⟩
  /-- Fields with literal keys share a key exactly if these are the same. -/
  literal : ∀ first ∈ decl.storedFields, ∀ second ∈ decl.storedFields, ∀ key other,
    first.renames = [key] → second.renames = [other] →
    (first.chosenKey decl = second.chosenKey decl ↔ key = other)
  /-- Fields with the same prefix and suffix share a key exactly if their names are the same in
  the styles that apply. -/
  styled : ∀ first ∈ decl.storedFields, ∀ second ∈ decl.storedFields,
    first.renames = [] ∧ second.renames = [] → Field.AffixedAlike decl first second →
    (first.chosenKey decl = second.chosenKey decl ↔
      first.styledName decl = second.styledName decl)
  /-- They share none if no style changes their names. -/
  unstyled : ∀ first ∈ decl.storedFields, ∀ second ∈ decl.storedFields, first ≠ second →
    first.renames = [] ∧ second.renames = [] → Field.AffixedAlike decl first second →
    first.Unstyled decl ∧ second.Unstyled decl →
    first.chosenKey decl ≠ second.chosenKey decl
  /-- The first entry with a key is the one found under it. -/
  first : ∀ key index, KeySet.indexOf? (table.entries.map (·.key)) key = some index ↔
    (table.entries.map (·.key))[index]? = some key ∧
      ∀ earlier < index, (table.entries.map (·.key))[earlier]? ≠ some key
  /-- Every entry is found under its key exactly if no key is shared. -/
  inverse : (table.entries.map (·.key)).Nodup ↔
    ∀ index key, (table.entries.map (·.key))[index]? = some key →
      KeySet.indexOf? (table.entries.map (·.key)) key = some index
  /-- What remains under a key is what was written last under it, and what each field has written
  if no key is shared. -/
  last : ∀ format : RecordFormat, format.Declares decl → format.keys = table →
    (generate decl config).artifacts.encode = some format.encode →
    ∀ record document, format.write record = .ok document →
      ∃ members, document = .object members ∧ ∃ member : Field → Option Json,
        (∀ declared ∈ decl.storedFields, ∀ encoder,
          format.writeField record encoder declared.encodeStatement =
            .ok (encoder.put (declared.chosenKey decl) (member declared))) ∧
        (∀ key, Json.member? members key =
          ((decl.storedFields.filter (·.chosenKey decl == key)).filterMap member).getLast?) ∧
        ((table.entries.map (·.key)).Nodup → ∀ declared ∈ decl.storedFields,
          Json.member? members (declared.chosenKey decl) = member declared)

/-- What a generated routine writes with the keys the fields call for: of fields that share a key
the last that writes something remains. -/
theorem RecordFormat.Declares.exists_members_of_write {format : RecordFormat} {decl : Declaration}
    {config : Configuration} (declares : format.Declares decl)
    (entries : format.keys.entries =
      decl.storedFields.map fun field => ⟨field.name, field.chosenKey decl⟩)
    (encodes : (generate decl config).artifacts.encode = some format.encode) {record : Record}
    {document : Json} (write : format.write record = .ok document) :
    ∃ members, document = .object members ∧ ∃ member : Field → Option Json,
      (∀ declared ∈ decl.storedFields, ∀ encoder,
        format.writeField record encoder declared.encodeStatement =
          .ok (encoder.put (declared.chosenKey decl) (member declared))) ∧
      ∀ key, Json.member? members key =
        ((decl.storedFields.filter (·.chosenKey decl == key)).filterMap member).getLast? := by
  obtain ⟨member, each, rfl⟩ := (write_eq_ok_iff declares.names encodes).mp write
  refine ⟨_, rfl, member, ?_, ?_⟩
  · intro declared stored encoder
    rw [format.writeField_encodeStatement, each declared stored,
      declares.key_eq_chosenKey entries stored]
    rfl
  · intro key
    have same : decl.storedFields.filter (format.key ·.name == key) =
        decl.storedFields.filter (·.chosenKey decl == key) := by
      refine List.filter_congr fun declared stored => ?_
      rw [declares.key_eq_chosenKey entries stored]
    rw [Encoder.member?_putAll_eq, same]
    exact Option.or_none

/-- A generated table assigns to the stored fields the keys they call for. -/
theorem assignsKeys_of_generate {decl : Declaration} {config : Configuration} {table : KeyTable}
    (names : (decl.fields.map (·.name)).Nodup)
    (made : (generate decl config).artifacts.keyTable = some table) :
    AssignsKeys table decl config := by
  obtain ⟨found, stands⟩ := exists_generate_of_keyTable made
  have entries := KeyTable.entries_of_generate stands
  refine ⟨entries, ?_, ?_, ?_, ?_, ?_, ?_⟩
  · intro first _ second _ key other single singleToo
    rw [Field.chosenKey_of_literal single, Field.chosenKey_of_literal singleToo]
  · intro first _ second _ unnamed alike
    exact Field.chosenKey_eq_iff_of_unnamed unnamed alike
  · intro first stored second storedToo differ unnamed alike unstyled shared
    rw [Field.chosenKey_eq_iff_of_unnamed unnamed alike,
      Field.styledName_of_unstyled unstyled.1, Field.styledName_of_unstyled unstyled.2] at shared
    exact differ (List.inj_on_of_nodup_map names (Declaration.mem_storedFields.mp stored).1
      (Declaration.mem_storedFields.mp storedToo).1 shared)
  · exact fun key index => KeySet.indexOf?_eq_some_iff
  · exact KeySet.nodup_iff_indexOf?
  · rintro format declares rfl encodes record document write
    obtain ⟨members, rfl, member, each, last⟩ :=
      declares.exists_members_of_write entries encodes write
    refine ⟨members, rfl, member, each, last, ?_⟩
    intro distinct declared stored
    have apart : (decl.storedFields.map fun field => field.chosenKey decl).Nodup := by
      rw [entries, List.map_map] at distinct
      exact distinct
    rw [last, getLast?_filterMap_key apart member stored]

/-- Fields that share a key are in a table that is generated without complaint. -/
theorem keys_of_clash_shared :
    (Sample.clash.declaration.fields.map (·.name)).Nodup ∧
    (generate Sample.clash.declaration .standard).state = .done ∧
    ∃ table, (generate Sample.clash.declaration .standard).artifacts.keyTable = some table ∧
      ¬ (table.entries.map (·.key)).Nodup :=
  ⟨by decide, by decide, _, rfl, by decide⟩

/-- Fields that share a key have the keys they call for. -/
theorem assignsKeys_of_generate_clash :
    (Sample.clash.declaration.fields.map (·.name)).Nodup ∧
    ∃ table, (generate Sample.clash.declaration .standard).artifacts.keyTable = some table ∧
      AssignsKeys table Sample.clash.declaration .standard :=
  ⟨by decide, _, rfl, assignsKeys_of_generate (by decide) rfl⟩

end RecordCoding
