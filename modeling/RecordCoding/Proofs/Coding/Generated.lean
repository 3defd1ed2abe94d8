import RecordCoding.Coding.Sample
import RecordCoding.Proofs.Coding.FieldLaws
import RecordCoding.Proofs.Generation.Alignment

/-!
# Record formats with generated routines

The routines of a record format are those generated from a declaration. What is found in them
under the name of a field is what the declaration of that field calls for, so writing a record
puts one member for each stored field, and reading takes each field from its own member.
-/

namespace RecordCoding

/-- A field of a record format is one of a declaration. -/
structure RecordField.Declares (field : RecordField) (declared : Field) : Prop where
  name : field.name = declared.name
  isComputed : field.isComputed = declared.isComputed

/-- A record format has the fields of a declaration, in order, and no two of them share a name. -/
structure RecordFormat.Declares (format : RecordFormat) (decl : Declaration) : Prop where
  names : (decl.fields.map (·.name)).Nodup
  fields : List.Forall₂ RecordField.Declares format.fields decl.fields

/-- Both routines of a record format are generated from a declaration, and no two of its wire keys
are equal. The key table may be generated or declared by hand. -/
structure RecordFormat.Generated (format : RecordFormat) (decl : Declaration)
    (config : Configuration) : Prop where
  names : (decl.fields.map (·.name)).Nodup
  fields : List.Forall₂ RecordField.Declares format.fields decl.fields
  decode : (generate decl config).artifacts.decode = some format.decode
  encode : (generate decl config).artifacts.encode = some format.encode
  keys : (decl.storedFields.map fun field => format.key field.name).Nodup

namespace RecordFormat

variable {format : RecordFormat} {decl : Declaration} {config : Configuration}

namespace Declares

/-- The names of the fields are those of the declaration. -/
theorem map_name (declares : format.Declares decl) :
    format.fields.map (·.name) = decl.fields.map (·.name) := by
  rw [← List.forall₂_eq_eq_eq, List.forall₂_map_left_iff, List.forall₂_map_right_iff]
  exact declares.fields.imp fun _ _ each => each.name

/-- No two fields share a name. -/
theorem nodup_names (declares : format.Declares decl) : (format.fields.map (·.name)).Nodup := by
  rw [declares.map_name]
  exact declares.names

/-- Every field is declared. -/
theorem exists_declared (declares : format.Declares decl) {field : RecordField}
    (member : field ∈ format.fields) : ∃ declared ∈ decl.fields, field.Declares declared :=
  exists_of_mem_left declares.fields member

/-- Every declared field is there. -/
theorem exists_field (declares : format.Declares decl) {declared : Field}
    (member : declared ∈ decl.fields) : ∃ field ∈ format.fields, field.Declares declared :=
  exists_of_mem_right declares.fields member

/-- The plan of a stored field is the one its declaration calls for. -/
theorem plan?_eq (declares : format.Declares decl)
    (decodes : (generate decl config).artifacts.decode = some format.decode) {field : RecordField}
    {declared : Field} (same : field.Declares declared) (stored : declared ∈ decl.storedFields) :
    format.plan? field = declared.readPlan.toOption := by
  have kept : field.isComputed = false :=
    same.isComputed.trans (Declaration.mem_storedFields.mp stored).2
  have found := Field.find?_decodeStatements declares.names stored
  rw [plan?, kept, DecodeRoutine.statement?,
    decode_of_done declares.names (done_of_decode decodes) decodes, same.name, found,
    Field.decodeStatement?]
  simp [Function.comp_def]

/-- A field whose plan is found is read by it. -/
theorem readField_of_readPlan (declares : format.Declares decl)
    (decodes : (generate decl config).artifacts.decode = some format.decode) {field : RecordField}
    {declared : Field} (same : field.Declares declared) (stored : declared ∈ decl.storedFields)
    {plan : ReadPlan} (planned : declared.readPlan = .ok plan) (container : Container) :
    format.readField container field =
      (field.name, ·) <$> readPlanned container (format.key field.name) field plan := by
  rw [readField, declares.plan?_eq decodes same stored, planned]
  rfl

/-- A field whose plan is refused is not read. -/
theorem readField_of_lacksDefault (declares : format.Declares decl)
    (decodes : (generate decl config).artifacts.decode = some format.decode) {field : RecordField}
    {declared : Field} (same : field.Declares declared) (stored : declared ∈ decl.storedFields)
    (lacks : declared.lacksDefault = true) (container : Container) :
    format.readField container field = .ok (field.name, field.format.initial) := by
  rcases declared.readPlan_cases with ⟨-, refused⟩ | ⟨given, -⟩
  · rw [readField, declares.plan?_eq decodes same stored, refused]
    rfl
  · rw [lacks] at given
    cases given

end Declares

namespace Generated

/-- The fields are those of the declaration. -/
theorem declares (generated : format.Generated decl config) : format.Declares decl :=
  ⟨generated.names, generated.fields⟩

/-- No two fields share a name. -/
theorem nodup_names (generated : format.Generated decl config) :
    (format.fields.map (·.name)).Nodup :=
  generated.declares.nodup_names

/-- Every field is declared. -/
theorem exists_declared (generated : format.Generated decl config) {field : RecordField}
    (member : field ∈ format.fields) : ∃ declared ∈ decl.fields, field.Declares declared :=
  generated.declares.exists_declared member

end Generated

/-- The member that is written for a stored field of a record, if any. -/
def memberOf (format : RecordFormat) (record : Record) (declared : Field) :
    Except CodingError (Option Json) :=
  match format.fields.find? (·.name == declared.name), record.lookup declared.name with
  | some field, some value =>
    (field.written (.ofOptional declared.isOptional) value).mapError fun error =>
      .ofUnwritable (format.key declared.name) error.message
  | _, _ => .error (.ofUnwritable (format.key declared.name) WriteError.foreignValue.message)

/-- A stored field is written by putting its member under its key. -/
theorem writeField_encodeStatement (format : RecordFormat) (record : Record) (encoder : Encoder)
    (declared : Field) :
    format.writeField record encoder declared.encodeStatement =
      encoder.put (format.key declared.name) <$> format.memberOf record declared := by
  unfold writeField memberOf Field.encodeStatement
  dsimp only
  cases format.fields.find? (·.name == declared.name) with
  | none => rfl
  | some field =>
    cases record.lookup declared.name with
    | none => rfl
    | some value =>
      dsimp only
      unfold RecordField.written
      cases WriteRule.ofOptional declared.isOptional with
      | always => cases field.format.whole.write value <;> rfl
      | ifPresent =>
        cases value.toOption? with
        | none => rfl
        | some present =>
          cases present with
          | none => rfl
          | some inner =>
            dsimp only [Option.map_some]
            cases field.format.inner.write inner <;> rfl

/-- A generated routine succeeds if the member of every stored field can be written, and puts each
under the key of its field, in order. -/
theorem write_eq_ok_iff (names : (decl.fields.map (·.name)).Nodup)
    (encodes : (generate decl config).artifacts.encode = some format.encode) {record : Record}
    {document : Json} :
    format.write record = .ok document ↔
      ∃ member : Field → Option Json,
        (∀ declared ∈ decl.storedFields, format.memberOf record declared = .ok (member declared)) ∧
        document = (Encoder.putAll (fun declared => format.key declared.name) member .empty
          decl.storedFields).value := by
  unfold write
  rw [encode_of_done names (done_of_encode encodes) encodes, map_eq_ok_iff]
  dsimp only
  rw [List.foldlM_map]
  simp only [foldlM_eq_ok_iff (format.writeField_encodeStatement record)]
  constructor
  · rintro ⟨-, ⟨member, each, rfl⟩, rfl⟩
    exact ⟨member, each, rfl⟩
  · rintro ⟨member, each, rfl⟩
    exact ⟨_, ⟨member, each, rfl⟩, rfl⟩

namespace Declares

/-- What is written for a stored field is what its rule writes for its value. -/
theorem memberOf_eq (declares : format.Declares decl) {field : RecordField}
    (within : field ∈ format.fields) {declared : Field} (same : field.Declares declared)
    {record : Record} {value : Datum} (holds : record.lookup field.name = some value) :
    format.memberOf record declared =
      (field.written (.ofOptional declared.isOptional) value).mapError fun error =>
        .ofUnwritable (format.key declared.name) error.message := by
  rw [memberOf, ← same.name, find?_key declares.nodup_names within, holds]

/-- A member is written for a stored field exactly if its rule writes it for the value that the
record has for the field. -/
theorem memberOf_eq_ok_iff (declares : format.Declares decl) {declared : Field}
    (stored : declared ∈ decl.storedFields) {record : Record} {member : Option Json} :
    format.memberOf record declared = .ok member ↔
      ∃ field ∈ format.fields, field.Declares declared ∧
        ∃ value, record.lookup declared.name = some value ∧
          field.written (.ofOptional declared.isOptional) value = .ok member := by
  obtain ⟨field, within, same⟩ :=
    declares.exists_field (Declaration.mem_storedFields.mp stored).1
  constructor
  · intro found
    cases holds : record.lookup declared.name with
    | none =>
      rw [memberOf, holds] at found
      split at found <;> contradiction
    | some value =>
      rw [declares.memberOf_eq within same (same.name ▸ holds), mapError_eq_ok_iff] at found
      exact ⟨field, within, same, value, rfl, found⟩
  · rintro ⟨other, inside, sameToo, value, holds, written⟩
    rw [declares.memberOf_eq inside sameToo (sameToo.name ▸ holds), mapError_eq_ok_iff]
    exact written

end Declares

namespace Generated

/-- A record is written as an object with what each stored field writes, and each of these members
is found under the key of its field. -/
theorem exists_members (generated : format.Generated decl config) {record : Record}
    (each : ∀ field ∈ format.fields, ∀ declared ∈ decl.storedFields, field.Declares declared →
      ∃ value member, record.lookup field.name = some value ∧
        field.written (.ofOptional declared.isOptional) value = .ok member) :
    ∃ members, format.write record = .ok (.object members) ∧
      ∀ field ∈ format.fields, ∀ declared ∈ decl.storedFields, field.Declares declared →
        ∀ value, record.lookup field.name = some value →
          field.written (.ofOptional declared.isOptional) value =
            .ok (Json.member? members (format.key field.name)) := by
  have single : ∀ declared ∈ decl.storedFields, ∃ member,
      format.memberOf record declared = .ok member := by
    intro declared stored
    obtain ⟨field, within, same⟩ :=
      generated.declares.exists_field (Declaration.mem_storedFields.mp stored).1
    obtain ⟨value, member, holds, written⟩ := each field within declared stored same
    rw [generated.declares.memberOf_eq within same holds]
    exact ⟨member, mapError_eq_ok_iff.mpr written⟩
  choose! member writes using single
  refine ⟨_, (write_eq_ok_iff generated.names generated.encode).mpr ⟨member, writes, rfl⟩, ?_⟩
  intro field within declared stored same value holds
  have written := writes declared stored
  rw [generated.declares.memberOf_eq within same holds, mapError_eq_ok_iff] at written
  rw [same.name, Encoder.member?_putAll generated.keys stored]
  exact written

end Generated

/-- A field is computed, or declared as stored. -/
theorem Generated.stored_or_computed (generated : format.Generated decl config)
    {field : RecordField} (within : field ∈ format.fields) :
    field.isComputed = true ∨ ∃ declared ∈ decl.storedFields, field.Declares declared := by
  obtain ⟨declared, member, declares⟩ := generated.exists_declared within
  cases computed : field.isComputed with
  | true => exact Or.inl rfl
  | false =>
    have kept : declared.isComputed = false := declares.isComputed.symm.trans computed
    exact Or.inr ⟨declared, Declaration.mem_storedFields.mpr ⟨member, kept⟩, declares⟩

/-- Fields that are computed are not read. -/
theorem readField_of_isComputed {field : RecordField} (computed : field.isComputed = true)
    (container : Container) :
    format.readField container field = .ok (field.name, field.format.initial) := by
  rw [readField, plan?, if_pos computed]

/-- If what each stored field writes is read as some value, whatever else is there, the record is
written and read as these values. -/
theorem Generated.exists_written (generated : format.Generated decl config) {record : Record}
    (result : RecordField → Datum)
    (stored : ∀ field ∈ format.fields, ∀ declared ∈ decl.storedFields, field.Declares declared →
      ∃ value member, record.lookup field.name = some value ∧
        field.written (.ofOptional declared.isOptional) value = .ok member ∧
        ∀ container : Container, container.member? (format.key field.name) = member →
          format.readField container field = .ok (field.name, result field))
    (computed : ∀ field ∈ format.fields, field.isComputed = true →
      result field = field.format.initial) :
    ∃ written, format.write record = .ok written ∧
      format.read written = .ok (format.fields.map fun field => (field.name, result field)) := by
  obtain ⟨members, write, found⟩ := generated.exists_members
    fun field within declared kept declares =>
    let ⟨value, member, holds, written, _⟩ := stored field within declared kept declares
    ⟨value, member, holds, written⟩
  refine ⟨.object members, write, ?_⟩
  refine mapM_eq_ok_map ?_
  intro field within
  rcases generated.stored_or_computed within with skipped | ⟨declared, kept, declares⟩
  · rw [readField_of_isComputed skipped, computed field within skipped]
  · obtain ⟨value, member, holds, written, back⟩ := stored field within declared kept declares
    have here := found field within declared kept declares value holds
    rw [written] at here
    cases here
    exact back ⟨members⟩ rfl

/-- A field is read under its own name. -/
theorem name_of_readField {container : Container} {field : RecordField} {entry : String × Datum}
    (read : format.readField container field = .ok entry) : entry.1 = field.name := by
  unfold readField at read
  split at read
  · obtain ⟨value, -, rfl⟩ := map_eq_ok_iff.mp read
    rfl
  · cases read
    rfl

/-- Reading gives the fields in the order of declaration, each with the value it is read as. -/
theorem exists_values_of_read {members : List (String × Json)} {record : Record}
    (read : format.read (.object members) = .ok record) :
    ∃ value : RecordField → Datum,
      record = format.fields.map (fun field => (field.name, value field)) ∧
      ∀ field ∈ format.fields,
        format.readField ⟨members⟩ field = .ok (field.name, value field) := by
  have each := mapM_eq_ok_iff.mp read
  have single : ∀ field ∈ format.fields, ∃ value,
      format.readField ⟨members⟩ field = .ok (field.name, value) := by
    intro field within
    obtain ⟨⟨name, value⟩, -, found⟩ := exists_of_mem_left each within
    have same : name = field.name := name_of_readField found
    exact ⟨value, same ▸ found⟩
  choose! value found using single
  refine ⟨value, ?_, found⟩
  have again : format.read (.object members) =
      .ok (format.fields.map fun field => (field.name, value field)) :=
    mapM_eq_ok_map found
  rw [read] at again
  exact Except.ok.inj again

end RecordFormat

namespace Sample

variable {sample : Sample} {records : String → Codec} {format : RecordFormat}

/-- The fields of the format of a sample. -/
theorem fields_of_format? (made : sample.format? records = some format) :
    format.fields = sample.fields.map fun field =>
      ⟨field.name, field.isComputed, field.type.format records, field.fallback⟩ := by
  obtain ⟨table, -, rest⟩ := Option.bind_eq_some_iff.mp made
  obtain ⟨decode, -, rest⟩ := Option.bind_eq_some_iff.mp rest
  obtain ⟨encode, -, rest⟩ := Option.bind_eq_some_iff.mp rest
  cases rest
  rfl

/-- The format of a sample has generated routines if neither names nor keys are shared. -/
theorem generated_of_format? (made : sample.format? records = some format)
    (names : (sample.declaration.fields.map (·.name)).Nodup)
    (keys : (sample.declaration.storedFields.map fun field => format.key field.name).Nodup) :
    format.Generated sample.declaration .standard := by
  have fields := fields_of_format? made
  obtain ⟨table, -, rest⟩ := Option.bind_eq_some_iff.mp made
  obtain ⟨decode, decodes, rest⟩ := Option.bind_eq_some_iff.mp rest
  obtain ⟨encode, encodes, rest⟩ := Option.bind_eq_some_iff.mp rest
  cases rest
  refine ⟨names, ?_, decodes, encodes, keys⟩
  rw [fields]
  refine List.forall₂_map_left_iff.mpr (List.forall₂_map_right_iff.mpr ?_)
  exact List.forall₂_same.mpr fun _ _ => ⟨rfl, rfl⟩

/-- What holds of every field of a sample holds of every field of its format and the declaration
of that field. -/
theorem forall_declares (made : sample.format? records = some format)
    (names : (sample.declaration.fields.map (·.name)).Nodup) {P : RecordField → Field → Prop}
    (each : ∀ field ∈ sample.fields,
      P ⟨field.name, field.isComputed, field.type.format records, field.fallback⟩
        ⟨field.name, field.type.declared, none, field.isComputed, field.directives⟩) :
    ∀ field ∈ format.fields, ∀ declared ∈ sample.declaration.fields, field.Declares declared →
      P field declared := by
  intro field within declared member declares
  rw [fields_of_format? made] at within
  obtain ⟨first, inside, rfl⟩ := List.mem_map.mp within
  have described : (⟨first.name, first.type.declared, none, first.isComputed,
      first.directives⟩ : Field) ∈ sample.declaration.fields := List.mem_map_of_mem inside
  have same := List.inj_on_of_nodup_map names described member declares.name
  rw [← same]
  exact each first inside

end Sample

end RecordCoding
