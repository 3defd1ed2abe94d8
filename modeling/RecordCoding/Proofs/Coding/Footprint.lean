import RecordCoding.Proofs.Coding.Normalization

/-!
# Members that are touched

Generated routines touch their own members only. Reading an object depends on the members of the
fields that are read, each field on the one under its own key, and fails as the first field that
does; writing a record makes members for its stored fields and no others.
-/

namespace RecordCoding

namespace Container

variable {α : Type} {container : Container} {reader : Reader α} {key : String}
  {error : CodingError}

/-- An error about a required member names its key. -/
theorem key?_of_decode (failed : container.decode reader key = .error error) :
    error.key? = some key := by
  unfold decode at failed
  split at failed
  · cases failed
    rfl
  · split at failed
    · cases failed
    · cases failed
      split <;> rfl

/-- An error about an optional member names its key. -/
theorem key?_of_decodeIfPresent (failed : container.decodeIfPresent reader key = .error error) :
    error.key? = some key := by
  unfold decodeIfPresent at failed
  split at failed
  · cases failed
  · cases failed
  · split at failed
    · cases failed
    · cases failed
      rfl

end Container

namespace RecordField

/-- Plans with a fallback and plans of optional fields need no member. -/
theorem exists_absentValue {field : RecordField} {plan : ReadPlan}
    (lenient : (∃ expression optional, plan = .defaulted expression optional) ∨
      plan.isOptional = true) : ∃ value, field.absentValue plan = some value := by
  rcases lenient with ⟨expression, optional, rfl⟩ | optional
  · exact ⟨_, rfl⟩
  · cases plan <;> simp_all [absentValue, ReadPlan.isOptional]

end RecordField

namespace RecordFormat

variable {format : RecordFormat} {decl : Declaration} {config : Configuration}

/-- What a plan reads depends on the member under its key only. -/
theorem readPlanned_congr {first second : Container} {key : String}
    (agree : first.member? key = second.member? key) (field : RecordField) (plan : ReadPlan) :
    readPlanned first key field plan = readPlanned second key field plan := by
  rw [readPlanned_eq, readPlanned_eq]
  unfold Container.decode Container.decodeIfPresent
  rw [agree]

/-- An error of a plan names its key. -/
theorem key?_of_readPlanned {container : Container} {key : String} {field : RecordField}
    {plan : ReadPlan} {error : CodingError}
    (failed : readPlanned container key field plan = .error error) : error.key? = some key := by
  rw [readPlanned_eq] at failed
  split at failed
  · exact Container.key?_of_decode (map_eq_error_iff.mp failed)
  · exact Container.key?_of_decodeIfPresent (map_eq_error_iff.mp failed)

/-- The plan of a field is that of a statement for it. -/
theorem exists_statement_of_plan? {field : RecordField} {plan : ReadPlan}
    (planned : format.plan? field = some plan) :
    ∃ statement ∈ format.decode.statements, statement.field = field.name ∧
      statement.plan = plan := by
  unfold plan? at planned
  split at planned
  · cases planned
  · obtain ⟨statement, found, same⟩ := Option.map_eq_some_iff.mp planned
    exact ⟨statement, List.mem_of_find?_eq_some found, by simpa using List.find?_some found, same⟩

/-- A field that is refused has a plan, and the error names its key. -/
theorem key?_of_readField {container : Container} {field : RecordField} {error : CodingError}
    (failed : format.readField container field = .error error) :
    (∃ plan, format.plan? field = some plan) ∧ error.key? = some (format.key field.name) := by
  unfold readField at failed
  split at failed
  · rename_i plan planned
    exact ⟨⟨plan, planned⟩, key?_of_readPlanned (map_eq_error_iff.mp failed)⟩
  · cases failed

/-- Objects that agree on the keys of the decode statements are read alike. -/
theorem read_congr {first second : List (String × Json)}
    (agree : ∀ statement ∈ format.decode.statements,
      Json.member? first (format.key statement.field) =
        Json.member? second (format.key statement.field)) :
    format.read (.object first) = format.read (.object second) := by
  have fields : format.readField ⟨first⟩ = format.readField ⟨second⟩ := by
    funext field
    unfold readField
    cases planned : format.plan? field with
    | none => rfl
    | some plan =>
      obtain ⟨statement, member, name, -⟩ := exists_statement_of_plan? planned
      have same := agree statement member
      rw [name] at same
      exact congrArg ((field.name, ·) <$> ·) (readPlanned_congr same field plan)
  exact congrArg format.fields.mapM fields

/-- Reading touches the members of the fields that are read only, and the first of them that is
refused decides. -/
structure ReadsOwnMembers (format : RecordFormat) (decl : Declaration) : Prop where
  /-- Objects that agree on the keys of the decode statements are read alike. -/
  agree : ∀ first second : List (String × Json),
    (∀ statement ∈ format.decode.statements,
      Json.member? first (format.key statement.field) =
        Json.member? second (format.key statement.field)) →
    format.read (.object first) = format.read (.object second)
  /-- A field that is computed, or whose default lacks a value, has its initial value. -/
  initial : ∀ members record, format.read (.object members) = .ok record →
    ∀ field ∈ format.fields, ∀ declared ∈ decl.fields, field.Declares declared →
      declared.isComputed = true ∨ declared.lacksDefault = true →
      record.lookup field.name = some field.format.initial
  /-- An object is refused exactly if some field is. -/
  refused : ∀ members, (∃ error, format.read (.object members) = .error error) ↔
    ∃ field ∈ format.fields, ∃ error, format.readField ⟨members⟩ field = .error error
  /-- An object is refused for the first field that is. -/
  first : ∀ members error, format.read (.object members) = .error error ↔
    ∃ before field after, format.fields = before ++ field :: after ∧
      (∀ earlier ∈ before, ∃ entry, format.readField ⟨members⟩ earlier = .ok entry) ∧
      format.readField ⟨members⟩ field = .error error
  /-- Only a field with a statement is refused, with an error about its key. -/
  key : ∀ members, ∀ field ∈ format.fields, ∀ error,
    format.readField ⟨members⟩ field = .error error →
      (∃ statement ∈ format.decode.statements, statement.field = field.name) ∧
      error.key? = some (format.key field.name)
  /-- A field with a fallback and an optional one are read whether or not there is a member. -/
  lenient : ∀ members, ∀ field ∈ format.fields, ∀ statement ∈ format.decode.statements,
    statement.field = field.name →
    (∃ expression optional, statement.plan = .defaulted expression optional) ∨
      statement.plan.isOptional = true →
    Json.member? members (format.key field.name) = none ∨
      Json.member? members (format.key field.name) = some .null →
    ∃ entry, format.readField ⟨members⟩ field = .ok entry
  /-- Other documents are refused whatever the fields are. -/
  object : ∀ document, (∀ members, document ≠ .object members) →
    format.read document = .error (.notAnObject document.kind)

/-- Writing touches the members of the stored fields only, each once: those of optional fields if
they hold a value, and those of all others. -/
def WritesOwnMembers (format : RecordFormat) (decl : Declaration) : Prop :=
  ∀ record document, format.write record = .ok document →
    ∃ members, document = .object members ∧ (members.map Prod.fst).Nodup ∧
      ∀ key, key ∈ members.map Prod.fst ↔
        ∃ declared ∈ decl.storedFields, key = format.key declared.name ∧
          (declared.isOptional = true →
            ∃ value, record.lookup declared.name = some (.present value))

/-- Fields that are not read have no plan. -/
theorem Declares.readField_of_unread (declares : format.Declares decl)
    (decodes : (generate decl config).artifacts.decode = some format.decode) {field : RecordField}
    {declared : Field} (member : declared ∈ decl.fields) (same : field.Declares declared)
    (unread : declared.isComputed = true ∨ declared.lacksDefault = true)
    (container : Container) :
    format.readField container field = .ok (field.name, field.format.initial) := by
  cases computed : declared.isComputed with
  | true => exact readField_of_isComputed (same.isComputed.trans computed) container
  | false =>
    have lacks := unread.resolve_left (by simp [computed])
    have stored := Declaration.mem_storedFields.mpr ⟨member, computed⟩
    exact declares.readField_of_lacksDefault decodes same stored lacks container

/-- A generated decode routine reads its own members. -/
theorem Declares.readsOwnMembers (declares : format.Declares decl)
    (decodes : (generate decl config).artifacts.decode = some format.decode) :
    format.ReadsOwnMembers decl where
  agree _ _ := read_congr
  initial := by
    intro members record read field within declared member same unread
    obtain ⟨value, rfl, found⟩ := exists_values_of_read read
    have reads := found field within
    rw [declares.readField_of_unread decodes member same unread] at reads
    have initial : field.format.initial = value field := by simpa using reads
    rw [initial]
    exact lookup_map_pair declares.nodup_names within
  refused _ := exists_mapM_eq_error_iff
  first _ _ := mapM_eq_error_iff
  key := by
    intro members field within error failed
    obtain ⟨⟨plan, planned⟩, about⟩ := key?_of_readField failed
    obtain ⟨statement, member, name, -⟩ := exists_statement_of_plan? planned
    exact ⟨⟨statement, member, name⟩, about⟩
  lenient := by
    intro members field within statement member name plan missing
    obtain ⟨value, absent⟩ := field.exists_absentValue plan
    have reads : readPlanned ⟨members⟩ (format.key field.name) field statement.plan = .ok value :=
      readPlanned_eq_ok_iff.mpr (Or.inr ⟨missing, absent⟩)
    cases planned : format.plan? field with
    | none => exact ⟨(field.name, field.format.initial), by rw [readField, planned]⟩
    | some other =>
      -- Statements for the same field are the same, so the plan of the field is the one given.
      obtain ⟨second, inside, nameToo, rfl⟩ := exists_statement_of_plan? planned
      have routine := decode_of_done declares.names (done_of_decode decodes) decodes
      have distinct : (format.decode.statements.map (·.field)).Nodup := by
        rw [routine]
        exact Field.nodup_decodeStatements declares.names
      have one := List.inj_on_of_nodup_map distinct inside member (nameToo.trans name.symm)
      refine ⟨(field.name, value), ?_⟩
      rw [readField, planned, one]
      dsimp only
      rw [reads]
      rfl
  object _ := format.read_of_not_object

/-- Something is written for a stored field exactly if it is not optional or holds a value. -/
theorem isSome_written_iff {field : RecordField} {optional : Bool} {value : Datum}
    {member : Option Json} (written : field.written (.ofOptional optional) value = .ok member) :
    member.isSome = true ↔ (optional = true → ∃ inner, value = .present inner) := by
  unfold RecordField.written at written
  cases optional with
  | false =>
    obtain ⟨document, -, rfl⟩ := map_eq_ok_iff.mp written
    simp
  | true =>
    unfold Datum.toOption? at written
    cases value with
    | absent =>
      cases written
      simp
    | present inner =>
      obtain ⟨document, -, rfl⟩ := map_eq_ok_iff.mp written
      simp
    | _ => cases written

/-- A generated encode routine writes its own members. -/
theorem Declares.writesOwnMembers (declares : format.Declares decl)
    (encodes : (generate decl config).artifacts.encode = some format.encode) :
    format.WritesOwnMembers decl := by
  intro record document write
  obtain ⟨member, each, rfl⟩ := (write_eq_ok_iff declares.names encodes).mp write
  refine ⟨_, rfl, ?_, ?_⟩
  · exact (Encoder.ascending_putAll List.Pairwise.nil).imp fun before => ne_of_lt before
  · intro key
    rw [Encoder.mem_names_putAll]
    have held : ∀ declared ∈ decl.storedFields, (member declared).isSome = true ↔
        (declared.isOptional = true →
          ∃ value, record.lookup declared.name = some (.present value)) := by
      intro declared stored
      obtain ⟨field, -, -, value, holds, written⟩ :=
        (declares.memberOf_eq_ok_iff stored).mp (each declared stored)
      rw [isSome_written_iff written, holds]
      simp
    constructor
    · rintro (⟨declared, stored, rfl, written⟩ | none)
      · exact ⟨declared, stored, rfl, (held declared stored).mp written⟩
      · cases none
    · rintro ⟨declared, stored, rfl, value⟩
      exact Or.inl ⟨declared, stored, rfl, (held declared stored).mpr value⟩

/-- Generated routines touch their own members only, whatever the table that gives the keys. -/
theorem footprint (declares : format.Declares decl) :
    ((generate decl config).artifacts.decode = some format.decode → format.ReadsOwnMembers decl) ∧
    ((generate decl config).artifacts.encode = some format.encode →
      format.WritesOwnMembers decl) :=
  ⟨declares.readsOwnMembers, declares.writesOwnMembers⟩

/-- The routines of ledgers touch their own members only. -/
theorem footprint_ledger :
    ledger.Declares Sample.ledger.declaration ∧ ledger.ReadsOwnMembers Sample.ledger.declaration ∧
    ledger.WritesOwnMembers Sample.ledger.declaration := by
  have declares := Sample.generated_ledger.declares
  exact ⟨declares, (footprint declares).1 Sample.generated_ledger.decode,
    (footprint declares).2 Sample.generated_ledger.encode⟩

end RecordFormat

end RecordCoding
