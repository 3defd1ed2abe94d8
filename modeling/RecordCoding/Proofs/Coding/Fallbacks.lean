import RecordCoding.Proofs.Coding.Generated

/-!
# Fallbacks of missing values

A record whose fields are neither skipped nor converted is written and read as the same record,
up to one thing: a field that is left out because it has no value is read as its fallback, if it
has one.
-/

namespace RecordCoding

variable {format : RecordFormat} {decl : Declaration} {config : Configuration}

/-- Plans that take a member as a whole. -/
def ReadPlan.isPlain : ReadPlan → Bool
  | .direct | .optional | .defaulted .. => true
  | _ => false

namespace RecordField

/-- A value that a field can hold: one that survives and is not written as null, or no value if the
field is optional. -/
def Holds (field : RecordField) (optional : Bool) (value : Datum) : Prop :=
  if optional then
    value = .absent ∨ ∃ inner document, value = .present inner ∧
      field.format.inner.Survives inner document ∧ document ≠ .null
  else ∃ document, field.format.whole.Survives value document ∧ document ≠ .null

/-- A value of a field with the fallback in place of no value, if its plan has one. -/
def filled (field : RecordField) (plan : Option ReadPlan) (value : Datum) : Datum :=
  match plan, value with
  | some (.defaulted _ true), .absent => .present field.fallback
  | _, value => value

/-- Only a missing value is filled. -/
theorem filled_eq_self_iff {field : RecordField} {plan : Option ReadPlan} {value : Datum} :
    field.filled plan value = value ↔
      (value = .absent → ∀ expression, plan ≠ some (.defaulted expression true)) := by
  unfold filled
  split
  · rename_i expression
    constructor
    · intro same
      cases same
    · intro never
      exact absurd rfl (never rfl expression)
  · rename_i other
    constructor
    · intro _ absent expression planned
      exact other expression planned absent
    · intro _
      rfl

/-- The members of a plain field have its type, without an outer optional layer. -/
theorem memberCodec_of_isPlain (field : RecordField) {plan : ReadPlan}
    (plain : plan.isPlain = true) : field.memberCodec plan =
      if plan.isOptional then field.format.inner else field.format.whole := by
  cases plan with
  | direct => rfl
  | optional => rfl
  | defaulted expression optional => cases optional <;> rfl
  | _ => cases plain

/-- A value of a member that survives is written and read as it is. -/
theorem exists_member_of_survives {field : RecordField} {plan : ReadPlan} {inner : Datum}
    {document : Json} (survives : (field.memberCodec plan).Survives inner document)
    (present : document ≠ .null) :
    ∃ member, field.written plan.writeRule (wrap plan inner) = .ok member ∧
      ∀ (container : Container) (key : String), container.member? key = member →
        RecordFormat.readPlanned container key field plan = .ok (wrap plan inner) := by
  refine ⟨some document, written_wrap survives.1, ?_⟩
  intro container key here
  exact RecordFormat.readPlanned_eq_ok_iff.mpr
    (Or.inl ⟨document, inner, here, fun gone => absurd gone present, survives.2, rfl⟩)

/-- A value that is missing is not written, and read as the fallback if there is one. -/
theorem exists_member_of_absent {field : RecordField} {plan : ReadPlan}
    (plain : plan.isPlain = true) (optional : plan.isOptional = true) :
    ∃ member, field.written plan.writeRule .absent = .ok member ∧
      ∀ (container : Container) (key : String), container.member? key = member →
        RecordFormat.readPlanned container key field plan =
          .ok (field.filled (some plan) .absent) := by
  refine ⟨none, by rw [ReadPlan.writeRule, optional]; rfl, ?_⟩
  intro container key missing
  refine RecordFormat.readPlanned_eq_ok_iff.mpr (Or.inr ⟨Or.inl missing, ?_⟩)
  cases plan with
  | optional => rfl
  | defaulted expression _ =>
    cases optional
    rfl
  | _ => cases optional <;> cases plain

/-- A value that the field holds is written and read with the fallback in place of no value. -/
theorem exists_member_of_holds {field : RecordField} {plan : ReadPlan} (plain : plan.isPlain = true)
    {value : Datum} (holds : field.Holds plan.isOptional value) :
    ∃ member, field.written plan.writeRule value = .ok member ∧
      ∀ (container : Container) (key : String), container.member? key = member →
        RecordFormat.readPlanned container key field plan =
          .ok (field.filled (some plan) value) := by
  have codec := field.memberCodec_of_isPlain plain
  unfold Holds at holds
  cases optional : plan.isOptional with
  | false =>
    rw [optional] at holds codec
    obtain ⟨document, survives, present⟩ := holds
    have same : field.filled (some plan) value = value := by
      refine filled_eq_self_iff.mpr ?_
      rintro - expression chosen
      cases chosen
      cases optional
    have whole : wrap plan value = value := by rw [wrap, optional]; rfl
    rw [if_neg Bool.false_ne_true] at codec
    rw [same, ← whole]
    exact exists_member_of_survives (codec ▸ survives) present
  | true =>
    rw [optional] at holds codec
    rw [if_pos rfl] at codec holds
    rcases holds with rfl | ⟨inner, document, rfl, survives, present⟩
    · exact exists_member_of_absent plain optional
    · have same : field.filled (some plan) (.present inner) = .present inner :=
        filled_eq_self_iff.mpr fun absent => by cases absent
      have whole : wrap plan inner = .present inner := by rw [wrap, optional]; rfl
      rw [same, ← whole]
      exact exists_member_of_survives (codec ▸ survives) present

end RecordField

/-- Every field of a declaration is part of the wire format and has a plain plan. -/
def Declaration.IsPlain (decl : Declaration) : Prop :=
  ∀ declared ∈ decl.fields, declared.isComputed = false ∧
    ∃ plan, declared.readPlan = .ok plan ∧ plan.isPlain = true

namespace RecordFormat

/-- A record has the fields of a format, in order, each with a value that the field can hold. -/
structure Holds (format : RecordFormat) (decl : Declaration) (record : Record) : Prop where
  names : record.map Prod.fst = format.fields.map (·.name)
  values : ∀ field ∈ format.fields, ∀ declared ∈ decl.fields, field.Declares declared →
    ∀ value, record.lookup field.name = some value → field.Holds declared.isOptional value

/-- A record with the fallbacks of its optional fields in place of no value. -/
def filled (format : RecordFormat) (record : Record) : Record :=
  format.fields.zipWith (fun field entry => (entry.1, field.filled (format.plan? field) entry.2))
    record

/-- Filling goes field by field. -/
theorem filled_map (format : RecordFormat) (value : RecordField → Datum) :
    format.filled (format.fields.map fun field => (field.name, value field)) =
      format.fields.map fun field =>
        (field.name, field.filled (format.plan? field) (value field)) := by
  rw [filled, List.zipWith_map_right, List.zipWith_self]

namespace Generated

/-- Every field has a plain plan. -/
theorem exists_plan (generated : format.Generated decl config) (plain : decl.IsPlain)
    {field : RecordField} {declared : Field} (member : declared ∈ decl.fields)
    (declares : field.Declares declared) :
    ∃ plan, declared.readPlan = .ok plan ∧ plan.isPlain = true ∧ format.plan? field = some plan := by
  obtain ⟨kept, plan, planned, isPlain⟩ := plain declared member
  have stored := Declaration.mem_storedFields.mpr ⟨member, kept⟩
  refine ⟨plan, planned, isPlain, ?_⟩
  rw [generated.declares.plan?_eq generated.decode declares stored, planned]
  rfl

/-- A value that a field holds is written and read with the fallback in place of no value. -/
theorem exists_member (generated : format.Generated decl config) (plain : decl.IsPlain)
    {field : RecordField} {declared : Field} (stored : declared ∈ decl.storedFields)
    (declares : field.Declares declared) {value : Datum}
    (held : field.Holds declared.isOptional value) :
    ∃ member, field.written (.ofOptional declared.isOptional) value = .ok member ∧
      ∀ container : Container, container.member? (format.key field.name) = member →
        format.readField container field =
          .ok (field.name, field.filled (format.plan? field) value) := by
  obtain ⟨plan, planned, isPlain, chosen⟩ :=
    generated.exists_plan plain (Declaration.mem_storedFields.mp stored).1 declares
  rw [← Field.isOptional_of_readPlan planned] at held ⊢
  obtain ⟨member, written, back⟩ := RecordField.exists_member_of_holds isPlain held
  refine ⟨member, written, ?_⟩
  intro container here
  rw [generated.declares.readField_of_readPlan generated.decode declares stored planned,
    back container _ here, chosen]
  rfl

/-- Filling changes nothing exactly if no field that has a fallback is without a value. -/
theorem filled_eq_self_iff (generated : format.Generated decl config) (plain : decl.IsPlain)
    (value : RecordField → Datum) :
    format.filled (format.fields.map fun field => (field.name, value field)) =
        format.fields.map (fun field => (field.name, value field)) ↔
      ∀ declared ∈ decl.fields,
        (format.fields.map fun field => (field.name, value field)).lookup declared.name =
          some .absent →
        ∀ expression, declared.readPlan ≠ .ok (.defaulted expression true) := by
  rw [filled_map, List.map_inj_left]
  constructor
  · intro same declared member missing expression planned
    obtain ⟨field, within, declares⟩ := generated.declares.exists_field member
    obtain ⟨plan, found, -, chosen⟩ := generated.exists_plan plain member declares
    rw [planned] at found
    cases found
    rw [← declares.name, lookup_map_pair generated.nodup_names within] at missing
    have self := (Prod.mk.inj (same field within)).2
    exact RecordField.filled_eq_self_iff.mp self (Option.some.inj missing) expression chosen
  · intro never field within
    obtain ⟨declared, member, declares⟩ := generated.exists_declared within
    obtain ⟨plan, planned, -, chosen⟩ := generated.exists_plan plain member declares
    have self : field.filled (format.plan? field) (value field) = value field := by
      refine RecordField.filled_eq_self_iff.mpr ?_
      intro missing expression defaulted
      rw [chosen, Option.some.injEq] at defaulted
      refine never declared member ?_ expression (defaulted ▸ planned)
      rw [← declares.name, lookup_map_pair generated.nodup_names within, missing]
    rw [self]

end Generated

/-- A record of plain fields is written and read with the fallbacks of its optional fields filled
in. It is the same record exactly if no field that has such a fallback is without a value. -/
theorem read_write_filled (generated : format.Generated decl config) (plain : decl.IsPlain)
    {record : Record} (holds : format.Holds decl record) :
    ∃ written, format.write record = .ok written ∧
      format.read written = .ok (format.filled record) ∧
      (format.read written = .ok record ↔
        ∀ declared ∈ decl.fields, record.lookup declared.name = some .absent →
          ∀ expression, declared.readPlan ≠ .ok (.defaulted expression true)) := by
  obtain ⟨names, values⟩ := holds
  obtain ⟨value, rfl⟩ : ∃ value : RecordField → Datum,
      record = format.fields.map fun field => (field.name, value field) :=
    ⟨_, eq_map_lookup names generated.nodup_names .unit⟩
  have found {field : RecordField} (within : field ∈ format.fields) :
      (format.fields.map fun field => (field.name, value field)).lookup field.name =
        some (value field) := lookup_map_pair generated.nodup_names within
  have again : ∃ written, format.write
      (format.fields.map fun field => (field.name, value field)) = .ok written ∧
      format.read written = .ok (format.fields.map fun field =>
        (field.name, field.filled (format.plan? field) (value field))) := by
    refine generated.exists_written _ ?_ ?_
    · intro field within declared stored declares
      have member := (Declaration.mem_storedFields.mp stored).1
      have held := values field within declared member declares _ (found within)
      obtain ⟨document, writes, back⟩ := generated.exists_member plain stored declares held
      exact ⟨value field, document, found within, writes, back⟩
    · intro field within computed
      obtain ⟨declared, member, declares⟩ := generated.exists_declared within
      have kept := (plain declared member).1
      rw [← declares.isComputed, computed] at kept
      cases kept
  obtain ⟨written, write, read⟩ := again
  rw [← filled_map] at read
  refine ⟨written, write, read, ?_⟩
  rw [read, Except.ok.injEq]
  exact generated.filled_eq_self_iff plain value

end RecordFormat

/-- A query with a limit of 10 unless another one is asked for. -/
def Sample.query : Sample := .generated "Query" []
  [.stored "term" .text [],
    .stored "sort" (.optional .text) [],
    .defaulted "page" (.integer .u32) "1" (.integer 1) [],
    .defaulted "limit" (.optional (.integer .u32)) "10" (.integer 10) []]

/-- Queries have a format. -/
theorem Sample.isSome_query : (Sample.query.format? fun _ => .unit).isSome = true := rfl

/-- The format of queries. -/
def RecordFormat.query : RecordFormat :=
  (Sample.query.format? fun _ => .unit).get Sample.isSome_query

/-- A query without a limit. -/
def Record.unlimited : Record :=
  [("term", .text "a"), ("sort", .absent), ("page", .integer 1), ("limit", .absent)]

namespace Sample

/-- The routines of queries are generated. -/
theorem generated_query : RecordFormat.query.Generated query.declaration .standard :=
  generated_of_format? (Option.some_get isSome_query).symm (by decide) (by decide)

/-- Queries have plain fields only. -/
theorem isPlain_query : query.declaration.IsPlain := by
  simp only [Declaration.IsPlain, declaration, query, generated, List.map_cons, List.map_nil,
    List.forall_mem_cons]
  exact ⟨⟨rfl, .direct, rfl, rfl⟩, ⟨rfl, .optional, rfl, rfl⟩,
    ⟨rfl, .defaulted "1" false, rfl, rfl⟩, ⟨rfl, .defaulted "10" true, rfl, rfl⟩, nofun⟩

/-- A query without a limit is a record of queries. -/
theorem holds_unlimited : RecordFormat.query.Holds query.declaration .unlimited := by
  refine ⟨rfl, forall_declares (Option.some_get isSome_query).symm (by decide) ?_⟩
  simp only [query, generated, List.forall_mem_cons]
  refine ⟨?_, ?_, ?_, ?_, nofun⟩
  · intro value found
    cases found
    exact ⟨.text "a", ⟨rfl, rfl⟩, nofun⟩
  · intro value found
    cases found
    exact Or.inl rfl
  · intro value found
    cases found
    exact ⟨.integer 1, ⟨rfl, rfl⟩, nofun⟩
  · intro value found
    cases found
    exact Or.inl rfl

end Sample

namespace RecordFormat

/-- A query without a limit is read with the limit of 10. -/
theorem read_write_filled_unlimited :
    query.Generated Sample.query.declaration .standard ∧ Sample.query.declaration.IsPlain ∧
    query.Holds Sample.query.declaration .unlimited ∧
    ∃ written, query.write .unlimited = .ok written ∧
      query.read written = .ok (query.filled .unlimited) ∧
      (query.read written = .ok .unlimited ↔
        ∀ declared ∈ Sample.query.declaration.fields,
          Record.unlimited.lookup declared.name = some .absent →
            ∀ expression, declared.readPlan ≠ .ok (.defaulted expression true)) :=
  ⟨Sample.generated_query, Sample.isPlain_query, Sample.holds_unlimited,
    read_write_filled Sample.generated_query Sample.isPlain_query Sample.holds_unlimited⟩

/-- A query without a limit is not read as it was written, although its fields hold its values. -/
theorem unlimited_not_read_again :
    query.Generated Sample.query.declaration .standard ∧ Sample.query.declaration.IsPlain ∧
    query.Holds Sample.query.declaration .unlimited ∧
    ¬ ∃ written, query.write .unlimited = .ok written ∧ query.read written = .ok .unlimited := by
  refine ⟨Sample.generated_query, Sample.isPlain_query, Sample.holds_unlimited, ?_⟩
  rintro ⟨written, write, read⟩
  have object : query.write .unlimited =
      .ok (.object [("page", .integer 1), ("term", .text "a")]) := rfl
  have limited : query.read (.object [("page", .integer 1), ("term", .text "a")]) =
      .ok [("term", .text "a"), ("sort", .absent), ("page", .integer 1),
        ("limit", .present (.integer 10))] := rfl
  rw [object] at write
  cases write
  rw [limited] at read
  cases read

end RecordFormat

end RecordCoding
