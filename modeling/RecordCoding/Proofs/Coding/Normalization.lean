import RecordCoding.Proofs.Coding.Generated
import RecordCoding.Proofs.Json.Bounds

/-!
# Normalized documents

A record that was read from a document is written as a document from which the same record is
read again. What reading normalizes, nulls that are dropped, scalars that become text, fallbacks
that are filled in, is thus normalized once and for all.
-/

namespace RecordCoding

variable {format : RecordFormat} {decl : Declaration} {config : Configuration}

namespace RecordFormat

/-- A value that a stored field is read as is written as a member from which it is read again, if
the plan of the field is stable and the initial value of a field that is not read can be written. -/
theorem Generated.exists_member_of_readField (generated : format.Generated decl config)
    {field : RecordField} {declared : Field} (stored : declared ∈ decl.storedFields)
    (declares : field.Declares declared)
    (stable : ∀ plan, declared.readPlan = .ok plan → field.Stable plan)
    (initial : declared.lacksDefault = true →
      ∃ member, field.written (.ofOptional declared.isOptional) field.format.initial = .ok member)
    {members : List (String × Json)} (bounded : (Json.object members).Representable)
    {value : Datum} (read : format.readField ⟨members⟩ field = .ok (field.name, value)) :
    ∃ member, field.written (.ofOptional declared.isOptional) value = .ok member ∧
      ∀ container : Container, container.member? (format.key field.name) = member →
        format.readField container field = .ok (field.name, value) := by
  rcases declared.readPlan_cases with ⟨lacks, -⟩ | ⟨-, plan, planned⟩
  · have skipped := generated.declares.readField_of_lacksDefault generated.decode declares stored
      lacks
    have same : field.format.initial = value := by
      rw [skipped] at read
      simpa using read
    obtain ⟨member, written⟩ := initial lacks
    rw [same] at written
    refine ⟨member, written, ?_⟩
    intro container _
    rw [skipped, same]
  · have byPlan := generated.declares.readField_of_readPlan generated.decode declares stored planned
    rw [byPlan] at read
    obtain ⟨inner, planRead, paired⟩ := map_eq_ok_iff.mp read
    have same : inner = value := by simpa using paired
    subst same
    obtain ⟨member, written, again⟩ := stable plan planned ⟨members⟩ (format.key field.name) inner
      (fun _ here => bounded.member? here) planRead
    rw [ReadPlan.writeRule, Field.isOptional_of_readPlan planned] at written
    refine ⟨member, written, ?_⟩
    intro container here
    rw [byPlan, again container here]
    rfl

/-- A record that is read is written and read again, if every plan is stable and the initial values
of fields that are not read can be written. -/
theorem Generated.read_again (generated : format.Generated decl config)
    (stable : ∀ field ∈ format.fields, ∀ declared ∈ decl.storedFields, field.Declares declared →
      ∀ plan, declared.readPlan = .ok plan → field.Stable plan)
    (initial : ∀ field ∈ format.fields, ∀ declared ∈ decl.storedFields, field.Declares declared →
      declared.lacksDefault = true →
      ∃ member, field.written (.ofOptional declared.isOptional) field.format.initial = .ok member)
    {document : Json} (bounded : document.Representable) {record : Record}
    (read : format.read document = .ok record) :
    ∃ written, format.write record = .ok written ∧ format.read written = .ok record := by
  cases document with
  | object members =>
    obtain ⟨value, rfl, found⟩ := exists_values_of_read read
    refine generated.exists_written value ?_ ?_
    · intro field within declared stored declares
      have holds : (format.fields.map fun field => (field.name, value field)).lookup field.name =
          some (value field) := lookup_map_pair generated.nodup_names within
      obtain ⟨member, written, again⟩ := generated.exists_member_of_readField stored declares
        (stable field within declared stored declares)
        (initial field within declared stored declares) bounded (found field within)
      exact ⟨value field, member, holds, written, again⟩
    · intro field within computed
      have reads := found field within
      rw [readField_of_isComputed computed] at reads
      have same : field.format.initial = value field := by simpa using reads
      exact same.symm
  | _ => cases read

end RecordFormat

/-- The values of a stored field are of a type: its plan reads such values, its fallback is one that
survives, and if it is not read its initial value can be written. -/
structure DataType.Realizes (type : DataType) (records : String → Codec) (declared : Field)
    (field : RecordField) : Prop where
  formats : type.Formats records field
  suits : ∀ plan, declared.readPlan = .ok plan → plan.Suits type
  fallback : ∀ expression optional, declared.readPlan = .ok (.defaulted expression optional) →
    ∃ document, (field.memberCodec (.defaulted expression optional)).Survives field.fallback document
  initial : declared.lacksDefault = true →
    ∃ member, field.written (.ofOptional declared.isOptional) field.format.initial = .ok member

namespace DataType.Realizes

variable {type : DataType} {records : String → Codec} {declared : Field} {field : RecordField}

/-- A field whose plan is found needs a fallback only if that is its plan. -/
theorem of_readPlan (formats : type.Formats records field) {plan : ReadPlan}
    (planned : declared.readPlan = .ok plan) (suits : plan.Suits type)
    (fallback : ∀ expression optional, plan = .defaulted expression optional →
      ∃ document, (field.memberCodec plan).Survives field.fallback document) :
    type.Realizes records declared field where
  formats := formats
  suits := by
    intro other chosen
    rw [planned] at chosen
    cases chosen
    exact suits
  fallback := by
    intro expression optional chosen
    rw [planned] at chosen
    cases chosen
    exact fallback expression optional rfl
  initial := by
    intro lacks
    rcases declared.readPlan_cases with ⟨-, refused⟩ | ⟨given, -⟩
    · rw [planned] at refused
      cases refused
    · rw [lacks] at given
      cases given

/-- A field whose plan is refused needs an initial value that can be written. -/
theorem of_lacksDefault (formats : type.Formats records field)
    (lacks : declared.lacksDefault = true)
    (initial : ∃ member, field.written (.ofOptional declared.isOptional) field.format.initial =
      .ok member) : type.Realizes records declared field := by
  have refused (plan : ReadPlan) : declared.readPlan ≠ .ok plan := by
    intro planned
    rcases declared.readPlan_cases with ⟨-, refused⟩ | ⟨given, -⟩
    · rw [planned] at refused
      cases refused
    · rw [lacks] at given
      cases given
  exact ⟨formats, fun plan planned => absurd planned (refused plan),
    fun _ _ planned => absurd planned (refused _), fun _ => initial⟩

/-- The plan of a field with values of a type is stable. -/
theorem stable (lawful : ∀ name, (records name).Lawful)
    (realizes : type.Realizes records declared field) {plan : ReadPlan}
    (planned : declared.readPlan = .ok plan) : field.Stable plan := by
  refine RecordField.stable_of_lawful
    (DataType.lawful_memberCodec lawful realizes.formats (realizes.suits plan planned)) ?_
  rintro expression optional rfl
  exact realizes.fallback expression optional planned

end DataType.Realizes

namespace RecordFormat

/-- Every stored field has values of some type. -/
def Typed (format : RecordFormat) (decl : Declaration) (records : String → Codec) : Prop :=
  ∀ field ∈ format.fields, ∀ declared ∈ decl.storedFields, field.Declares declared →
    ∃ type : DataType, type.Realizes records declared field

namespace Typed

variable {records : String → Codec}

/-- Every plan is stable. -/
theorem stable (typed : format.Typed decl records) (lawful : ∀ name, (records name).Lawful) :
    ∀ field ∈ format.fields, ∀ declared ∈ decl.storedFields, field.Declares declared →
      ∀ plan, declared.readPlan = .ok plan → field.Stable plan := by
  intro field within declared stored declares plan planned
  obtain ⟨type, realizes⟩ := typed field within declared stored declares
  exact realizes.stable lawful planned

/-- The initial values of fields that are not read can be written. -/
theorem initial (typed : format.Typed decl records) :
    ∀ field ∈ format.fields, ∀ declared ∈ decl.storedFields, field.Declares declared →
      declared.lacksDefault = true →
      ∃ member, field.written (.ofOptional declared.isOptional) field.format.initial =
        .ok member := by
  intro field within declared stored declares
  obtain ⟨type, realizes⟩ := typed field within declared stored declares
  exact realizes.initial

/-- Records as values of fields are read and written lawfully, so records may be nested. -/
theorem lawful_asCodec (typed : format.Typed decl records)
    (lawful : ∀ name, (records name).Lawful) (generated : format.Generated decl config) :
    (RecordCodec.ofFormat format).asCodec.Lawful := by
  refine Codec.lawful_of_map rfl ?_
  intro document record bounded read
  obtain ⟨written, write, back⟩ := generated.read_again (typed.stable lawful) typed.initial bounded
    (mapError_eq_ok_iff.mp read)
  refine ⟨written, mapError_eq_ok_iff.mpr write, mapError_eq_ok_iff.mpr back, ?_⟩
  rintro rfl
  cases back

end Typed

/-- A record that was read from bytes is written as a document that is read as the same record; the
bytes spell a document within bounds. -/
theorem Generated.read_again_of_readBytes {records : String → Codec}
    (generated : format.Generated decl config) (typed : format.Typed decl records)
    (lawful : ∀ name, (records name).Lawful) {bytes : List UInt8} {record : Record}
    (read : (RecordCodec.ofFormat format).readBytes bytes = .ok record) :
    ∃ written, format.write record = .ok written ∧ format.read written = .ok record := by
  obtain ⟨document, parsed, found⟩ := bind_eq_ok_iff.mp read
  have bounded := Json.representable_of_parse (mapError_eq_ok_iff.mp parsed)
  exact generated.read_again (typed.stable lawful) typed.initial bounded found

/-- A record that was read from a document within bounds, or from any bytes, is written, and what is
written is read as the same record. -/
theorem read_write_of_read {records : String → Codec} (lawful : ∀ name, (records name).Lawful)
    (generated : format.Generated decl config) (typed : format.Typed decl records) :
    (∀ (document : Json) (record : Record), document.Representable →
      format.read document = .ok record →
      ∃ written, format.write record = .ok written ∧ format.read written = .ok record) ∧
    ∀ (bytes : List UInt8) (record : Record),
      (RecordCodec.ofFormat format).readBytes bytes = .ok record →
      ∃ written, format.write record = .ok written ∧ format.read written = .ok record := by
  constructor
  · intro document record bounded read
    exact generated.read_again (typed.stable lawful) typed.initial bounded read
  · intro bytes record read
    exact generated.read_again_of_readBytes typed lawful read

end RecordFormat

namespace Sample

/-- The fields of a sample have values of their types if each stored one has. -/
theorem typed_of_format? {sample : Sample} {records : String → Codec} {format : RecordFormat}
    (made : sample.format? records = some format)
    (names : (sample.declaration.fields.map (·.name)).Nodup)
    (each : ∀ field ∈ sample.fields, field.isComputed = false →
      ∃ type : DataType, type.Realizes records
        ⟨field.name, field.type.declared, none, field.isComputed, field.directives⟩
        ⟨field.name, field.isComputed, field.type.format records, field.fallback⟩) :
    format.Typed sample.declaration records := by
  intro field within declared stored declares
  obtain ⟨member, kept⟩ := Declaration.mem_storedFields.mp stored
  exact forall_declares made names (P := fun field declared => declared.isComputed = false →
    ∃ type : DataType, type.Realizes records declared field) each field within declared member
    declares kept

/-- Members have a format. -/
theorem isSome_member : (member.format? fun _ => .unit).isSome = true := rfl

/-- An account with a field of every kind: lossless, direct, optional, optional with a fallback,
four collections that drop nulls, one of them a set of records, a record, one that is computed and
one whose fallback is missing. -/
def ledger : Sample := .generated "Ledger" [.keyPrefix "x-"]
  [.stored "id" .text [.lossless],
    .stored "owner" (.record "Member") [.rename "Owner"],
    .stored "note" (.optional .text) [],
    .defaulted "limit" (.optional (.integer .u32)) "10" (.integer 10) [],
    .stored "marks" (.sequence (.integer .u8)) [.skipNull],
    .stored "tags" (.optional (.set .text)) [.skipNull],
    .stored "crew" (.set (.record "Member")) [.skipNull],
    .stored "rates" (.map .text .boolean) [.skipNull],
    .computed "cache" (.sequence (.integer .u8)),
    .stored "title" .text [.default none]]

end Sample

/-- The format of members. -/
def RecordFormat.member : RecordFormat :=
  (Sample.member.format? fun _ => .unit).get Sample.isSome_member

/-- The codec of members, for every name. -/
def RecordCodec.membersOnly (_ : String) : Codec := (ofFormat .member).asCodec

/-- Ledgers have a format. -/
theorem Sample.isSome_ledger : (Sample.ledger.format? RecordCodec.membersOnly).isSome = true := rfl

/-- The format of ledgers. -/
def RecordFormat.ledger : RecordFormat :=
  (Sample.ledger.format? RecordCodec.membersOnly).get Sample.isSome_ledger

/-- A document with much to normalize: a number as identifier, nulls, repetitions and members that
are not there. -/
def Json.ledger : Json := .object
  [("Owner", .object [("age", .null), ("name", .text "a")]),
    ("x-crew", .array [.object [("name", .text "c")], .null, .object [("name", .text "b")],
      .object [("age", .integer 1), ("name", .text "c")]]),
    ("x-id", .integer (-7)),
    ("x-marks", .array [.integer 2, .null]), ("x-note", .null),
    ("x-rates", .object [("b", .boolean true), ("c", .null)]),
    ("x-tags", .array [.text "b", .null, .text "a", .text "b"])]

/-- The record in that document. -/
def Record.ledger : Record :=
  [("id", .text "-7"), ("owner", .record [("name", .text "a")]), ("note", .absent),
    ("limit", .present (.integer 10)), ("marks", .list [.integer 2]),
    ("tags", .present (.list [.text "a", .text "b"])),
    ("crew", .list [.record [("name", .text "b")], .record [("name", .text "c")]]),
    ("rates", .entries [(.text "b", .boolean true)]), ("cache", .list []),
    ("title", .text "")]

/-- That document is within bounds. -/
theorem Json.representable_ledger : Json.ledger.Representable := by
  refine .object ?_
  simp only [List.forall_mem_cons]
  refine ⟨.object ?_, .array ?_, .integer (by decide) (by decide), .array ?_, .null, .object ?_,
    .array ?_, nofun⟩
  · simp only [List.forall_mem_cons]
    exact ⟨.null, .text "a", nofun⟩
  · simp only [List.forall_mem_cons]
    refine ⟨.object ?_, .null, .object ?_, .object ?_, nofun⟩
    · exact List.forall_mem_singleton.mpr (.text "c")
    · exact List.forall_mem_singleton.mpr (.text "b")
    · simp only [List.forall_mem_cons]
      exact ⟨.integer (by decide) (by decide), .text "c", nofun⟩
  · simp only [List.forall_mem_cons]
    exact ⟨.integer (by decide) (by decide), .null, nofun⟩
  · simp only [List.forall_mem_cons]
    exact ⟨.boolean true, .null, nofun⟩
  · simp only [List.forall_mem_cons]
    exact ⟨.text "b", .null, .text "a", .text "b", nofun⟩

namespace Sample

/-- The codec of members is lawful. -/
theorem lawful_membersOnly (name : String) : (RecordCodec.membersOnly name).Lawful := by
  have made := (Option.some_get isSome_member).symm
  have typed : RecordFormat.member.Typed member.declaration fun _ => .unit := by
    refine typed_of_format? made (by decide) ?_
    simp only [member, generated, List.forall_mem_cons]
    exact ⟨fun _ => ⟨.text, .of_readPlan ⟨_, rfl⟩ rfl trivial nofun⟩, nofun⟩
  exact typed.lawful_asCodec (fun _ => Codec.lawful_unit)
    (generated_of_format? made (by decide) (by decide))

/-- The routines of ledgers are generated. -/
theorem generated_ledger : RecordFormat.ledger.Generated ledger.declaration .standard :=
  generated_of_format? (Option.some_get isSome_ledger).symm (by decide) (by decide)

/-- The stored fields of ledgers have values of their types. -/
theorem typed_ledger : RecordFormat.ledger.Typed ledger.declaration RecordCodec.membersOnly := by
  refine typed_of_format? (Option.some_get isSome_ledger).symm (by decide) ?_
  simp only [ledger, generated, List.forall_mem_cons]
  refine ⟨?_, ?_, ?_, ?_, ?_, ?_, ?_, ?_, nofun, ?_, nofun⟩ <;> intro _
  · exact ⟨.text, .of_readPlan ⟨_, rfl⟩ rfl (.inl rfl) nofun⟩
  · exact ⟨.record "Member", .of_readPlan ⟨_, rfl⟩ rfl trivial nofun⟩
  · exact ⟨.optional .text, .of_readPlan ⟨_, rfl⟩ rfl ⟨.text, rfl, trivial⟩ nofun⟩
  · refine ⟨.optional (.integer .u32),
      .of_readPlan ⟨_, rfl⟩ rfl ⟨.integer .u32, rfl, trivial⟩ ?_⟩
    intro _ _ _
    exact ⟨.integer 10, rfl, rfl⟩
  · exact ⟨.sequence (.integer .u8), .of_readPlan ⟨_, rfl⟩ rfl ⟨_, rfl⟩ nofun⟩
  · exact ⟨.optional (.set .text), .of_readPlan ⟨_, rfl⟩ rfl ⟨_, rfl, .text, rfl⟩ nofun⟩
  · exact ⟨.set (.record "Member"), .of_readPlan ⟨_, rfl⟩ rfl ⟨_, rfl⟩ nofun⟩
  · exact ⟨.map .text .boolean, .of_readPlan ⟨_, rfl⟩ rfl ⟨_, _, rfl⟩ nofun⟩
  · exact ⟨.text, .of_lacksDefault ⟨_, rfl⟩ rfl ⟨some (.text ""), rfl⟩⟩

end Sample

namespace RecordFormat

/-- A ledger is written and read as the record it was read as. -/
theorem read_write_of_read_ledger :
    (∀ name, (RecordCodec.membersOnly name).Lawful) ∧
    ledger.Generated Sample.ledger.declaration .standard ∧
    ledger.Typed Sample.ledger.declaration RecordCodec.membersOnly ∧
    Json.ledger.Representable ∧ ledger.read .ledger = .ok .ledger ∧
    ∃ written, ledger.write .ledger = .ok written ∧ ledger.read written = .ok .ledger := by
  have read : ledger.read .ledger = .ok .ledger := rfl
  have again := read_write_of_read Sample.lawful_membersOnly Sample.generated_ledger
    Sample.typed_ledger
  exact ⟨Sample.lawful_membersOnly, Sample.generated_ledger, Sample.typed_ledger,
    Json.representable_ledger, read, again.1 .ledger .ledger Json.representable_ledger read⟩

end RecordFormat

end RecordCoding
