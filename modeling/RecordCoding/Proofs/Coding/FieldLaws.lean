import RecordCoding.Coding.Record
import RecordCoding.Proofs.Coding.CollectionLaws

/-!
# Reading and writing one field

What a plan reads depends on the member under one key only: from a member that is there it reads
a value through one codec, and it may have a value for a member that is absent or null. A plan is
stable if the values it reads are written so that it reads them again.
-/

namespace RecordCoding

namespace Container

variable {α β : Type} {container : Container} {reader : Reader α} {key : String}

/-- A required member is read if it is there and fits. -/
theorem decode_eq_ok_iff {value : α} : container.decode reader key = .ok value ↔
    ∃ document, container.member? key = some document ∧ reader document = .ok value := by
  unfold decode
  cases container.member? key with
  | none => simp
  | some document => cases found : reader document <;> simp [found]

/-- An optional member is no value, or is not null and fits. -/
theorem decodeIfPresent_eq_ok_iff {read : Option α} :
    container.decodeIfPresent reader key = .ok read ↔
      ((container.member? key = none ∨ container.member? key = some .null) ∧ read = none) ∨
        ∃ document value, container.member? key = some document ∧ document ≠ .null ∧
          reader document = .ok value ∧ read = some value := by
  unfold decodeIfPresent
  split
  · rename_i absent
    simp [absent, eq_comm]
  · rename_i null
    simp [null, eq_comm]
  · rename_i document notNull here
    have present : document ≠ .null := notNull
    rw [here]
    cases found : reader document <;> simp [found, present, eq_comm]

/-- What is made of a required member. -/
theorem map_decode_eq_ok_iff {f : α → β} {made : β} :
    f <$> container.decode reader key = .ok made ↔
      ∃ document value, container.member? key = some document ∧ reader document = .ok value ∧
        f value = made := by
  simp only [map_eq_ok_iff, decode_eq_ok_iff]
  constructor
  · rintro ⟨value, ⟨document, here, found⟩, same⟩
    exact ⟨document, value, here, found, same⟩
  · rintro ⟨document, value, here, found, same⟩
    exact ⟨value, ⟨document, here, found⟩, same⟩

/-- What is made of an optional member. -/
theorem map_decodeIfPresent_eq_ok_iff {f : Option α → β} {made : β} :
    f <$> container.decodeIfPresent reader key = .ok made ↔
      (∃ document value, container.member? key = some document ∧ document ≠ .null ∧
        reader document = .ok value ∧ f (some value) = made) ∨
      ((container.member? key = none ∨ container.member? key = some .null) ∧ f none = made) := by
  simp only [map_eq_ok_iff, decodeIfPresent_eq_ok_iff]
  constructor
  · rintro ⟨read, ⟨missing, rfl⟩ | ⟨document, value, here, present, found, rfl⟩, same⟩
    · exact Or.inr ⟨missing, same⟩
    · exact Or.inl ⟨document, value, here, present, found, same⟩
  · rintro (⟨document, value, here, present, found, same⟩ | ⟨missing, same⟩)
    · exact ⟨some value, Or.inr ⟨document, value, here, present, found, rfl⟩, same⟩
    · exact ⟨none, Or.inl ⟨missing, rfl⟩, same⟩

/-- What is made of a required member may be made by its reader. -/
theorem map_decode (container : Container) (reader : Reader α) (key : String) (f : α → β) :
    f <$> container.decode reader key = container.decode (fun value => f <$> reader value) key := by
  unfold decode
  cases container.member? key with
  | none => rfl
  | some value => cases found : reader value <;> simp [found, Functor.map, Except.map]

/-- What is made of an optional member may be made by its reader. -/
theorem map_decodeIfPresent (container : Container) (reader : Reader α) (key : String)
    (f : α → β) :
    (·.map f) <$> container.decodeIfPresent reader key =
      container.decodeIfPresent (fun value => f <$> reader value) key := by
  unfold decodeIfPresent
  split
  · rfl
  · rfl
  · cases found : reader _ <;> simp [found, Functor.map, Except.map]

end Container

namespace RecordField

/-- The codec of the members of a field that are there, without an outer optional layer. -/
def memberCodec (field : RecordField) (plan : ReadPlan) : Codec :=
  { if plan.isOptional then field.format.inner else field.format.whole with
    read :=
      match plan with
      | .direct | .defaulted _ false => field.format.whole.read
      | .optional | .defaulted _ true => field.format.inner.read
      | .compactArray .. | .compactSet .. => fun document =>
        field.format.ofElements <$> Reader.compacted field.format.element.read document
      | .compactMap .. => fun document =>
        field.format.ofEntries <$>
          Reader.compactedEntries field.format.name.read field.format.element.read document
      | .lossless _ => fun document => .text <$> Lossless.reader document }

/-- A value of a member as a value of the field. -/
def wrap (plan : ReadPlan) (value : Datum) : Datum :=
  if plan.isOptional then .present value else value

/-- The value of a field whose member is absent or null, unless the member is required. -/
def absentValue (field : RecordField) (plan : ReadPlan) : Option Datum :=
  match plan with
  | .defaulted .. => some (wrap plan field.fallback)
  | plan => if plan.isOptional then some .absent else none

/-- What a rule writes for a value of a field, if anything. -/
def written (field : RecordField) (rule : WriteRule) (value : Datum) :
    Except WriteError (Option Json) :=
  match rule with
  | .always => some <$> field.format.whole.write value
  | .ifPresent =>
    match value.toOption? with
    | some none => .ok none
    | some (some present) => some <$> field.format.inner.write present
    | none => .error .foreignValue

/-- A value of a member is written through the codec of the members. -/
theorem written_wrap {field : RecordField} {plan : ReadPlan} {value : Datum} {document : Json}
    (write : (field.memberCodec plan).write value = .ok document) :
    field.written plan.writeRule (wrap plan value) = .ok (some document) := by
  unfold memberCodec at write
  unfold written ReadPlan.writeRule wrap WriteRule.ofOptional
  cases optional : plan.isOptional with
  | false =>
    rw [optional] at write
    exact map_eq_ok_iff.mpr ⟨document, write, rfl⟩
  | true =>
    rw [optional] at write
    exact map_eq_ok_iff.mpr ⟨document, write, rfl⟩

end RecordField

namespace RecordFormat

open RecordField

/-- Every plan reads members through one codec, and a plan that has a value for a missing member
reads an optional member. -/
theorem readPlanned_eq (container : Container) (key : String) (field : RecordField)
    (plan : ReadPlan) :
    readPlanned container key field plan =
      match field.absentValue plan with
      | none => wrap plan <$> container.decode (field.memberCodec plan).read key
      | some missing => (fun read => (read.map (wrap plan)).getD missing) <$>
          container.decodeIfPresent (field.memberCodec plan).read key := by
  have elements := container.map_decodeIfPresent
    (Reader.compacted field.format.element.read) key field.format.ofElements
  have entries := container.map_decodeIfPresent
    (Reader.compactedEntries field.format.name.read field.format.element.read) key
    field.format.ofEntries
  have lossless := container.map_decodeIfPresent Lossless.reader key Datum.text
  unfold readPlanned
  split
  · exact (id_map _).symm
  · refine map_congr fun read => ?_
    cases read <;> rfl
  · refine bind_ok_eq_map fun read => ?_
    cases read <;> rfl
  · refine bind_ok_eq_map fun read => ?_
    cases read <;> rfl
  · refine (container.map_decode _ key field.format.ofElements).trans ?_
    exact (id_map _).symm
  · refine (container.map_decode _ key field.format.ofElements).trans ?_
    exact (id_map _).symm
  · refine (congrArg (Datum.ofOption <$> ·) elements).trans (map_congr fun read => ?_)
    cases read <;> rfl
  · refine (congrArg (Datum.ofOption <$> ·) elements).trans (map_congr fun read => ?_)
    cases read <;> rfl
  · refine (container.map_decode _ key field.format.ofEntries).trans ?_
    exact (id_map _).symm
  · refine (congrArg (Datum.ofOption <$> ·) entries).trans (map_congr fun read => ?_)
    cases read <;> rfl
  · rw [container.decodeLossless_text]
    refine (container.map_decode _ key Datum.text).trans ?_
    exact (id_map _).symm
  · rw [container.decodeLosslessIfPresent_text]
    refine Eq.trans ?_ ((congrArg (Datum.ofOption <$> ·) lossless).trans (map_congr fun read => ?_))
    · simp
    · cases read <;> rfl

/-- What a plan reads: a value of a member that is there, or the value for one that is not. A null
member counts as there if the member is required. -/
theorem readPlanned_eq_ok_iff {container : Container} {key : String} {field : RecordField}
    {plan : ReadPlan} {value : Datum} :
    readPlanned container key field plan = .ok value ↔
      (∃ document inner, container.member? key = some document ∧
        (document = .null → field.absentValue plan = none) ∧
        (field.memberCodec plan).read document = .ok inner ∧ wrap plan inner = value) ∨
      ((container.member? key = none ∨ container.member? key = some .null) ∧
        field.absentValue plan = some value) := by
  rw [readPlanned_eq]
  cases missing : field.absentValue plan with
  | none => simp [Container.map_decode_eq_ok_iff]
  | some fallback => simp [Container.map_decodeIfPresent_eq_ok_iff]

end RecordFormat

namespace RecordField

open RecordFormat

/-- A missing member is the fallback, or no value of an optional field. -/
theorem absentValue_cases {field : RecordField} {plan : ReadPlan} {value : Datum}
    (missing : field.absentValue plan = some value) :
    (∃ expression optional, plan = .defaulted expression optional ∧
      value = wrap plan field.fallback) ∨ (plan.isOptional = true ∧ value = .absent) := by
  unfold absentValue at missing
  split at missing
  · rename_i expression optional
    cases missing
    exact Or.inl ⟨expression, optional, rfl, rfl⟩
  · split at missing
    · rename_i optional
      cases missing
      exact Or.inr ⟨optional, rfl⟩
    · cases missing

/-- The values a plan reads are written so that it reads them again, whatever else is there. -/
def Stable (field : RecordField) (plan : ReadPlan) : Prop :=
  ∀ (container : Container) (key : String) (value : Datum),
    (∀ document, container.member? key = some document → document.Representable) →
    readPlanned container key field plan = .ok value →
    ∃ member, field.written plan.writeRule value = .ok member ∧
      ∀ other : Container, other.member? key = member →
        readPlanned other key field plan = .ok value

/-- A plan is stable if the codec of the members is lawful and the fallback survives. -/
theorem stable_of_lawful {field : RecordField} {plan : ReadPlan}
    (lawful : (field.memberCodec plan).Lawful)
    (fallback : ∀ expression optional, plan = .defaulted expression optional →
      ∃ document, (field.memberCodec plan).Survives field.fallback document) :
    field.Stable plan := by
  intro container key value bounded read
  rcases readPlanned_eq_ok_iff.mp read with
    ⟨document, inner, here, required, found, rfl⟩ | ⟨-, absent⟩
  · obtain ⟨written, ⟨write, back⟩, null⟩ := lawful document inner (bounded document here) found
    refine ⟨some written, written_wrap write, ?_⟩
    intro other same
    refine readPlanned_eq_ok_iff.mpr (Or.inl ⟨written, inner, same, ?_, back, rfl⟩)
    exact fun gone => required (null gone)
  · rcases absentValue_cases absent with ⟨expression, optional, chosen, rfl⟩ | ⟨optional, rfl⟩
    · obtain ⟨written, write, back⟩ := fallback expression optional chosen
      refine ⟨some written, written_wrap write, ?_⟩
      intro other same
      -- A fallback that is written as null is what a null member stands for.
      by_cases null : written = .null
      · subst null
        exact readPlanned_eq_ok_iff.mpr (Or.inr ⟨Or.inr same, absent⟩)
      · exact readPlanned_eq_ok_iff.mpr
          (Or.inl ⟨written, field.fallback, same, fun gone => absurd gone null, back, rfl⟩)
    · refine ⟨none, ?_, ?_⟩
      · rw [ReadPlan.writeRule, optional]
        rfl
      · intro other same
        exact readPlanned_eq_ok_iff.mpr (Or.inr ⟨Or.inl same, absent⟩)

end RecordField

namespace ReadPlan

/-- The types a plan makes values of, below an outer optional layer. -/
def Makes : ReadPlan → DataType → Prop
  | compactArray .., type => ∃ element, type = .sequence element
  | compactSet .., type => ∃ element, type = .set element
  | compactMap .., type => ∃ name value, type = .map name value
  | lossless _, type => type = .text ∨ type = .lossless
  | _, _ => True

/-- A plan makes values of a type: an optional plan makes optional values. -/
def Suits (plan : ReadPlan) (type : DataType) : Prop :=
  if plan.isOptional then ∃ core, type = .optional core ∧ plan.Makes core else plan.Makes type

end ReadPlan

namespace DataType

/-- A field has the format of a type. Its initial value may be any. -/
def Formats (type : DataType) (records : String → Codec) (field : RecordField) : Prop :=
  ∃ initial, field.format = { type.format records with initial := initial }

/-- The members of a field are read and written lawfully if the plan suits the type. -/
theorem lawful_memberCodec {records : String → Codec} (lawful : ∀ name, (records name).Lawful)
    {type : DataType} {field : RecordField} (formats : type.Formats records field)
    {plan : ReadPlan} (suits : plan.Suits type) : (field.memberCodec plan).Lawful := by
  obtain ⟨initial, format⟩ := formats
  unfold RecordField.memberCodec
  rw [format]
  cases plan with
  | direct => exact lawful_codec lawful type
  | optional => exact lawful_codec lawful type.withoutOptional
  | defaulted expression optional =>
    cases optional with
    | false => exact lawful_codec lawful type
    | true => exact lawful_codec lawful type.withoutOptional
  | compactArray element optional =>
    have kept (values : List Datum) : values ⊆ values := List.Subset.refl values
    cases optional with
    | false =>
      obtain ⟨inner, rfl⟩ := suits
      exact Codec.lawful_compacted (lawful_codec lawful inner) kept fun _ => rfl
    | true =>
      obtain ⟨_, rfl, inner, rfl⟩ := suits
      exact Codec.lawful_compacted (lawful_codec lawful inner) kept fun _ => rfl
  | compactSet element optional =>
    have kept (order : ValueOrder) (values : List Datum) : order.setOf values ⊆ values :=
      fun _ => ValueOrder.mem_setOf_iff.mp
    cases optional with
    | false =>
      obtain ⟨inner, rfl⟩ := suits
      exact Codec.lawful_compacted (lawful_codec lawful inner) (kept _) ValueOrder.setOf_setOf
    | true =>
      obtain ⟨_, rfl, inner, rfl⟩ := suits
      exact Codec.lawful_compacted (lawful_codec lawful inner) (kept _) ValueOrder.setOf_setOf
  | compactMap key value optional =>
    cases optional with
    | false =>
      obtain ⟨name, inner, rfl⟩ := suits
      exact Codec.lawful_compactedMap name.lawful_codec (lawful_codec lawful inner)
    | true =>
      obtain ⟨_, rfl, name, inner, rfl⟩ := suits
      exact Codec.lawful_compactedMap name.lawful_codec (lawful_codec lawful inner)
  | lossless optional =>
    have strings := Codec.lawful_textBy Lossless.reader_text
    cases optional with
    | false => rcases suits with rfl | rfl <;> exact strings
    | true => rcases suits with ⟨_, rfl, rfl | rfl⟩ <;> exact strings

end DataType

end RecordCoding
