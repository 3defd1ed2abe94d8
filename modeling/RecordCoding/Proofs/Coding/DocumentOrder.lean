import RecordCoding.Proofs.Coding.Generated
import RecordCoding.Proofs.Json.Bounds
import RecordCoding.Proofs.Json.Forms
import RecordCoding.Proofs.Traversal

/-!
# The order of what is written

Every object that is written has its members in ascending order of their names: they are put into
it one by one, each at its place. Documents that a record holds as they are have to be in order
themselves.
-/

namespace RecordCoding

namespace Json

/-- An object stays in order when a value in order is put into it. -/
theorem ordered_insertMember {members : List (String × Json)} {name : String} {value : Json}
    (before : Ordered (.object members)) (ordered : value.Ordered) :
    Ordered (.object (insertMember members name value)) := by
  cases before with
  | object ascending each =>
    refine .object (ascending_insertMember ascending) ?_
    intro entry member
    rcases mem_insertMember member with rfl | earlier
    · exact ordered
    · exact each entry earlier

/-- Members in any order make an object in order. -/
theorem ordered_ofMembers {members : List (String × Json)}
    (each : ∀ entry ∈ members, entry.2.Ordered) : (ofMembers members).Ordered := by
  have empty : Ordered (.object []) := .object .nil nofun
  exact members.foldlRecOn (motive := fun sorted => Ordered (.object sorted)) _ empty
    fun sorted before entry member => ordered_insertMember before (each entry member)

end Json

/-- The documents that are held by a value are in order. -/
inductive Datum.Ordered : Datum → Prop
  | boolean (value : Bool) : Ordered (.boolean value)
  | integer (value : Int) : Ordered (.integer value)
  | float (value : Binary64) : Ordered (.float value)
  | character (value : Char) : Ordered (.character value)
  | text (value : String) : Ordered (.text value)
  | unit : Ordered .unit
  | absent : Ordered .absent
  | present {value : Datum} (ordered : Ordered value) : Ordered (.present value)
  | list {elements : List Datum} (each : ∀ element ∈ elements, Ordered element) :
      Ordered (.list elements)
  | entries {pairs : List (Datum × Datum)} (each : ∀ pair ∈ pairs, Ordered pair.2) :
      Ordered (.entries pairs)
  | json {document : Json} (ordered : document.Ordered) : Ordered (.json document)
  | record {fields : List (String × Datum)} (each : ∀ field ∈ fields, Ordered field.2) :
      Ordered (.record fields)

namespace Codec

/-- Values that hold documents in order are written as documents in order. -/
def KeepsOrder (codec : Codec) : Prop :=
  ∀ value document, value.Ordered → codec.write value = .ok document → document.Ordered

section Scalars

theorem keepsOrder_boolean : boolean.KeepsOrder := by
  intro value document _ written
  cases value with
  | boolean value =>
    cases written
    exact .boolean value
  | _ => cases written

theorem keepsOrder_integer (type : IntegerType) : (integer type).KeepsOrder := by
  intro value document _ written
  cases value with
  | integer value =>
    simp only [integer, Written.integer] at written
    split at written
    · cases written
      exact .number (.integer value)
    · cases written
  | _ => cases written

theorem keepsOrder_float : float.KeepsOrder := by
  intro value document _ written
  cases value with
  | float value =>
    cases written
    split
    · exact .number (.float value)
    · exact .null
  | _ => cases written

theorem keepsOrder_character : character.KeepsOrder := by
  intro value document _ written
  cases value with
  | character value =>
    cases written
    exact .text (String.singleton value)
  | _ => cases written

theorem keepsOrder_textBy (reader : Reader String) : (textBy reader).KeepsOrder := by
  intro value document _ written
  cases value with
  | text value =>
    cases written
    exact .text value
  | _ => cases written

theorem keepsOrder_unit : unit.KeepsOrder := by
  intro value document _ written
  cases value with
  | unit =>
    cases written
    exact .null
  | _ => cases written

theorem keepsOrder_any : any.KeepsOrder := by
  intro value document ordered written
  cases ordered with
  | json ordered =>
    cases written
    exact ordered
  | _ => cases written

end Scalars

variable {inner element first second value : Codec}

theorem keepsOrder_optional (keeps : inner.KeepsOrder) : (optional inner).KeepsOrder := by
  intro value document ordered written
  cases ordered with
  | absent =>
    cases written
    exact .null
  | present ordered => exact keeps _ document ordered written
  | _ => cases written

theorem keepsOrder_listBy (arrange : List Datum → List Datum) (reader : Reader (List Datum))
    (keeps : element.KeepsOrder) : (listBy arrange reader element).KeepsOrder := by
  intro value document ordered written
  cases ordered with
  | list each =>
    obtain ⟨documents, writes, rfl⟩ := map_eq_ok_iff.mp written
    refine .array ?_
    intro document member
    obtain ⟨value, inside, write⟩ := exists_of_mem_right (mapM_eq_ok_iff.mp writes) member
    exact keeps value document (each value inside) write
  | _ => cases written

theorem keepsOrder_pair (keeps : first.KeepsOrder) (keepsToo : second.KeepsOrder) :
    (pair first second).KeepsOrder := by
  intro value document ordered written
  cases ordered with
  | @list elements each =>
    match elements, each, written with
    | [a, b], each, written =>
      obtain ⟨left, write, written⟩ := bind_eq_ok_iff.mp written
      obtain ⟨right, writeToo, written⟩ := bind_eq_ok_iff.mp written
      cases written
      obtain ⟨ordered, others⟩ := List.forall_mem_cons.mp each
      refine .array (List.forall_mem_cons.mpr ⟨keeps a left ordered write, ?_⟩)
      refine List.forall_mem_singleton.mpr (keepsToo b right ?_ writeToo)
      exact List.forall_mem_singleton.mp others
  | _ => cases written

theorem keepsOrder_map (name : NameCodec) (keeps : value.KeepsOrder) :
    (map name value).KeepsOrder := by
  intro value document ordered written
  cases ordered with
  | entries each =>
    obtain ⟨members, writes, rfl⟩ := map_eq_ok_iff.mp written
    refine Json.ordered_ofMembers ?_
    intro entry member
    obtain ⟨⟨key, item⟩, inside, write⟩ := exists_of_mem_right (mapM_eq_ok_iff.mp writes) member
    obtain ⟨written, -, write⟩ := bind_eq_ok_iff.mp write
    obtain ⟨document, found, write⟩ := bind_eq_ok_iff.mp write
    cases write
    exact keeps item document (each (key, item) inside) found
  | _ => cases written

end Codec

/-- The codec of every type keeps documents in order if those of records do. -/
theorem DataType.keepsOrder_codec {records : String → Codec}
    (keeps : ∀ name, (records name).KeepsOrder) (type : DataType) :
    (type.codec records).KeepsOrder := by
  induction type with
  | boolean => exact Codec.keepsOrder_boolean
  | integer type => exact Codec.keepsOrder_integer type
  | float => exact Codec.keepsOrder_float
  | character => exact Codec.keepsOrder_character
  | text => exact Codec.keepsOrder_textBy Reader.text
  | unit => exact Codec.keepsOrder_unit
  | any => exact Codec.keepsOrder_any
  | optional inner ih => exact Codec.keepsOrder_optional ih
  | sequence element ih => exact Codec.keepsOrder_listBy id _ ih
  | set element ih => exact Codec.keepsOrder_listBy _ _ ih
  | map name value ih => exact Codec.keepsOrder_map name.codec ih
  | pair first second ih ih' => exact Codec.keepsOrder_pair ih ih'
  | fixed length element ih =>
    exact Codec.keepsOrder_listBy id (Reader.fixed length (element.codec records).read) ih
  | lossless => exact Codec.keepsOrder_textBy Lossless.reader
  | record name => exact keeps name

/-- The object of an encoder stays in order when a value in order is written to it. -/
theorem Encoder.ordered_encode {encoder result : Encoder} {written : Written} {key : String}
    (before : encoder.value.Ordered)
    (ordered : ∀ document, written = .ok document → document.Ordered)
    (encoded : encoder.encode written key = .ok result) : result.value.Ordered := by
  cases written with
  | ok document =>
    cases encoded
    exact Json.ordered_insertMember before (ordered document rfl)
  | error error => cases encoded

namespace RecordFormat

variable {format : RecordFormat}

/-- Every field of a record format writes documents in order. -/
def KeepsOrder (format : RecordFormat) : Prop :=
  ∀ field ∈ format.fields, field.format.whole.KeepsOrder ∧ field.format.inner.KeepsOrder

/-- The object of an encoder stays in order when a field of a record is written to it. -/
theorem KeepsOrder.ordered_writeField (keeps : format.KeepsOrder) {record : Record}
    (ordered : (Datum.record record).Ordered) {encoder result : Encoder}
    {statement : EncodeStatement} (before : encoder.value.Ordered)
    (written : format.writeField record encoder statement = .ok result) :
    result.value.Ordered := by
  cases ordered with
  | record each =>
    unfold writeField at written
    dsimp only at written
    split at written
    · rename_i field value found holds
      obtain ⟨whole, inner⟩ := keeps field (List.mem_of_find?_eq_some found)
      have ordered : value.Ordered := by
        obtain ⟨before, after, rfl, -⟩ := List.lookup_eq_some_iff.mp holds
        exact each (_, value) (List.mem_append_right before List.mem_cons_self)
      split at written
      · exact Encoder.ordered_encode before (fun document => whole value document ordered) written
      · split at written
        · rename_i present presence
          cases ordered with
          | absent =>
            cases presence
            cases written
            exact before
          | present ordered =>
            cases presence
            exact Encoder.ordered_encode before (fun document => inner _ document ordered) written
          | _ => cases presence
        · cases written
    · cases written

/-- A record that holds documents in order is written as a document in order. -/
theorem KeepsOrder.ordered_write (keeps : format.KeepsOrder) {record : Record}
    (ordered : (Datum.record record).Ordered) {document : Json}
    (written : format.write record = .ok document) : document.Ordered := by
  obtain ⟨encoder, folded, rfl⟩ := map_eq_ok_iff.mp written
  have empty : Encoder.empty.value.Ordered := .object .nil nofun
  refine foldlM_keeps (P := fun encoder => encoder.value.Ordered) ?_ empty folded
  exact fun encoder statement result before _ => keeps.ordered_writeField ordered before

/-- Records as values of fields keep documents in order, so records may be nested. -/
theorem KeepsOrder.asCodec (keeps : format.KeepsOrder) :
    (RecordCodec.ofFormat format).asCodec.KeepsOrder := by
  intro value document ordered written
  cases value with
  | record fields => exact keeps.ordered_write ordered (mapError_eq_ok_iff.mp written)
  | _ => cases written

end RecordFormat

/-- The format of a sample keeps documents in order if the codecs of records do. -/
theorem Sample.keepsOrder_of_format? {sample : Sample} {records : String → Codec}
    {format : RecordFormat} (made : sample.format? records = some format)
    (keeps : ∀ name, (records name).KeepsOrder) : format.KeepsOrder := by
  intro field within
  rw [fields_of_format? made] at within
  obtain ⟨declared, -, rfl⟩ := List.mem_map.mp within
  exact ⟨declared.type.keepsOrder_codec keeps, declared.type.withoutOptional.keepsOrder_codec keeps⟩

end RecordCoding
