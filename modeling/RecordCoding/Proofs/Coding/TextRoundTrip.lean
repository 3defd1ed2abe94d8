import RecordCoding.Proofs.Coding.DocumentOrder
import RecordCoding.Proofs.Coding.Normalization
import RecordCoding.Proofs.Json.RoundTrip

/-!
# Records as text

Text is an exact carrier of what is written: whether it is on one line or on several, it is read
as the document it was printed from, and a record is read from it as from that document, with the
same errors.
-/

namespace RecordCoding

namespace RecordCodec

variable {codec : RecordCodec} {record : Record} {document : Json}

/-- A record written as a document is read from the texts of that document as from itself. -/
structure RoundTrips (codec : RecordCodec) (record : Record) (document : Json) : Prop where
  compact : Json.parse (Json.textBytes (Json.compact document)) = .ok document
  pretty : Json.parse (Json.textBytes (Json.pretty document)) = .ok document
  text (onLines : Bool) :
    codec.writeText onLines record >>= codec.readText = codec.write record >>= codec.read
  bytes (onLines : Bool) :
    (Json.textBytes <$> codec.writeText onLines record) >>= codec.readBytes =
      codec.write record >>= codec.read

/-- A record is read from the bytes of a document as from the document. -/
theorem readBytes_of_parse (codec : RecordCodec) {bytes : List UInt8}
    (parsed : Json.parse bytes = .ok document) : codec.readBytes bytes = codec.read document := by
  rw [readBytes, parsed]
  rfl

/-- The text of a record is that of the document it is written as. -/
theorem writeText_of_write (written : codec.write record = .ok document) (onLines : Bool) :
    codec.writeText onLines record =
      .ok (if onLines then Json.pretty document else Json.compact document) := by
  rw [writeText, written]
  cases onLines <;> rfl

/-- A record that is written as a portable document is read from its text, on one line or on
several, as from that document. Every object is kept in order: what generated routines write is, by
`RecordFormat.KeepsOrder.ordered_write`, and by `Encoder.ordered_encode` so is what is put together
member by member. -/
theorem roundTrips_of_portable (written : codec.write record = .ok document)
    (ordered : document.Ordered) (portable : Json.Portable Json.maxDepth document) :
    codec.RoundTrips record document := by
  have compact := Json.parse_compact portable ordered
  have pretty := Json.parse_pretty portable ordered
  have carried (onLines : Bool) :
      codec.writeText onLines record >>= codec.readText = codec.write record >>= codec.read := by
    rw [writeText_of_write written, written]
    cases onLines with
    | false => exact codec.readBytes_of_parse compact
    | true => exact codec.readBytes_of_parse pretty
  refine ⟨compact, pretty, carried, fun onLines => ?_⟩
  have same := carried onLines
  rw [writeText_of_write written] at same ⊢
  exact same

end RecordCodec

namespace Sample

/-- A record with much that has to be escaped, with integers at both ends of what can be held, with
another record in it and with a document as it is. -/
def parcel : Sample := .generated "Parcel" []
  [.stored "title" .text [.rename "键 \"k\" \\ 😀"],
    .stored "sender" (.record "Member") [],
    .stored "least" (.integer .i64) [],
    .stored "greatest" (.integer .u64) [],
    .stored "route" (.sequence (.sequence (.integer .i8))) [],
    .stored "labels" (.map .text (.optional .boolean)) [],
    .stored "content" .any [],
    .stored "note" (.optional .text) []]

/-- Parcels have a format. -/
theorem isSome_parcel : (parcel.format? RecordCodec.membersOnly).isSome = true := rfl

/-- Members keep documents in order. -/
theorem keepsOrder_membersOnly (name : String) : (RecordCodec.membersOnly name).KeepsOrder := by
  have made := (Option.some_get isSome_member).symm
  exact (keepsOrder_of_format? made fun _ => Codec.keepsOrder_unit).asCodec

end Sample

/-- The format of parcels. -/
def RecordFormat.parcel : RecordFormat :=
  (Sample.parcel.format? RecordCodec.membersOnly).get Sample.isSome_parcel

/-- The content of a parcel: empty and nested arrays and objects. -/
def Json.parcelContent : Json := .object
  [("", .array []), ("\n", .object []), ("a", .array [.null, .array [.object []], .boolean false]),
    ("é", .object [("\x7f", .integer (-1)), ("😀", .text "")])]

/-- A parcel. -/
def Record.parcel : Record :=
  [("title", .text "\"\\/\x08\x0c\n\r\t\x00\x1f\x7f é键😀\u2028"),
    ("sender", .record [("name", .text "\t")]),
    ("least", .integer (-9223372036854775808)), ("greatest", .integer 18446744073709551615),
    ("route", .list [.list [], .list [.integer (-1), .integer 0], .list []]),
    ("labels", .entries [(.text "a", .present (.boolean true)), (.text "b", .absent)]),
    ("content", .json .parcelContent), ("note", .absent)]

/-- What is written for that parcel. -/
def Json.parcel : Json := .object
  [("content", .parcelContent), ("greatest", .integer 18446744073709551615),
    ("labels", .object [("a", .boolean true), ("b", .null)]),
    ("least", .integer (-9223372036854775808)),
    ("route", .array [.array [], .array [.integer (-1), .integer 0], .array []]),
    ("sender", .object [("name", .text "\t")]),
    ("键 \"k\" \\ 😀", .text "\"\\/\x08\x0c\n\r\t\x00\x1f\x7f é键😀\u2028")]

/-- Its content is in order. -/
theorem Json.ordered_parcelContent : Json.parcelContent.Ordered := by
  refine .object (by decide) ?_
  simp only [List.forall_mem_cons]
  refine ⟨.array nofun, .object .nil nofun, .array ?_, .object (by decide) ?_, nofun⟩
  · simp only [List.forall_mem_cons]
    refine ⟨.null, .array ?_, .boolean false, nofun⟩
    exact List.forall_mem_singleton.mpr (.object .nil nofun)
  · simp only [List.forall_mem_cons]
    exact ⟨.number (.integer (-1)), .text "", nofun⟩

/-- It holds no document that is not in order. -/
theorem Record.ordered_parcel : (Datum.record Record.parcel).Ordered := by
  refine .record ?_
  simp only [Record.parcel, List.forall_mem_cons]
  refine ⟨.text _, .record ?_, .integer _, .integer _, .list ?_, .entries ?_,
    .json Json.ordered_parcelContent, .absent, nofun⟩
  · exact List.forall_mem_singleton.mpr (.text "\t")
  · simp only [List.forall_mem_cons]
    refine ⟨.list nofun, .list ?_, .list nofun, nofun⟩
    simp only [List.forall_mem_cons]
    exact ⟨.integer (-1), .integer 0, nofun⟩
  · simp only [List.forall_mem_cons]
    exact ⟨.present (.boolean true), .absent, nofun⟩

/-- What is written for it is portable. -/
theorem Json.portable_parcel : Json.Portable Json.maxDepth Json.parcel := by
  refine .object ?_
  simp only [List.forall_mem_cons]
  refine ⟨.object ?_, .integer (by decide) (by decide), .object ?_,
    .integer (by decide) (by decide), .array ?_, .object ?_, .text _, nofun⟩
  · simp only [List.forall_mem_cons]
    refine ⟨.array nofun, .object nofun, .array ?_, .object ?_, nofun⟩
    · simp only [List.forall_mem_cons]
      refine ⟨.null, .array ?_, .boolean false, nofun⟩
      exact List.forall_mem_singleton.mpr (.object nofun)
    · simp only [List.forall_mem_cons]
      exact ⟨.integer (by decide) (by decide), .text "", nofun⟩
  · simp only [List.forall_mem_cons]
    exact ⟨.boolean true, .null, nofun⟩
  · simp only [List.forall_mem_cons]
    refine ⟨.array nofun, .array ?_, .array nofun, nofun⟩
    simp only [List.forall_mem_cons]
    exact ⟨.integer (by decide) (by decide), .integer (by decide) (by decide), nofun⟩
  · exact List.forall_mem_singleton.mpr (.text "\t")

/-- That parcel is read from its text as from what is written for it. -/
theorem RecordCodec.roundTrips_parcel :
    (ofFormat .parcel).write .parcel = .ok .parcel ∧ Json.parcel.Ordered ∧
      Json.Portable Json.maxDepth Json.parcel ∧ (ofFormat .parcel).RoundTrips .parcel .parcel := by
  have made := (Option.some_get Sample.isSome_parcel).symm
  have written : RecordFormat.parcel.write .parcel = .ok .parcel := rfl
  have keeps := Sample.keepsOrder_of_format? made Sample.keepsOrder_membersOnly
  have ordered := keeps.ordered_write Record.ordered_parcel written
  exact ⟨written, ordered, Json.portable_parcel,
    roundTrips_of_portable written ordered Json.portable_parcel⟩

end RecordCoding
