import RecordCoding.Coding.Codec
import RecordCoding.Generation
import RecordCoding.Json.Printer

/-!
# Records

Generated routines at work. A record format joins the routines of a type with the formats of its
fields; records are read member by member in the order of declaration, the first error ending the
read, and written statement by statement into one object.
-/

namespace RecordCoding

/-- How the values of a field's type are read and written, as a whole and in parts. -/
structure FieldFormat where
  whole : Codec
  /-- The type without its outer optional layer. -/
  inner : Codec
  /-- The elements of a collection, or the values of a map. -/
  element : Codec
  /-- The keys of a map. -/
  name : NameCodec
  ofElements : List Datum → Datum
  ofEntries : List (Datum × Datum) → Datum
  /-- The value of a field that is not read. -/
  initial : Datum

namespace DataType

/-- The type without its outer optional layer. -/
def withoutOptional : DataType → DataType
  | optional inner => inner
  | other => other

/-- The type of the elements of a collection, or of the values of a map. -/
def elementType : DataType → DataType
  | sequence element | set element => element
  | map _ value => value
  | other => other

/-- The type of the keys of a map. -/
def nameType : DataType → NameType
  | map name _ => name
  | _ => .text

/-- How a collection keeps its elements. -/
def arrange (records : String → Codec) : DataType → List Datum → List Datum
  | set element => (element.codec records).order.setOf
  | _ => id

/-- The format of a field of a type. -/
def format (records : String → Codec) (type : DataType) : FieldFormat :=
  let inner := type.withoutOptional
  { whole := type.codec records
    inner := inner.codec records
    element := inner.elementType.codec records
    name := inner.nameType.codec
    ofElements := fun elements => .list (inner.arrange records elements)
    ofEntries := fun pairs => .entries (Datum.mapOf pairs)
    initial := (type.codec records).initial }

end DataType

/-- A field of a record format. -/
structure RecordField where
  name : String
  isComputed : Bool
  format : FieldFormat
  /-- The value of the field's default expression. -/
  fallback : Datum

/-- The values of the fields of a record, in the order of declaration. -/
abbrev Record := List (String × Datum)

/-- A record type with its routines. -/
structure RecordFormat where
  fields : List RecordField
  keys : KeyTable
  decode : DecodeRoutine
  encode : EncodeRoutine

namespace RecordFormat

/-- The wire key of a field. -/
def key (format : RecordFormat) (field : String) : String :=
  (format.keys.wireKey? field).getD field

/-- Reads a field according to its plan. -/
def readPlanned (container : Container) (key : String) (field : RecordField) :
    ReadPlan → Except CodingError Datum
  | .direct => container.decode field.format.whole.read key
  | .optional => .ofOption <$> container.decodeIfPresent field.format.inner.read key
  | .defaulted _ false => do
    .ok ((← container.decodeIfPresent field.format.whole.read key).getD field.fallback)
  | .defaulted _ true => do
    .ok (.present ((← container.decodeIfPresent field.format.inner.read key).getD field.fallback))
  | .compactArray _ false | .compactSet _ false =>
    container.decodeCompacted field.format.element.read field.format.ofElements key
  | .compactArray _ true | .compactSet _ true => .ofOption <$>
    container.decodeCompactedIfPresent field.format.element.read field.format.ofElements key
  | .compactMap _ _ false =>
    container.decodeCompactedMap field.format.name.read field.format.element.read
      field.format.ofEntries key
  | .compactMap _ _ true => .ofOption <$>
    container.decodeCompactedMapIfPresent field.format.name.read field.format.element.read
      field.format.ofEntries key
  | .lossless false => .text <$> container.decodeLossless key
  | .lossless true => (fun value => .ofOption (value.map .text)) <$>
    container.decodeLosslessIfPresent key

/-- The plan of a field; fields that are not read have none. -/
def plan? (format : RecordFormat) (field : RecordField) : Option ReadPlan :=
  if field.isComputed then none else (format.decode.statement? field.name).map (·.plan)

/-- The value of a field. -/
def readField (format : RecordFormat) (container : Container) (field : RecordField) :
    Except CodingError (String × Datum) :=
  match format.plan? field with
  | some plan => (field.name, ·) <$> readPlanned container (format.key field.name) field plan
  | none => .ok (field.name, field.format.initial)

/-- Reads a record. -/
def read (format : RecordFormat) (document : Json) : Except CodingError Record := do
  let container ← Container.ofJson document
  format.fields.mapM (format.readField container)

/-- Writes a field. -/
def writeField (format : RecordFormat) (record : Record) (encoder : Encoder)
    (statement : EncodeStatement) : Except CodingError Encoder :=
  let key := format.key statement.field
  match format.fields.find? (·.name == statement.field), record.lookup statement.field with
  | some field, some value =>
    match statement.rule with
    | .always => encoder.encode (field.format.whole.write value) key
    | .ifPresent =>
      match value.toOption? with
      | some present => encoder.encodeIfPresent (present.map field.format.inner.write) key
      | none => .error (.ofUnwritable key WriteError.foreignValue.message)
  | _, _ => .error (.ofUnwritable key WriteError.foreignValue.message)

/-- Writes a record. -/
def write (format : RecordFormat) (record : Record) : Except CodingError Json :=
  Encoder.value <$> format.encode.statements.foldlM (format.writeField record) .empty

/-- A document that is not an object is refused whatever the fields are. -/
theorem read_of_not_object (format : RecordFormat) {document : Json}
    (h : ∀ members, document ≠ .object members) :
    format.read document = .error (.notAnObject document.kind) := by
  cases document <;> first | rfl | exact absurd rfl (h _)

end RecordFormat

/-- How records of a type are read and written, by generated routines or by hand, what their order
is, and which one a field has that is not read. -/
structure RecordCodec where
  keys : List String
  read : Json → Except CodingError Record
  write : Record → Except CodingError Json
  order : ValueOrder := .standard
  initial : Record := []

namespace RecordCodec

/-- The codec of a record format. Fields that are not read have the values of their types. -/
def ofFormat (format : RecordFormat) : RecordCodec where
  keys := format.keys.entries.map (·.key)
  read := format.read
  write := format.write
  initial := format.fields.map fun field => (field.name, field.format.initial)

/-- Records as values of fields: their errors are reported by their words. -/
def asCodec (codec : RecordCodec) : Codec where
  read document := .record <$>
    (codec.read document).mapError fun error => .of (.other error.message)
  write
    | .record fields => (codec.write fields).mapError fun error => .other error.message
    | _ => .error .foreignValue
  order := codec.order
  initial := .record codec.initial

/-- Reads a record from the bytes of a document. -/
def readBytes (codec : RecordCodec) (bytes : List UInt8) : Except CodingError Record := do
  codec.read (← (Json.parse bytes).mapError CodingError.ofInvalidJson)

/-- Reads a record from the text of a document. -/
def readText (codec : RecordCodec) (text : String) : Except CodingError Record :=
  codec.readBytes (Json.textBytes text)

/-- Writes a record as text, on one line or on several. -/
def writeText (codec : RecordCodec) (pretty : Bool) (record : Record) :
    Except CodingError String :=
  (if pretty then Json.pretty else Json.compact) <$> codec.write record

end RecordCodec

end RecordCoding
