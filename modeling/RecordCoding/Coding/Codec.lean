import RecordCoding.Coding.Encoder
import RecordCoding.Coding.Lossless
import RecordCoding.Coding.ValueOrder

/-!
# Codecs

A codec reads and writes the values of one type. The types of fields are given by `DataType`, and
`DataType.codec` is the codec of each, the codecs of records being given, with their orders.
-/

namespace RecordCoding

/-- How values of a type are read and written, what their order is, and which one a field has that
is not read, if the type has such a value. -/
structure Codec where
  read : Reader Datum
  write : Datum → Written
  order : ValueOrder := .standard
  initial : Datum := .unit

/-- How values of a type are read from and written as names of members. -/
structure NameCodec where
  read : NameReader Datum
  write : Datum → Except WriteError String

/-- The types of names of members. -/
inductive NameType where
  | text
  | character
  | boolean
  | integer (type : IntegerType)
  deriving Repr, DecidableEq

/-- The types of fields. -/
inductive DataType where
  | boolean
  | integer (type : IntegerType)
  | float
  | character
  | text
  | unit
  /-- A JSON value as it is. -/
  | any
  | optional (inner : DataType)
  | sequence (element : DataType)
  | set (element : DataType)
  | map (name : NameType) (value : DataType)
  | pair (first second : DataType)
  /-- An array of fixed length. -/
  | fixed (length : Nat) (element : DataType)
  | lossless
  | record (name : String)
  deriving Repr, DecidableEq

namespace NameType

/-- The codec of a type of names. -/
def codec : NameType → NameCodec
  | text =>
    { read := fun name => .text <$> NameReader.text name
      write := fun
        | .text value => .ok value
        | _ => .error .foreignValue }
  | character =>
    { read := fun name => .character <$> NameReader.character name
      write := fun
        | .character value => .ok (String.singleton value)
        | _ => .error .foreignValue }
  | boolean =>
    { read := fun name => .boolean <$> NameReader.boolean name
      write := fun
        | .boolean value => .ok (if value then "true" else "false")
        | _ => .error .foreignValue }
  | integer type =>
    { read := fun name => .integer <$> NameReader.integer type name
      write := fun
        | .integer value => .ok (toString value)
        | _ => .error .foreignValue }

end NameType

namespace Codec

/-- Truth values. -/
def boolean : Codec where
  read value := .boolean <$> Reader.boolean value
  write
    | .boolean value => .ok (.boolean value)
    | _ => .error .foreignValue
  initial := .boolean false

/-- Integers. -/
def integer (type : IntegerType) : Codec where
  read value := .integer <$> Reader.integer type value
  write
    | .integer value => Written.integer value
    | _ => .error .foreignValue
  initial := .integer 0

/-- Floating point numbers. -/
def float : Codec where
  read value := .float <$> Reader.float value
  write
    | .float value => Written.float value
    | _ => .error .foreignValue
  initial := .float (.zero false)

/-- Characters. -/
def character : Codec where
  read value := .character <$> Reader.character value
  write
    | .character value => .ok (.text (String.singleton value))
    | _ => .error .foreignValue
  initial := .character '\x00'

/-- Strings, read by the given reader. -/
def textBy (reader : Reader String) : Codec where
  read value := .text <$> reader value
  write
    | .text value => .ok (.text value)
    | _ => .error .foreignValue
  initial := .text ""

/-- Strings. -/
def text : Codec := textBy Reader.text

/-- Lossless text. -/
def lossless : Codec := textBy Lossless.reader

/-- No value. -/
def unit : Codec where
  read value := (fun _ => .unit) <$> Reader.unit value
  write
    | .unit => .ok .null
    | _ => .error .foreignValue

/-- Any JSON value. -/
def any : Codec where
  read value := .json <$> Reader.any value
  write
    | .json value => .ok value
    | _ => .error .foreignValue
  initial := .json .null

/-- Values that may be missing. -/
def optional (inner : Codec) : Codec where
  read value := Datum.ofOption <$> Reader.optional inner.read value
  write
    | .absent => .ok .null
    | .present value => inner.write value
    | _ => .error .foreignValue
  order := .sequence inner.order
  initial := .absent

/-- Sequences, read by the given reader and then arranged. -/
def listBy (arrange : List Datum → List Datum) (reader : Reader (List Datum)) (element : Codec) :
    Codec where
  read value := (fun elements => .list (arrange elements)) <$> reader value
  write
    | .list elements => .array <$> elements.mapM element.write
    | _ => .error .foreignValue
  order := .sequence element.order
  initial := .list []

/-- Sequences. -/
def sequence (element : Codec) : Codec := listBy id (Reader.sequence element.read) element

/-- Sets. -/
def set (element : Codec) : Codec :=
  listBy element.order.setOf (Reader.sequence element.read) element

/-- Arrays of fixed length. -/
def fixed (length : Nat) (element : Codec) : Codec :=
  { listBy id (Reader.fixed length element.read) element with
    initial := .list (List.replicate length element.initial) }

/-- Pairs. -/
def pair (first second : Codec) : Codec where
  read value := (fun (a, b) => .list [a, b]) <$> Reader.pair first.read second.read value
  write
    | .list [a, b] => do .ok (.array [← first.write a, ← second.write b])
    | _ => .error .foreignValue
  order := .pair first.order second.order
  initial := .list [first.initial, second.initial]

/-- Ordered maps. -/
def map (name : NameCodec) (value : Codec) : Codec where
  read document := (fun pairs => .entries (Datum.mapOf pairs)) <$>
    Reader.entries name.read value.read document
  write
    | .entries pairs => Json.ofMembers <$> pairs.mapM fun (key, item) => do
        .ok (← name.write key, ← value.write item)
    | _ => .error .foreignValue
  order := .map value.order
  initial := .entries []

end Codec

namespace DataType

/-- The codec of a type, given the codecs of records. -/
def codec (records : String → Codec) : DataType → Codec
  | boolean => .boolean
  | integer type => .integer type
  | float => .float
  | character => .character
  | text => .text
  | unit => .unit
  | any => .any
  | optional inner => .optional (inner.codec records)
  | sequence element => .sequence (element.codec records)
  | set element => .set (element.codec records)
  | map name value => .map name.codec (value.codec records)
  | pair first second => .pair (first.codec records) (second.codec records)
  | fixed length element => .fixed length (element.codec records)
  | lossless => .lossless
  | record name => records name

end DataType

end RecordCoding
