import RecordCoding.Coding.ReadError
import RecordCoding.Json.Parser

/-!
# Reading values

A reader turns a JSON value into a value of a type or says why it cannot. Readers of composite
types are made from the readers of their parts; they read the parts in document order and stop at
the first error.
-/

namespace RecordCoding

/-- A reader of values. -/
abbrev Reader (α : Type) := Json → Except ReadError α

/-- A reader of member names. -/
abbrev NameReader (α : Type) := String → Except ReadError α

/-- The integer types. -/
inductive IntegerType where
  | i8
  | i16
  | i32
  | i64
  | u8
  | u16
  | u32
  | u64
  deriving Repr, DecidableEq

namespace IntegerType

/-- Every integer type. -/
def all : List IntegerType := [i8, i16, i32, i64, u8, u16, u32, u64]

/-- The name of an integer type. -/
def name : IntegerType → String
  | i8 => "i8"
  | i16 => "i16"
  | i32 => "i32"
  | i64 => "i64"
  | u8 => "u8"
  | u16 => "u16"
  | u32 => "u32"
  | u64 => "u64"

/-- The least value. -/
def least : IntegerType → Int
  | i8 => -Int.pow 2 7
  | i16 => -Int.pow 2 15
  | i32 => -Int.pow 2 31
  | i64 => -Int.pow 2 63
  | u8 | u16 | u32 | u64 => 0

/-- The greatest value. -/
def greatest : IntegerType → Int
  | i8 => Int.pow 2 7 - 1
  | i16 => Int.pow 2 15 - 1
  | i32 => Int.pow 2 31 - 1
  | i64 => Int.pow 2 63 - 1
  | u8 => Int.pow 2 8 - 1
  | u16 => Int.pow 2 16 - 1
  | u32 => Int.pow 2 32 - 1
  | u64 => Int.pow 2 64 - 1

/-- A number as a value of the type. -/
def ofNumber (type : IntegerType) : JsonNumber → Except Mismatch Int
  | .integer value =>
    if type.least ≤ value && value ≤ type.greatest then .ok value
    else .error (.wrongValue (.integer value) type.name)
  | .float value => .error (.wrongType (.float value) type.name)

/-- A number that is accepted lies within the bounds. -/
theorem bounds_of_ofNumber {type : IntegerType} {number : JsonNumber} {value : Int}
    (h : type.ofNumber number = .ok value) : type.least ≤ value ∧ value ≤ type.greatest := by
  unfold ofNumber at h
  split at h
  · split at h
    · rename_i inside
      cases h
      simpa using inside
    · cases h
  · cases h

end IntegerType

namespace Reader

/-- The error for a value of another type than expected. -/
def wrongType {α : Type} (expected : String) (value : Json) : Except ReadError α :=
  .error (.of (.wrongType (.ofJson value) expected))

/-- A truth value. -/
def boolean : Reader Bool
  | .boolean value => .ok value
  | value => wrongType "a boolean" value

/-- An integer. -/
def integer (type : IntegerType) : Reader Int
  | .number number => (type.ofNumber number).mapError .of
  | value => wrongType type.name value

/-- A floating point number; integers are converted. -/
def float : Reader Binary64
  | .number (.float value) => .ok value
  | .number (.integer value) => .ok (.ofInt value)
  | value => wrongType "f64" value

/-- The only character of a text. -/
def soleCharacter (text : String) : Except ReadError Char :=
  match text.toList with
  | [c] => .ok c
  | _ => .error (.of (.wrongValue (.text text) "a character"))

/-- A character, written as a string. -/
def character : Reader Char
  | .text value => soleCharacter value
  | value => wrongType "a character" value

/-- A string. -/
def text : Reader String
  | .text value => .ok value
  | value => wrongType "a string" value

/-- No value, written as null. -/
def unit : Reader Unit
  | .null => .ok ()
  | value => wrongType "unit" value

/-- Any value as it is. -/
def any : Reader Json := .ok

/-- A value that may be null. -/
def optional {α : Type} (reader : Reader α) : Reader (Option α)
  | .null => .ok none
  | value => some <$> reader value

/-- A sequence. -/
def sequence {α : Type} (reader : Reader α) : Reader (List α)
  | .array elements => elements.mapM reader
  | value => wrongType "a sequence" value

/-- The error for elements beyond the last one expected. -/
def surplus (length : Nat) : ReadError := .of (.wrongLength length "fewer elements in array")

/-- A pair, written as an array of two elements. -/
def pair {α β : Type} (first : Reader α) (second : Reader β) : Reader (α × β)
  | .array elements => do
    let short (length : Nat) : ReadError := .of (.wrongLength length "a tuple of size 2")
    match elements with
    | [] => .error (short 0)
    | [a] =>
      let _ ← first a
      .error (short 1)
    | [a, b] => .ok (← first a, ← second b)
    | a :: b :: _ =>
      let _ ← first a
      let _ ← second b
      .error (surplus elements.length)
  | value => wrongType "a tuple of size 2" value

/-- An array of a fixed length. -/
def fixed {α : Type} (length : Nat) (reader : Reader α) : Reader (List α)
  | .array elements => do
    let values ← (elements.take length).mapM reader
    if elements.length < length then
      .error (.of (.wrongLength elements.length ("an array of length " ++ toString length)))
    else if length < elements.length then .error (surplus elements.length)
    else .ok values
  | value => wrongType ("an array of length " ++ toString length) value

/-- One member, its name first. -/
def member {κ α : Type} (name : NameReader κ) (reader : Reader α) (entry : String × Json) :
    Except ReadError (κ × α) := do
  .ok (← name entry.1, ← reader entry.2)

/-- The members of an object. -/
def entries {κ α : Type} (name : NameReader κ) (reader : Reader α) : Reader (List (κ × α))
  | .object members => members.mapM (member name reader)
  | value => wrongType "a map" value

/-- The elements of an array that are not null. -/
def compacted {α : Type} (reader : Reader α) : Reader (List α) :=
  fun value => (·.filterMap id) <$> sequence (optional reader) value

/-- The members of an object that are not null. The names of null members are read, too. -/
def compactedEntries {κ α : Type} (name : NameReader κ) (reader : Reader α) :
    Reader (List (κ × α)) :=
  fun value => (·.filterMap fun entry => entry.2.map (entry.1, ·)) <$>
    entries name (optional reader) value

/-- A null is never an error of an optional value. -/
@[simp] theorem optional_null {α : Type} (reader : Reader α) : optional reader .null = .ok none :=
  rfl

end Reader

/-- A number within a text, read at the start of the given bytes, with what follows it. -/
def readInteger (type : IntegerType) (bytes : List UInt8) :
    Except ReadError (Int × List UInt8) := do
  let place (rest : List UInt8) := Json.Position.after (bytes.take (bytes.length - rest.length))
  let run {α : Type} (reader : Json.ByteReader α) (rest : List UInt8) :
      Except ReadError (α × List UInt8) :=
    (reader rest).mapError fun failure => .locatedAt (.malformed failure.fault) (failure.position bytes)
  let mismatch (found : Found) (rest : List UInt8) : Except ReadError (Int × List UInt8) :=
    .error (.locatedAt (.wrongType found type.name) (place rest))
  let (next, rest) ← run Json.ByteReader.peekToken bytes
  match next with
  | none => (·.map id id) <$> run (Json.ByteReader.failAhead .endInValue) rest
  | some '"' =>
    let (value, rest) ← run (do Json.ByteReader.skip; Json.ByteReader.string) rest
    mismatch (.text value) rest
  | some '[' => mismatch .sequence rest
  | some '\x7b' => mismatch .map rest
  | some c =>
    if c = '-' || c.isDigit then
      let (number, rest) ← run Json.ByteReader.number rest
      match type.ofNumber number with
      | .ok value => .ok (value, rest)
      | .error error => .error (.locatedAt error (place rest))
    else
      let (value, rest) ← run (Json.ByteReader.value 0) rest
      mismatch (.ofJson value) rest

namespace NameReader

/-- A name as it is. -/
def text : NameReader String := .ok

/-- A name of one character. -/
def character : NameReader Char := Reader.soleCharacter

/-- A name that spells a truth value. -/
def boolean : NameReader Bool
  | "true" => .ok true
  | "false" => .ok false
  | name => .error (.of (.wrongType (.text name) "a boolean"))

/-- Whether a name may begin a number. -/
def looksNumeric (name : String) : Bool :=
  match name.toList with
  | c :: _ => c == '-' || c.isDigit
  | [] => false

/-- A name that spells an integer. -/
def integer (type : IntegerType) : NameReader Int := fun name => do
  if looksNumeric name then
    let (value, rest) ← readInteger type (Json.textBytes name)
    if rest.isEmpty then .ok value else .error (.of .notANumericName)
  else .error (.of .notANumericName)

end NameReader

end RecordCoding
