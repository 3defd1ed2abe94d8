/-!
# Malformed JSON

The causes for which a text is not a JSON document, and where they are found: the line and the
number of bytes of that line up to and including the offending one.
-/

namespace RecordCoding.Json

/-- Why a text is not JSON. -/
inductive Fault where
  | endInList
  | endInObject
  | endInString
  | endInValue
  | expectedColon
  | expectedListCommaOrEnd
  | expectedObjectCommaOrEnd
  | expectedIdent
  | expectedValue
  | invalidEscape
  | invalidNumber
  | numberOutOfRange
  | invalidCodePoint
  | controlCharacter
  | keyMustBeString
  | loneSurrogate
  | unfinishedSurrogate
  | trailingComma
  | trailingCharacters
  | tooDeep
  deriving Repr, DecidableEq

/-- The words for a fault. -/
def Fault.message : Fault → String
  | endInList => "EOF while parsing a list"
  | endInObject => "EOF while parsing an object"
  | endInString => "EOF while parsing a string"
  | endInValue => "EOF while parsing a value"
  | expectedColon => "expected `:`"
  | expectedListCommaOrEnd => "expected `,` or `]`"
  | expectedObjectCommaOrEnd => "expected `,` or `\x7d`"
  | expectedIdent => "expected ident"
  | expectedValue => "expected value"
  | invalidEscape => "invalid escape"
  | invalidNumber => "invalid number"
  | numberOutOfRange => "number out of range"
  | invalidCodePoint => "invalid unicode code point"
  | controlCharacter => "control character (\\u0000-\\u001F) found while parsing a string"
  | keyMustBeString => "key must be a string"
  | loneSurrogate => "lone leading surrogate in hex escape"
  | unfinishedSurrogate => "unexpected end of hex escape"
  | trailingComma => "trailing comma"
  | trailingCharacters => "trailing characters"
  | tooDeep => "recursion limit exceeded"

/-- A place in a text: the line, from one, and the number of bytes before the place on it. -/
structure Position where
  line : Nat
  column : Nat
  deriving Repr, DecidableEq

namespace Position

/-- The place before any text. -/
def start : Position := ⟨1, 0⟩

/-- The place after one more byte. -/
def advance (position : Position) (byte : UInt8) : Position :=
  if byte = 10 then ⟨position.line + 1, 0⟩ else ⟨position.line, position.column + 1⟩

/-- The place after some bytes. -/
def after (bytes : List UInt8) : Position := bytes.foldl advance start

/-- The words for a place, following a message. -/
def suffix (position : Position) : String :=
  " at line " ++ toString position.line ++ " column " ++ toString position.column

end Position

/-- A fault with the number of bytes that follow the place where it was found. -/
structure Failure where
  fault : Fault
  remaining : Nat
  deriving Repr, DecidableEq

/-- The place of a failure in the text it was found in. -/
def Failure.position (failure : Failure) (bytes : List UInt8) : Position :=
  .after (bytes.take (bytes.length - failure.remaining))

/-- The words for a failure in a text. -/
def Failure.message (failure : Failure) (bytes : List UInt8) : String :=
  failure.fault.message ++ (failure.position bytes).suffix

end RecordCoding.Json
