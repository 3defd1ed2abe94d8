import RecordCoding.Binary64.Layout
import RecordCoding.Json.Failure
import RecordCoding.Json.Value
import RecordCoding.Text.Quoted

/-!
# Mismatches between values and types

Why a value could not be read as a type: what was found and what was expected. A mismatch that is
met while reading text also has a place.
-/

namespace RecordCoding

/-- What was found in place of an expected value. -/
inductive Found where
  | unit
  | boolean (value : Bool)
  | integer (value : Int)
  | float (value : Binary64)
  | text (value : String)
  | bytes
  | sequence
  | map
  deriving Repr, DecidableEq

/-- How found values are described: the word for no value and the layout of numbers. -/
structure Wording where
  unit : String
  layout : Binary64.Layout

/-- The wording for values of JSON documents. -/
def Wording.json : Wording := ⟨"null", .compact⟩

/-- The wording for values of any other origin. -/
def Wording.generic : Wording := ⟨"unit value", .positional⟩

namespace Found

/-- The description of what was found. -/
def describe (wording : Wording) : Found → String
  | unit => wording.unit
  | boolean value => "boolean `" ++ (if value then "true" else "false") ++ "`"
  | integer value => "integer `" ++ toString value ++ "`"
  | float value => "floating point `" ++ value.text wording.layout ++ "`"
  | text value => "string " ++ Text.quote value
  | bytes => "byte array"
  | sequence => "sequence"
  | map => "map"

/-- What is found in a JSON value. -/
def ofJson : Json → Found
  | .null => unit
  | .boolean value => boolean value
  | .number (.integer value) => integer value
  | .number (.float value) => float value
  | .text value => text value
  | .array _ => sequence
  | .object _ => map

end Found

/-- Why a value does not fit a type. -/
inductive Mismatch where
  | wrongType (found : Found) (expected : String)
  /-- The type is right but has no such value. -/
  | wrongValue (found : Found) (expected : String)
  | wrongLength (length : Nat) (expected : String)
  /-- A name that should spell a number does not. -/
  | notANumericName
  /-- The text is not even JSON. -/
  | malformed (fault : Json.Fault)
  /-- A reason given by a reader of its own. -/
  | other (detail : String)
  deriving Repr, DecidableEq

/-- The words for a mismatch. -/
def Mismatch.describe (wording : Wording) : Mismatch → String
  | wrongType found expected =>
    "invalid type: " ++ found.describe wording ++ ", expected " ++ expected
  | wrongValue found expected =>
    "invalid value: " ++ found.describe wording ++ ", expected " ++ expected
  | wrongLength length expected => "invalid length " ++ toString length ++ ", expected " ++ expected
  | notANumericName => "invalid value: expected key to be a number in quotes"
  | malformed fault => fault.message
  | other detail => detail

/-- A mismatch, with its place if it was met in a text. -/
structure ReadError where
  mismatch : Mismatch
  position : Option Json.Position
  deriving Repr, DecidableEq

namespace ReadError

/-- A mismatch without a place. -/
def of (mismatch : Mismatch) : ReadError := ⟨mismatch, none⟩

/-- A mismatch at a place. -/
def locatedAt (mismatch : Mismatch) (position : Json.Position) : ReadError :=
  ⟨mismatch, some position⟩

/-- The words for an error about a value of a JSON document. -/
def message (error : ReadError) : String :=
  error.mismatch.describe .json ++ (error.position.map Json.Position.suffix).getD ""

/-- A mismatch without a place is described by its own words. -/
@[simp] theorem message_of (mismatch : Mismatch) :
    (of mismatch).message = mismatch.describe .json := by
  simp [message, of]

end ReadError

end RecordCoding
