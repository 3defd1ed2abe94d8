import RecordCoding.Coding.Error
import RecordCoding.Json.Value

/-!
# Writing members

An encoder collects the members of an object. A value is written to JSON before the object is
touched, so that a value that cannot be written leaves the object as it is.
-/

namespace RecordCoding

/-- Why a value has no JSON form. -/
inductive WriteError where
  | numberOutOfRange
  /-- A map whose keys are not scalars. -/
  | keyMustBeString
  /-- The value does not belong to the type that writes it. -/
  | foreignValue
  | other (detail : String)
  deriving Repr, DecidableEq

/-- The words for a write error. -/
def WriteError.message : WriteError → String
  | numberOutOfRange => "number out of range"
  | keyMustBeString => "key must be a string"
  | foreignValue => "value of another type"
  | other detail => detail

/-- The result of writing a value. -/
abbrev Written := Except WriteError Json

/-- The integers that have a JSON form. -/
def Written.integer (value : Int) : Written :=
  if -Int.pow 2 63 ≤ value && value < Int.pow 2 64 then .ok (.integer value) else .error .numberOutOfRange

/-- Numbers that are not finite are written as null. -/
def Written.float (value : Binary64) : Written :=
  .ok (if value.isFinite then .number (.float value) else .null)

/-- What a step of writing does with a value. -/
inductive WriteAction where
  /-- The value has to be written. -/
  | encode (written : Written)
  /-- There may be no value, and then nothing is written. -/
  | encodeIfPresent (written : Option Written)

/-- A step of writing under a key. -/
structure WriteStep where
  key : String
  action : WriteAction

/-- The members written so far. -/
structure Encoder where
  members : List (String × Json)
  deriving Repr

namespace Encoder

/-- An encoder without members. -/
def empty : Encoder := ⟨[]⟩

/-- The object with the members written so far. -/
def value (encoder : Encoder) : Json := .object encoder.members

/-- Writes a value under a key, in place of an earlier one: the members after it and what the call
answers. The value is written to JSON first, and only then put in. -/
def write (encoder : Encoder) (written : Written) (key : String) :
    Encoder × Except CodingError Unit :=
  match written with
  | .ok value => (⟨Json.insertMember encoder.members key value⟩, .ok ())
  | .error error => (encoder, .error (.ofUnwritable key error.message))

/-- Writes a value, to go on with the members after it unless that fails. -/
def encode (encoder : Encoder) (written : Written) (key : String) : Except CodingError Encoder :=
  let (next, answer) := encoder.write written key
  answer.map fun _ => next

/-- Writes a value if there is one; without one the object is left as it is. -/
def encodeIfPresent (encoder : Encoder) (written : Option Written) (key : String) :
    Except CodingError Encoder :=
  match written with
  | some written => encoder.encode written key
  | none => .ok encoder

/-- Takes a step of writing: the members after it and what it answers. -/
def take (encoder : Encoder) (step : WriteStep) : Encoder × Except CodingError Unit :=
  match step.action with
  | .encode written => encoder.write written step.key
  | .encodeIfPresent (some written) => encoder.write written step.key
  | .encodeIfPresent none => (encoder, .ok ())

/-- Takes several steps one after the other. -/
def takeAll (encoder : Encoder) : List WriteStep → Encoder × List (Except CodingError Unit)
  | [] => (encoder, [])
  | step :: rest =>
    let (next, answer) := encoder.take step
    let (last, answers) := next.takeAll rest
    (last, answer :: answers)

end Encoder

end RecordCoding
