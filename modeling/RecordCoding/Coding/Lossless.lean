import RecordCoding.Coding.Container

/-!
# Lossless text

Identifiers are often written as numbers by one program and as strings by another. A lossless
field accepts strings, truth values and integers and keeps their text. Floating point numbers and
null are refused, because their text is not the same everywhere. Other types may name a container
of their own to be read through.
-/

namespace RecordCoding

/-- A scalar as it comes from any source of data. -/
inductive Scalar where
  | text (value : String)
  | character (value : Char)
  | boolean (value : Bool)
  | integer (value : Int)
  | float (value : Binary64)
  | unit
  | bytes
  deriving Repr, DecidableEq

namespace Lossless

/-- What lossless text is made of. -/
def expected : String := "a string, boolean or integer"

/-- The text of a scalar. -/
def ofScalar : Scalar → Except Mismatch String
  | .text value => .ok value
  | .character value => .ok (String.singleton value)
  | .boolean value => .ok (if value then "true" else "false")
  | .integer value => .ok (toString value)
  | .float value => .error (.wrongType (.float value) expected)
  | .unit => .error (.wrongType .unit expected)
  | .bytes => .error (.wrongType .bytes expected)

/-- The scalar in a JSON value, unless it is an array or an object. -/
def scalar? : Json → Option Scalar
  | .null => some .unit
  | .boolean value => some (.boolean value)
  | .number (.integer value) => some (.integer value)
  | .number (.float value) => some (.float value)
  | .text value => some (.text value)
  | .array _ | .object _ => none

/-- Reads lossless text. -/
def reader : Reader String := fun value =>
  match scalar? value with
  | some scalar => (ofScalar scalar).mapError .of
  | none => Reader.wrongType expected value

/-- Strings are kept as they are. -/
@[simp] theorem reader_text (value : String) : reader (.text value) = .ok value := rfl

end Lossless

/-- Types that are read through a container, which may take several forms of a value. -/
class LosslessDecoding (α : Type) where
  /-- What a value is read as first. -/
  Container : Type
  reader : Reader Container
  fromContainer : Container → α

namespace LosslessDecoding

/-- Strings are read through their lossless text. -/
instance : LosslessDecoding String := ⟨String, Lossless.reader, id⟩

/-- Reads a value of the type wherever it stands, not as a member only. -/
def read {α : Type} [LosslessDecoding α] : Reader α := fun value =>
  fromContainer <$> LosslessDecoding.reader value

end LosslessDecoding

/-- A value that is read losslessly wherever it stands. -/
structure LosslessValue (α : Type) where
  inner : α
  deriving Repr, DecidableEq

namespace LosslessValue

/-- It is read through the container of the value in it. -/
instance {α : Type} [LosslessDecoding α] : LosslessDecoding (LosslessValue α) :=
  ⟨LosslessDecoding.Container α, LosslessDecoding.reader,
    fun container => ⟨LosslessDecoding.fromContainer container⟩⟩

end LosslessValue

namespace Container

/-- Reads a value through its container. -/
def decodeLossless {α : Type} [LosslessDecoding α] (container : Container) (key : String) :
    Except CodingError α :=
  LosslessDecoding.fromContainer <$> container.decode LosslessDecoding.reader key

/-- Reads a value through its container, if there is one. -/
def decodeLosslessIfPresent {α : Type} [LosslessDecoding α] (container : Container)
    (key : String) : Except CodingError (Option α) :=
  (·.map LosslessDecoding.fromContainer) <$>
    container.decodeIfPresent LosslessDecoding.reader key

/-- The container of a string is its text. -/
theorem decodeLossless_text (container : Container) (key : String) :
    container.decodeLossless key = container.decode Lossless.reader key := id_map _

/-- The container of a string is its text, if there is one. -/
theorem decodeLosslessIfPresent_text (container : Container) (key : String) :
    container.decodeLosslessIfPresent key = container.decodeIfPresent Lossless.reader key := by
  have keep : (Option.map id : Option String → Option String) = id := Option.map_id
  exact (congrArg (· <$> container.decodeIfPresent Lossless.reader key) keep).trans (id_map _)

end Container

end RecordCoding
