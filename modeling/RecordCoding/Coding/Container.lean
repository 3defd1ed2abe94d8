import RecordCoding.Coding.Error
import RecordCoding.Coding.Reader

/-!
# Reading members

A container gives access to the members of an object by their keys. Reading distinguishes absent
members, null members and members of the wrong type; the optional readers take absent and null
members for no value.
-/

namespace RecordCoding

/-- The members of an object being read. -/
structure Container where
  members : List (String × Json)
  deriving Repr

namespace Container

/-- The container over a document. -/
def ofJson : Json → Except CodingError Container
  | .object members => .ok ⟨members⟩
  | value => .error (.notAnObject value.kind)

/-- The container over the document in a text. -/
def ofText (text : String) : Except CodingError Container := do
  ofJson (← (Json.parse (Json.textBytes text)).mapError .ofInvalidJson)

/-- The member under a key. -/
def member? (container : Container) (key : String) : Option Json :=
  Json.member? container.members key

/-- Whether there is a member under a key, even a null one. -/
def contains (container : Container) (key : String) : Bool := (container.member? key).isSome

/-- The positions of the keys that have a member. -/
def presentKeys (container : Container) (keys : List String) : List Nat :=
  (List.range keys.length).filter fun i => (keys[i]?.map container.contains).getD false

/-- The error for a member that does not fit its type. -/
def mismatch (key : String) (error : ReadError) : CodingError := .typeMismatch key error.message

/-- Reads a member that has to be there. -/
def decode {α : Type} (container : Container) (reader : Reader α) (key : String) :
    Except CodingError α :=
  match container.member? key with
  | none => .error (.keyNotFound key)
  | some value =>
    match reader value with
    | .ok read => .ok read
    | .error error => .error (if value.isNull then .valueNotFound key else mismatch key error)

/-- Reads a member that may be absent or null. -/
def decodeIfPresent {α : Type} (container : Container) (reader : Reader α) (key : String) :
    Except CodingError (Option α) :=
  match container.member? key with
  | none | some .null => .ok none
  | some value =>
    match reader value with
    | .ok read => .ok (some read)
    | .error error => .error (mismatch key error)

/-- Reads an array without its null elements. -/
def decodeCompacted {α β : Type} (container : Container) (element : Reader α)
    (collect : List α → β) (key : String) : Except CodingError β :=
  collect <$> container.decode (.compacted element) key

/-- Reads an array without its null elements, if there is one. -/
def decodeCompactedIfPresent {α β : Type} (container : Container) (element : Reader α)
    (collect : List α → β) (key : String) : Except CodingError (Option β) :=
  (·.map collect) <$> container.decodeIfPresent (.compacted element) key

/-- Reads an object without its null members. -/
def decodeCompactedMap {κ α β : Type} (container : Container) (name : NameReader κ)
    (value : Reader α) (collect : List (κ × α) → β) (key : String) : Except CodingError β :=
  collect <$> container.decode (.compactedEntries name value) key

/-- Reads an object without its null members, if there is one. -/
def decodeCompactedMapIfPresent {κ α β : Type} (container : Container) (name : NameReader κ)
    (value : Reader α) (collect : List (κ × α) → β) (key : String) :
    Except CodingError (Option β) :=
  (·.map collect) <$> container.decodeIfPresent (.compactedEntries name value) key

/-- An absent member is reported under its key. -/
theorem decode_of_absent {α : Type} {container : Container} {key : String} (reader : Reader α)
    (h : container.member? key = none) :
    container.decode reader key = .error (.keyNotFound key) := by
  simp [decode, h]

/-- An absent member is no value. -/
theorem decodeIfPresent_of_absent {α : Type} {container : Container} {key : String}
    (reader : Reader α) (h : container.member? key = none) :
    container.decodeIfPresent reader key = .ok none := by
  simp [decodeIfPresent, h]

/-- A null member is no value. -/
theorem decodeIfPresent_of_null {α : Type} {container : Container} {key : String}
    (reader : Reader α) (h : container.member? key = some .null) :
    container.decodeIfPresent reader key = .ok none := by
  simp [decodeIfPresent, h]

end Container

end RecordCoding
