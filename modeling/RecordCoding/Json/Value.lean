import RecordCoding.Binary64

/-!
# JSON values

Documents as read from text. Numbers are integers where the text allows it and floating point
numbers otherwise. The members of an object are kept in ascending order of their names, each name
once; inserting under a name that is taken replaces the old value.
-/

namespace RecordCoding

/-- A JSON number. -/
inductive JsonNumber where
  | integer (value : Int)
  | float (value : Binary64)
  deriving Repr, DecidableEq

/-- A JSON value. -/
inductive Json where
  | null
  | boolean (value : Bool)
  | number (value : JsonNumber)
  | text (value : String)
  | array (elements : List Json)
  | object (members : List (String × Json))
  deriving Repr, BEq, Inhabited

namespace Json

/-- A whole number. -/
abbrev integer (value : Int) : Json := .number (.integer value)

/-- The phrase for a kind of value. -/
def kind : Json → String
  | null => "null"
  | boolean _ => "a boolean"
  | number _ => "a number"
  | text _ => "a string"
  | array _ => "an array"
  | object _ => "an object"

/-- Whether a value is null. -/
def isNull : Json → Bool
  | null => true
  | _ => false

/-- The value under a name. -/
def member? (members : List (String × Json)) (name : String) : Option Json :=
  (members.find? (·.1 == name)).map (·.2)

/-- The members with a value put under a name, in its place. -/
def insertMember (members : List (String × Json)) (name : String) (value : Json) :
    List (String × Json) :=
  match members with
  | [] => [(name, value)]
  | (other, old) :: rest =>
    if name < other then (name, value) :: members
    else if name = other then (name, value) :: rest
    else (other, old) :: insertMember rest name value

/-- An object from members in any order; of equal names the last one counts. -/
def ofMembers (members : List (String × Json)) : Json :=
  .object (members.foldl (fun sorted (name, value) => insertMember sorted name value) [])

/-- A value is found under the name it was put under. -/
@[simp] theorem member?_insertMember_self (members : List (String × Json)) (name : String)
    (value : Json) : member? (insertMember members name value) name = some value := by
  induction members with
  | nil => simp [insertMember, member?]
  | cons entry rest ih =>
    obtain ⟨other, old⟩ := entry
    unfold insertMember
    split
    · simp [member?]
    · split
      · simp [member?]
      · rename_i differ
        have apart : (other == name) = false := by simpa using fun e => differ e.symm
        simpa [member?, List.find?, apart] using ih

/-- Other names are not affected by an insertion. -/
theorem member?_insertMember_of_ne (members : List (String × Json)) {name key : String}
    (value : Json) (differ : key ≠ name) :
    member? (insertMember members name value) key = member? members key := by
  have apart : (name == key) = false := by simpa using fun e => differ e.symm
  induction members with
  | nil => simp [insertMember, member?, apart]
  | cons entry rest ih =>
    obtain ⟨other, old⟩ := entry
    unfold insertMember
    split
    · simp [member?, List.find?, apart]
    · split
      · rename_i same
        subst same
        simp [member?, List.find?, apart]
      · unfold member? at ih ⊢
        by_cases h : other == key
        · simp [List.find?, h]
        · simpa [List.find?, h] using ih

end Json

end RecordCoding
