import RecordCoding.Json.Value

/-!
# Documents within bounds

The documents that can be held: their integers fit 64 bits, signed or unsigned, and their floating
point numbers are finite.
-/

namespace RecordCoding

/-- A document whose numbers are within bounds. -/
inductive Json.Representable : Json → Prop where
  | null : Representable .null
  | boolean (value : Bool) : Representable (.boolean value)
  | integer {value : Int} (least : -Int.pow 2 63 ≤ value) (greatest : value < Int.pow 2 64) :
      Representable (.integer value)
  | float {value : Binary64} (finite : value.isFinite = true) :
      Representable (.number (.float value))
  | text (value : String) : Representable (.text value)
  | array {elements : List Json} (each : ∀ element ∈ elements, Representable element) :
      Representable (.array elements)
  | object {members : List (String × Json)} (each : ∀ entry ∈ members, Representable entry.2) :
      Representable (.object members)

/-- What is found under a name is within bounds if the object is. -/
theorem Json.Representable.member? {members : List (String × Json)}
    (bounded : Representable (.object members)) {name : String} {value : Json}
    (found : Json.member? members name = some value) : Representable value := by
  cases bounded with
  | object each =>
    obtain ⟨entry, present, rfl⟩ := Option.map_eq_some_iff.mp found
    exact each entry (List.mem_of_find?_eq_some present)

end RecordCoding
