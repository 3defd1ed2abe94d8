import RecordCoding.Json.Outline

/-!
# Field values

The values that fields of records hold, and an outline of each, from which the value can be
recovered. Values are compared by their outlines: those of the same type by what they are, sequences
and records at their first difference, and no two different ones are level.
-/

namespace RecordCoding

/-- A value of a field. -/
inductive Datum where
  | boolean (value : Bool)
  | integer (value : Int)
  | float (value : Binary64)
  | character (value : Char)
  | text (value : String)
  | unit
  /-- No value of an optional type. -/
  | absent
  | present (value : Datum)
  /-- The elements of an array, a set or a tuple. -/
  | list (elements : List Datum)
  | entries (pairs : List (Datum × Datum))
  | json (document : Json)
  | record (fields : List (String × Datum))
  deriving Repr, Inhabited

namespace Datum

/-- An optional value. -/
def ofOption : Option Datum → Datum
  | none => absent
  | some value => present value

/-- The value in an optional one. -/
def toOption? : Datum → Option (Option Datum)
  | absent => some none
  | present value => some (some value)
  | _ => none

/-- The rank of a kind of value; values of one type are of one kind, except optional ones. -/
def rank : Datum → Nat
  | absent => 0
  | present _ => 1
  | boolean _ => 2
  | integer _ => 3
  | float _ => 4
  | character _ => 5
  | text _ => 6
  | unit => 7
  | list _ => 8
  | entries _ => 9
  | json _ => 10
  | record _ => 11

mutual

/-- What follows the rank of a value in its outline. -/
def content : Datum → List Symbol
  | absent | unit => []
  | present value => .number value.rank :: value.content
  | boolean value => [.truth value]
  | integer value => [.number value]
  | float value => value.outline
  | character value => [.number value.toNat]
  | text value => [.text value]
  | list elements => contentOfList elements
  | entries pairs => contentOfPairs pairs
  | json document => .number document.rank :: document.content
  | record fields => contentOfFields fields

/-- The outline of a sequence; each element is announced, and so is the end. -/
def contentOfList : List Datum → List Symbol
  | [] => [.number 0]
  | value :: rest => .number 1 :: .number value.rank :: (value.content ++ contentOfList rest)

/-- The outline of a sequence of pairs. -/
def contentOfPairs : List (Datum × Datum) → List Symbol
  | [] => [.number 0]
  | (key, value) :: rest =>
    .number 1 :: .number key.rank :: (key.content ++
      .number value.rank :: (value.content ++ contentOfPairs rest))

/-- The outline of the fields of a record. -/
def contentOfFields : List (String × Datum) → List Symbol
  | [] => [.number 0]
  | (name, value) :: rest =>
    .number 1 :: .text name :: .number value.rank :: (value.content ++ contentOfFields rest)

end

/-- The outline of a value. -/
def outline (value : Datum) : List Symbol := .number value.rank :: value.content

/-- The order of values, by the first difference of their outlines. -/
def compare (a b : Datum) : Ordering := List.compareLex Symbol.compare a.outline b.outline

mutual

/-- A value of a known kind is recovered from what follows its rank. -/
theorem content_append_inj {a b : Datum} (kind : a.rank = b.rank) {r s : List Symbol}
    (same : a.content ++ r = b.content ++ s) : a = b ∧ r = s := by
  match a, b with
  | .absent, .absent => exact ⟨rfl, same⟩
  | .unit, .unit => exact ⟨rfl, same⟩
  | .present x, .present y =>
    simp only [content, List.cons_append, List.cons.injEq, Symbol.number_inj, Int.ofNat_inj] at same
    simpa using content_append_inj same.1 same.2
  | .boolean x, .boolean y => simpa [content] using same
  | .integer x, .integer y => simpa [content] using same
  | .float x, .float y => simpa using Binary64.outline_append_inj same
  | .character x, .character y => simpa [content, Int.ofNat_inj, Char.toNat_inj] using same
  | .text x, .text y => simpa [content] using same
  | .list xs, .list ys => simpa using @contentOfList_append_inj xs ys _ _ same
  | .entries xs, .entries ys => simpa using @contentOfPairs_append_inj xs ys _ _ same
  | .json x, .json y =>
    simp only [content, List.cons_append, List.cons.injEq, Symbol.number_inj, Int.ofNat_inj] at same
    simpa using Json.content_append_inj same.1 same.2
  | .record xs, .record ys => simpa using @contentOfFields_append_inj xs ys _ _ same

theorem contentOfList_append_inj {xs ys : List Datum} {r s : List Symbol}
    (same : contentOfList xs ++ r = contentOfList ys ++ s) : xs = ys ∧ r = s := by
  match xs, ys with
  | [], [] => simpa [contentOfList] using same
  | [], _ :: _ => simp [contentOfList] at same
  | _ :: _, [] => simp [contentOfList] at same
  | x :: xs, y :: ys =>
    simp only [contentOfList, List.cons_append, List.append_assoc, List.cons.injEq,
      Symbol.number_inj, Int.ofNat_inj, true_and] at same
    obtain ⟨rfl, behind⟩ := content_append_inj same.1 same.2
    obtain ⟨rfl, rest⟩ := contentOfList_append_inj behind
    exact ⟨rfl, rest⟩

theorem contentOfPairs_append_inj {xs ys : List (Datum × Datum)} {r s : List Symbol}
    (same : contentOfPairs xs ++ r = contentOfPairs ys ++ s) : xs = ys ∧ r = s := by
  match xs, ys with
  | [], [] => simpa [contentOfPairs] using same
  | [], _ :: _ => simp [contentOfPairs] at same
  | _ :: _, [] => simp [contentOfPairs] at same
  | (k, x) :: xs, (l, y) :: ys =>
    simp only [contentOfPairs, List.cons_append, List.append_assoc, List.cons.injEq,
      Symbol.number_inj, Int.ofNat_inj, true_and] at same
    obtain ⟨rfl, item⟩ := content_append_inj same.1 same.2
    simp only [List.cons.injEq, Symbol.number_inj, Int.ofNat_inj] at item
    obtain ⟨rfl, behind⟩ := content_append_inj item.1 item.2
    obtain ⟨rfl, rest⟩ := contentOfPairs_append_inj behind
    exact ⟨rfl, rest⟩

theorem contentOfFields_append_inj {xs ys : List (String × Datum)} {r s : List Symbol}
    (same : contentOfFields xs ++ r = contentOfFields ys ++ s) : xs = ys ∧ r = s := by
  match xs, ys with
  | [], [] => simpa [contentOfFields] using same
  | [], _ :: _ => simp [contentOfFields] at same
  | _ :: _, [] => simp [contentOfFields] at same
  | (n, x) :: xs, (m, y) :: ys =>
    simp only [contentOfFields, List.cons_append, List.append_assoc, List.cons.injEq,
      Symbol.number_inj, Symbol.text_inj, Int.ofNat_inj, true_and] at same
    obtain ⟨rfl, kind, same⟩ := same
    obtain ⟨rfl, behind⟩ := content_append_inj kind same
    obtain ⟨rfl, rest⟩ := contentOfFields_append_inj behind
    exact ⟨rfl, rest⟩

end

/-- Different values have different outlines. -/
theorem outline_injective {a b : Datum} (same : a.outline = b.outline) : a = b := by
  simp only [outline, List.cons.injEq, Symbol.number_inj, Int.ofNat_inj] at same
  have closed : a.content ++ [] = b.content ++ [] := by rw [same.2]
  exact (content_append_inj same.1 closed).1

end Datum

end RecordCoding
