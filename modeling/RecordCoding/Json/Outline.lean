import RecordCoding.Json.Value

/-!
# Outlines of documents

Every document has an outline: a row of symbols that says of which kind the document is and then
what is in it. An outline tells where it ends, so that a document can be recovered from the
beginning of a row, and documents with the same outline are the same.
-/

namespace RecordCoding

/-- A symbol of an outline: a number, or a text behind one. -/
abbrev Symbol := Int × String

namespace Symbol

/-- A number. -/
def number (value : Int) : Symbol := (value, "")

/-- A truth value. -/
def truth (value : Bool) : Symbol := number (if value then 1 else 0)

/-- A text. -/
def text (value : String) : Symbol := (0, value)

/-- The order of symbols, by number and then by text. -/
def compare : Symbol → Symbol → Ordering := compareLex (compareOn Prod.fst) (compareOn Prod.snd)

instance : Std.TransCmp compare :=
  inferInstanceAs (Std.TransCmp (compareLex (compareOn Prod.fst) (compareOn Prod.snd)))

instance : Std.LawfulEqCmp compare where
  eq_of_compare {a b} level := by
    obtain ⟨first, second⟩ := compareLex_eq_eq.mp level
    exact Prod.ext (Std.LawfulEqCmp.eq_of_compare first) (Std.LawfulEqCmp.eq_of_compare second)

@[simp] theorem number_inj {a b : Int} : number a = number b ↔ a = b := by
  simp [number]

@[simp] theorem truth_inj {a b : Bool} : truth a = truth b ↔ a = b := by
  cases a <;> cases b <;> simp [truth]

@[simp] theorem text_inj {a b : String} : text a = text b ↔ a = b := by
  simp [text]

end Symbol

namespace Binary64

/-- The outline of a floating point number. -/
def outline : Binary64 → List Symbol
  | finite negative significand exponent =>
    [.number 0, .truth negative, .number significand, .number exponent]
  | infinite negative => [.number 1, .truth negative]
  | nan => [.number 2]

theorem outline_append_inj {a b : Binary64} {r s : List Symbol}
    (same : a.outline ++ r = b.outline ++ s) : a = b ∧ r = s := by
  cases a <;> cases b <;> simp_all [outline, Int.ofNat_inj]

end Binary64

namespace JsonNumber

/-- The outline of a number. -/
def outline : JsonNumber → List Symbol
  | integer value => [.number 0, .number value]
  | float value => .number 1 :: value.outline

theorem outline_append_inj {a b : JsonNumber} {r s : List Symbol}
    (same : a.outline ++ r = b.outline ++ s) : a = b ∧ r = s := by
  match a, b with
  | .integer x, .integer y => simpa [outline] using same
  | .integer x, .float y => simp [outline] at same
  | .float x, .integer y => simp [outline] at same
  | .float x, .float y =>
    simp only [outline, List.cons_append, List.cons.injEq, true_and] at same
    simpa using Binary64.outline_append_inj same

end JsonNumber

namespace Json

/-- The rank of a kind of document. -/
def rank : Json → Nat
  | null => 0
  | boolean _ => 1
  | number _ => 2
  | text _ => 3
  | array _ => 4
  | object _ => 5

mutual

/-- What follows the rank of a document in its outline. -/
def content : Json → List Symbol
  | null => []
  | boolean value => [.truth value]
  | number value => value.outline
  | text value => [.text value]
  | array elements => contentOfElements elements
  | object members => contentOfMembers members

/-- The outline of elements: each is announced, and so is the end. -/
def contentOfElements : List Json → List Symbol
  | [] => [.number 0]
  | first :: rest =>
    .number 1 :: .number first.rank :: (first.content ++ contentOfElements rest)

/-- The outline of members. -/
def contentOfMembers : List (String × Json) → List Symbol
  | [] => [.number 0]
  | (name, first) :: rest =>
    .number 1 :: .text name :: .number first.rank :: (first.content ++ contentOfMembers rest)

end

mutual

/-- A document of a known kind is recovered from what follows its rank. -/
theorem content_append_inj {a b : Json} (kind : a.rank = b.rank) {r s : List Symbol}
    (same : a.content ++ r = b.content ++ s) : a = b ∧ r = s := by
  match a, b with
  | .null, .null => exact ⟨rfl, same⟩
  | .boolean x, .boolean y => simpa [content] using same
  | .number x, .number y => simpa using JsonNumber.outline_append_inj same
  | .text x, .text y => simpa [content] using same
  | .array xs, .array ys => simpa using @contentOfElements_append_inj xs ys _ _ same
  | .object xs, .object ys => simpa using @contentOfMembers_append_inj xs ys _ _ same

theorem contentOfElements_append_inj {xs ys : List Json} {r s : List Symbol}
    (same : contentOfElements xs ++ r = contentOfElements ys ++ s) : xs = ys ∧ r = s := by
  match xs, ys with
  | [], [] => simpa [contentOfElements] using same
  | [], _ :: _ => simp [contentOfElements] at same
  | _ :: _, [] => simp [contentOfElements] at same
  | x :: xs, y :: ys =>
    simp only [contentOfElements, List.cons_append, List.append_assoc, List.cons.injEq,
      Symbol.number_inj, Int.ofNat_inj, true_and] at same
    obtain ⟨rfl, behind⟩ := content_append_inj same.1 same.2
    obtain ⟨rfl, rest⟩ := contentOfElements_append_inj behind
    exact ⟨rfl, rest⟩

theorem contentOfMembers_append_inj {xs ys : List (String × Json)} {r s : List Symbol}
    (same : contentOfMembers xs ++ r = contentOfMembers ys ++ s) : xs = ys ∧ r = s := by
  match xs, ys with
  | [], [] => simpa [contentOfMembers] using same
  | [], _ :: _ => simp [contentOfMembers] at same
  | _ :: _, [] => simp [contentOfMembers] at same
  | (n, x) :: xs, (m, y) :: ys =>
    simp only [contentOfMembers, List.cons_append, List.append_assoc, List.cons.injEq,
      Symbol.number_inj, Symbol.text_inj, Int.ofNat_inj, true_and] at same
    obtain ⟨rfl, kind, same⟩ := same
    obtain ⟨rfl, behind⟩ := content_append_inj kind same
    obtain ⟨rfl, rest⟩ := contentOfMembers_append_inj behind
    exact ⟨rfl, rest⟩

end

end Json

end RecordCoding
