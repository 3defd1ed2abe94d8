/-!
# Sets of code points

Unicode properties are kept as ascending lists of intervals. `covers` reads such a list and
stops at the first interval beyond the code point; a `Stride` also describes the letter blocks
where every second code point has the property.
-/

namespace RecordCoding.Text

/-- Membership in an ascending list of closed intervals. -/
def covers : List (Nat × Nat) → Nat → Bool
  | [], _ => false
  | (first, last) :: rest, n => if n < first then false else n ≤ last || covers rest n

/-- The code points `first`, `first + step`, … up to `last`. -/
structure Stride where
  first : Nat
  last : Nat
  step : Nat
  deriving Repr, DecidableEq

/-- Membership in one stride. -/
def Stride.contains (s : Stride) (n : Nat) : Bool :=
  s.first ≤ n && n ≤ s.last && (n - s.first) % s.step == 0

/-- A point of the first interval is covered. -/
theorem covers_head {first last n : Nat} {rest : List (Nat × Nat)} (lo : first ≤ n)
    (hi : n ≤ last) : covers ((first, last) :: rest) n = true := by
  simp [covers, Nat.not_lt.mpr lo, hi]

end RecordCoding.Text
