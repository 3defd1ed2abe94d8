import RecordCoding.Binary64

/-!
# Shortest decimals

The decimal with the fewest digits among those that round to a given number, and the nearest of
these. Coarser grids of decimals are tried first; a grid is hit when one of the two neighbours of
the number on it lies in the interval of reals that round to the number.
-/

namespace RecordCoding

/-- The decimal number `digits · 10 ^ exponent`. -/
structure Decimal where
  digits : Nat
  exponent : Int
  deriving Repr, DecidableEq

namespace Binary64

/-- The reals that round to a number, in units of a common denominator. The ends belong to it
when the significand is even. -/
structure RoundingInterval where
  low : Nat
  value : Nat
  high : Nat
  den : Nat
  closed : Bool
  deriving Repr, DecidableEq

/-- The interval around `significand · 2 ^ exponent`. Below a power of two the neighbours lie
twice as close. -/
def roundingInterval (significand : Nat) (exponent : Int) : RoundingInterval :=
  let atPower := significand = Nat.pow 2 (precision - 1) && minExponent < exponent
  let quarter (m : Nat) : Nat := (scaleRatio m 1 (exponent - 2)).1
  { low := quarter (4 * significand - if atPower then 1 else 2)
    value := quarter (4 * significand)
    high := quarter (4 * significand + 2)
    den := (scaleRatio 1 1 (exponent - 2)).2
    closed := significand % 2 == 0 }

namespace RoundingInterval

/-- Whether the real `num / (den · scale)` lies in the interval. -/
def contains (interval : RoundingInterval) (num scale : Nat) : Bool :=
  let low := interval.low * scale
  let high := interval.high * scale
  if interval.closed then low ≤ num && num ≤ high else low < num && num < high

/-- The best decimal on the grid of multiples of `10 ^ exponent`, if one lies in the interval. -/
def hit? (interval : RoundingInterval) (exponent : Int) : Option Nat :=
  let step := Nat.pow 10 exponent.toNat * interval.den
  let scale := Nat.pow 10 (-exponent).toNat
  let value := interval.value * scale
  let below := value / step
  let above := below + 1
  let excess := value - below * step
  let shortfall := above * step - value
  match interval.contains (below * step) scale, interval.contains (above * step) scale with
  | true, true =>
    some (if excess < shortfall || (excess == shortfall && below % 2 == 0) then below else above)
  | true, false => some below
  | false, true => some above
  | false, false => none

/-- The first hit on the grids of exponent `exponent`, `exponent - 1`, … -/
def search (interval : RoundingInterval) : Nat → Int → Option Decimal
  | 0, _ => none
  | grids + 1, exponent =>
    match interval.hit? exponent with
    | some digits => some ⟨digits, exponent⟩
    | none => interval.search grids (exponent - 1)

end RoundingInterval

/-- A decimal exponent that no number of the given binary magnitude exceeds. -/
def coarsestExponent (significand : Nat) (exponent : Int) : Int :=
  ((Nat.log2 significand : Int) + exponent + 1) * 30103 / 100000 + 1

/-- The number of grids that are tried; seventeen digits always suffice. -/
def gridCount : Nat := 24

/-- The shortest decimal for a positive number. -/
def shortest (significand : Nat) (exponent : Int) : Decimal :=
  ((roundingInterval significand exponent).search gridCount
    (coarsestExponent significand exponent)).getD ⟨0, 0⟩

end Binary64

end RecordCoding
