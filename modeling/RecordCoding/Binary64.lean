/-!
# Binary64 numbers

Floating point numbers of 53 significant bits, given by sign, significand and binary exponent.
All operations compute the exact rational result and round it once, to the nearest number and to
the even significand where two are equally near.
-/

namespace RecordCoding

/-- A floating point number. A finite one has the value `± significand · 2 ^ exponent`. -/
inductive Binary64 where
  | finite (negative : Bool) (significand : Nat) (exponent : Int)
  | infinite (negative : Bool)
  | nan
  deriving Repr, DecidableEq

namespace Binary64

/-- The number of bits of a significand. -/
def precision : Nat := 53

/-- The exponent of the smallest numbers. -/
def minExponent : Int := -1074

/-- The exponent of the largest numbers. -/
def maxExponent : Int := 971

/-- Zero with a sign. -/
def zero (negative : Bool) : Binary64 := .finite negative 0 minExponent

/-- The quotient rounded to the nearest integer, a half to the even one. -/
def roundDiv (num den : Nat) : Nat :=
  let quotient := num / den
  let twice := 2 * (num % den)
  if den < twice || (twice == den && quotient % 2 == 1) then quotient + 1 else quotient

/-- The numerator and denominator of `num / den · 2 ^ shift`. -/
def scaleRatio (num den : Nat) (shift : Int) : Nat × Nat :=
  match shift with
  | .ofNat n => (num * Nat.pow 2 n, den)
  | .negSucc n => (num, den * Nat.pow 2 (n + 1))

/-- The floor of the binary logarithm of a nonzero ratio. -/
def floorLog (num den : Nat) : Int :=
  let guess : Int := (Nat.log2 num : Int) - Nat.log2 den
  let (scaled, unit) := scaleRatio num den (-guess)
  if scaled < unit then guess - 1 else guess

/-- The number nearest to a ratio. -/
def ofRatio (negative : Bool) (num den : Nat) : Binary64 :=
  if num = 0 || den = 0 then zero negative
  else
    let exponent := max minExponent (floorLog num den - (precision - 1 : Nat))
    let (scaled, unit) := scaleRatio num den (-exponent)
    let significand := roundDiv scaled unit
    let (significand, exponent) :=
      if significand = Nat.pow 2 precision then (Nat.pow 2 (precision - 1), exponent + 1)
      else (significand, exponent)
    if maxExponent < exponent then .infinite negative else .finite negative significand exponent

/-- The number nearest to a natural number. -/
def ofNat (n : Nat) : Binary64 := ofRatio false n 1

/-- The number nearest to an integer. -/
def ofInt (n : Int) : Binary64 := ofRatio (n < 0) n.natAbs 1

/-- Whether a number is finite. -/
def isFinite : Binary64 → Bool
  | finite .. => true
  | _ => false

/-- Whether a number is a zero. -/
def isZero : Binary64 → Bool
  | finite _ 0 _ => true
  | _ => false

/-- The number with the opposite sign. -/
def neg : Binary64 → Binary64
  | finite negative significand exponent => finite (!negative) significand exponent
  | infinite negative => infinite (!negative)
  | nan => nan

/-- The product of finite numbers. -/
def mul : Binary64 → Binary64 → Binary64
  | finite s m e, finite t n f =>
    let (num, den) := scaleRatio (m * n) 1 (e + f)
    ofRatio (s != t) num den
  | _, _ => nan

/-- The quotient of finite numbers. -/
def div : Binary64 → Binary64 → Binary64
  | finite s m e, finite t n f =>
    let (num, den) := scaleRatio m n (e - f)
    if n = 0 then nan else ofRatio (s != t) num den
  | _, _ => nan

end Binary64

end RecordCoding
