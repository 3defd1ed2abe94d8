import RecordCoding.Binary64.Shortest

/-!
# The text of numbers

A number is written with its shortest decimal. A layout says for which positions of the decimal
point the digits are written in place; elsewhere an exponent is used. A whole number keeps a
fraction of `.0`.
-/

namespace RecordCoding.Binary64

/-- How numbers are laid out. -/
structure Layout where
  /-- Whether digits with the point after the given number of them are written in place. -/
  isPositional : Int → Bool

/-- Up to sixteen digits before the point and four zeros after it. -/
def Layout.compact : Layout := ⟨fun point => -5 < point && point ≤ 16⟩

/-- Never an exponent. -/
def Layout.positional : Layout := ⟨fun _ => true⟩

/-- The decimal digits of a number. -/
def decimalDigits (n : Nat) : List Char := Nat.toDigits 10 n

/-- Digits with the point after `point` of them, filled up with zeros. -/
def placeDigits (digits : List Char) (point : Int) : List Char :=
  match point with
  | .ofNat n =>
    if n = 0 then '0' :: '.' :: digits
    else if digits.length ≤ n then
      digits ++ List.replicate (n - digits.length) '0' ++ ['.', '0']
    else digits.take n ++ '.' :: digits.drop n
  | .negSucc n => '0' :: '.' :: List.replicate (n + 1) '0' ++ digits

/-- Digits with an exponent, the point after the first digit. -/
def scientificDigits (digits : List Char) (point : Int) : List Char :=
  let exponent := point - 1
  let fraction := match digits.drop 1 with
    | [] => []
    | rest => '.' :: rest
  digits.take 1 ++ fraction ++ 'e' :: (if exponent < 0 then '-' else '+') ::
    decimalDigits exponent.natAbs

/-- A decimal in a layout. -/
def Layout.write (layout : Layout) (decimal : Decimal) : List Char :=
  let digits := decimalDigits decimal.digits
  let point := digits.length + decimal.exponent
  if layout.isPositional point then placeDigits digits point else scientificDigits digits point

/-- A number in a layout. -/
def text (layout : Layout) : Binary64 → String
  | finite negative significand exponent =>
    let magnitude :=
      if significand = 0 then ['0', '.', '0'] else layout.write (shortest significand exponent)
    String.ofList (if negative then '-' :: magnitude else magnitude)
  | infinite negative => if negative then "-inf" else "inf"
  | nan => "NaN"

/-- The number nearest to a decimal. -/
def ofDecimal (negative : Bool) (decimal : Decimal) : Binary64 :=
  ofRatio negative (decimal.digits * Nat.pow 10 decimal.exponent.toNat)
    (Nat.pow 10 (-decimal.exponent).toNat)

/-- The decimal written without a sign: digits, perhaps with a point among them, and perhaps an
exponent. -/
def decimalOfChars? (chars : List Char) : Option Decimal := do
  let isMark (c : Char) := c == 'e' || c == 'E'
  let mantissa := chars.takeWhile (!isMark ·)
  let whole := mantissa.takeWhile (· != '.')
  let fraction := (mantissa.dropWhile (· != '.')).drop 1
  let digits := whole ++ fraction
  guard (!digits.isEmpty && digits.all Char.isDigit)
  let value := digits.foldl (fun n c => n * 10 + (c.toNat - '0'.toNat)) 0
  let exponent ← match chars.dropWhile (!isMark ·) with
    | [] => some 0
    | _ :: '+' :: rest => (String.ofList rest).toNat?.map Int.ofNat
    | _ :: rest => (String.ofList rest).toInt?
  some ⟨value, exponent - fraction.length⟩

/-- The number a text stands for: a decimal, or a word for infinity or for no number. -/
def ofText? (text : String) : Option Binary64 :=
  let (negative, chars) := match text.toList with
    | '-' :: rest => (true, rest)
    | '+' :: rest => (false, rest)
    | chars => (false, chars)
  match (String.ofList chars).map Char.toLower with
  | "inf" | "infinity" => some (infinite negative)
  | "nan" => some nan
  | _ => (decimalOfChars? chars).map (ofDecimal negative)

end RecordCoding.Binary64
