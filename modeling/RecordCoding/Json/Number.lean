import RecordCoding.Json.Failure
import RecordCoding.Json.Value

/-!
# Reading JSON numbers

A number without fraction and exponent that fits 64 bits, signed or unsigned, is read as the
integer it spells; `-0` and every other number becomes a floating point number. That number is
computed from at most as many digits as fit 64 bits and one scaling by a power of ten, so its last
bits may differ from the nearest number.
-/

namespace RecordCoding.Json

/-- A reader of the bytes of a text. -/
abbrev ByteReader := StateT (List UInt8) (Except Failure)

/-- The largest unsigned integer of 64 bits. -/
def maxUnsigned : Nat := Nat.pow 2 64 - 1

/-- The largest exponent that is read in full. -/
def maxExponentDigits : Nat := Nat.pow 2 31 - 1

/-- The decimal digit a byte stands for. -/
def digit? (byte : UInt8) : Option Nat :=
  if 48 ≤ byte && byte ≤ 57 then some (byte.toNat - 48) else none

/-- Whether the bytes go on with a digit. -/
def startsWithDigit : List UInt8 → Bool
  | byte :: _ => (digit? byte).isSome
  | [] => false

namespace ByteReader

/-- Fails at the next byte, which is not consumed. -/
def fail {α : Type} (fault : Fault) : ByteReader α :=
  fun rest => .error ⟨fault, rest.length⟩

/-- Fails after the next byte, if there is one. -/
def failAhead {α : Type} (fault : Fault) : ByteReader α :=
  fun rest => .error ⟨fault, rest.length - 1⟩

/-- The next byte as a character, not consumed. -/
def peek : ByteReader (Option Char) :=
  fun rest => .ok (rest.head?.map Char.ofUInt8, rest)

/-- Consumes a byte. -/
def skip : ByteReader Unit := fun rest => .ok ((), rest.drop 1)

/-- Consumes the next byte; fails at the end of the text. -/
def next (atEnd : Fault) : ByteReader Char
  | [] => .error ⟨atEnd, 0⟩
  | byte :: rest => .ok (Char.ofUInt8 byte, rest)

/-- Reads digits into `value` while it does not exceed `limit`, counting them. -/
def gatherDigits (limit : Nat) : Nat → Nat → List UInt8 → (Nat × Nat) × List UInt8
  | value, count, [] => ((value, count), [])
  | value, count, byte :: rest =>
    match digit? byte with
    | some digit =>
      if value * 10 + digit ≤ limit then gatherDigits limit (value * 10 + digit) (count + 1) rest
      else ((value, count), byte :: rest)
    | none => ((value, count), byte :: rest)

/-- Reads digits into a value that does not exceed a limit. -/
def digits (limit value : Nat) : ByteReader (Nat × Nat) :=
  fun rest => .ok (gatherDigits limit value 0 rest)

/-- Passes over digits and counts them. -/
def skipDigits : ByteReader Nat :=
  fun rest => .ok ((rest.takeWhile (digit? · |>.isSome)).length,
    rest.dropWhile (digit? · |>.isSome))

/-- Whether a digit follows. -/
def atDigit : ByteReader Bool := fun rest => .ok (startsWithDigit rest, rest)

end ByteReader

/-- A floating point number times a power of ten; nothing when it would be infinite. Small powers
are divided by in steps. -/
def scaleByTen (x : Binary64) (exponent : Int) : Option Binary64 :=
  if exponent < -308 then
    if x.isZero then some x else scaleByTen (x.div (.ofNat (Nat.pow 10 308))) (exponent + 308)
  else if exponent < 0 then some (x.div (.ofNat (Nat.pow 10 exponent.natAbs)))
  else if 308 < exponent then if x.isZero then some x else none
  else
    let scaled := x.mul (.ofNat (Nat.pow 10 exponent.natAbs))
    if scaled.isFinite then some scaled else none
termination_by exponent.natAbs
decreasing_by omega

namespace ByteReader

/-- The floating point number with the given sign, digits and exponent. -/
def float (negative : Bool) (significand : Nat) (exponent : Int) : ByteReader JsonNumber :=
  match scaleByTen (.ofNat significand) exponent with
  | some x => pure (.float (if negative then x.neg else x))
  | none => fail .numberOutOfRange

/-- The exponent of a number, after its mark. -/
def exponent (negative : Bool) (significand : Nat) (start : Int) : ByteReader JsonNumber := do
  let sign ← peek
  if sign = some '+' || sign = some '-' then skip
  let first ← next .endInValue
  if !first.isDigit then fail .invalidNumber
  let (size, _) ← digits maxExponentDigits (first.toNat - 48)
  if ← atDigit then
    skip
    if significand ≠ 0 && sign ≠ some '-' then fail .numberOutOfRange
    let _ ← skipDigits
    pure (.float (.zero negative))
  else float negative significand (if sign = some '-' then start - size else start + size)

/-- What may follow the digits of a floating point number: an exponent or nothing. -/
def afterDigits (negative : Bool) (significand : Nat) (start : Int) : ByteReader JsonNumber := do
  match ← peek with
  | some 'e' | some 'E' => skip; exponent negative significand start
  | _ => float negative significand start

/-- The fraction of a number, after its point. -/
def fraction (negative : Bool) (significand : Nat) (start : Int) : ByteReader JsonNumber := do
  let (significand, count) ← digits maxUnsigned significand
  if ← atDigit then
    let _ ← skipDigits
  else if count = 0 then
    failAhead (if (← peek).isSome then .invalidNumber else .endInValue)
  afterDigits negative significand (start - count)

/-- The rest of a number, after its leading digits. -/
def afterInteger (negative : Bool) (significand : Nat) : ByteReader JsonNumber := do
  if ← atDigit then
    let extra ← skipDigits
    match ← peek with
    | some '.' => skip; fraction negative significand extra
    | _ => afterDigits negative significand extra
  else match ← peek with
    | some '.' => skip; fraction negative significand 0
    | some 'e' | some 'E' => skip; exponent negative significand 0
    | _ =>
      pure <|
        if !negative then .integer significand
        else if significand = 0 || Nat.pow 2 63 < significand then
          .float (Binary64.ofNat significand).neg
        else .integer (-significand)

/-- A number, after its sign. -/
def unsignedNumber (negative : Bool) : ByteReader JsonNumber := do
  let first ← next .endInValue
  if first = '0' then
    if ← atDigit then failAhead .invalidNumber
    afterInteger negative 0
  else if first.isDigit then
    let (significand, _) ← digits maxUnsigned (first.toNat - 48)
    afterInteger negative significand
  else fail .invalidNumber

/-- A number. -/
def number : ByteReader JsonNumber := do
  match ← peek with
  | some '-' => skip; unsignedNumber true
  | _ => unsignedNumber false

end ByteReader

end RecordCoding.Json
