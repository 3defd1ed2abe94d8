import RecordCoding.Text.Interval

/-!
# White space
-/

namespace RecordCoding.Text

/-- The Unicode property White_Space. -/
def blankTable : List (Nat × Nat) := [
  (0x9, 0xd), (0x20, 0x20), (0x85, 0x85), (0xa0, 0xa0), (0x1680, 0x1680), (0x2000, 0x200a),
  (0x2028, 0x2029), (0x202f, 0x202f), (0x205f, 0x205f), (0x3000, 0x3000)]

/-- A blank character. -/
def isBlank (c : Char) : Bool :=
  covers blankTable c.toNat

end RecordCoding.Text
