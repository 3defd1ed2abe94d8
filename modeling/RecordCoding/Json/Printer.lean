import RecordCoding.Binary64.Layout
import RecordCoding.Json.Value
import RecordCoding.Text.Quoted

/-!
# JSON text

Values are written either without any blank or with one element or member a line, indented by two
blanks a level. Only quotes, backslashes and control characters are escaped in strings.
-/

namespace RecordCoding.Json

/-- A character of a string. -/
def escapeChar (c : Char) : List Char :=
  match c with
  | '"' => ['\\', '"']
  | '\\' => ['\\', '\\']
  | '\x08' => ['\\', 'b']
  | '\x0c' => ['\\', 'f']
  | '\n' => ['\\', 'n']
  | '\r' => ['\\', 'r']
  | '\t' => ['\\', 't']
  | c =>
    if c.toNat < 0x20 then
      ['\\', 'u', '0', '0', Text.hexDigit (c.toNat / 16), Text.hexDigit (c.toNat % 16)]
    else [c]

/-- A string between quotes. -/
def stringChars (text : String) : List Char :=
  '"' :: text.toList.flatMap escapeChar ++ ['"']

/-- A number. Numbers that are not finite have no form and are written as null. -/
def numberChars : JsonNumber → List Char
  | .integer value => (toString value).toList
  | .float value => if value.isFinite then (value.text .compact).toList else "null".toList

/-- What a truth value is called. -/
def booleanText (value : Bool) : String := if value then "true" else "false"

mutual

/-- A value without blanks. -/
def compactChars : Json → List Char
  | null => "null".toList
  | boolean value => (booleanText value).toList
  | number value => numberChars value
  | text value => stringChars value
  | array elements => '[' :: compactElements elements ++ [']']
  | object members => '\x7b' :: compactMembers members ++ ['\x7d']

/-- Elements with commas between them. -/
def compactElements : List Json → List Char
  | [] => []
  | [value] => compactChars value
  | value :: rest => compactChars value ++ ',' :: compactElements rest

/-- Members with commas between them. -/
def compactMembers : List (String × Json) → List Char
  | [] => []
  | [(name, value)] => stringChars name ++ ':' :: compactChars value
  | (name, value) :: rest =>
    stringChars name ++ ':' :: compactChars value ++ ',' :: compactMembers rest

end

/-- The begin of a line at a level. -/
def newLine (level : Nat) : List Char := '\n' :: List.replicate (2 * level) ' '

mutual

/-- A value with line breaks, at a level. -/
def prettyChars (level : Nat) : Json → List Char
  | array [] => ['[', ']']
  | array elements =>
    '[' :: newLine (level + 1) ++ prettyElements level elements ++ newLine level ++ [']']
  | object [] => ['\x7b', '\x7d']
  | object members =>
    '\x7b' :: newLine (level + 1) ++ prettyMembers level members ++ newLine level ++ ['\x7d']
  | null => "null".toList
  | boolean value => (booleanText value).toList
  | number value => numberChars value
  | text value => stringChars value

/-- Elements on lines of their own. -/
def prettyElements (level : Nat) : List Json → List Char
  | [] => []
  | [value] => prettyChars (level + 1) value
  | value :: rest =>
    prettyChars (level + 1) value ++ ',' :: newLine (level + 1) ++ prettyElements level rest

/-- Members on lines of their own. -/
def prettyMembers (level : Nat) : List (String × Json) → List Char
  | [] => []
  | [(name, value)] => stringChars name ++ ':' :: ' ' :: prettyChars (level + 1) value
  | (name, value) :: rest =>
    stringChars name ++ ':' :: ' ' :: prettyChars (level + 1) value ++
      ',' :: newLine (level + 1) ++ prettyMembers level rest

end

/-- A value on one line. -/
def compact (value : Json) : String := String.ofList (compactChars value)

/-- A value on several lines. -/
def pretty (value : Json) : String := String.ofList (prettyChars 0 value)

/-- A character without an escape stands for itself. -/
theorem escapeChar_of_plain {c : Char} (printable : 0x20 ≤ c.toNat) (quote : c ≠ '"')
    (backslash : c ≠ '\\') : escapeChar c = [c] := by
  have apart : ∀ d : Char, d.toNat < 0x20 → c ≠ d := fun d small same => by subst same; omega
  have control : ¬c.toNat < 0x20 := Nat.not_lt.mpr printable
  unfold escapeChar
  split <;> simp_all

end RecordCoding.Json
