import RecordCoding.Text.Visible

/-!
# Quoted text

Text between double quotes, with escapes for quotes, backslashes, line breaks and every
character that would not stand on its own. Two forms are in use: one for messages and one for
string literals in generated code, which differ only in how a null character is written.
-/

namespace RecordCoding.Text

/-- The hexadecimal digit of a value below sixteen, in lowercase. -/
def hexDigit (n : Nat) : Char :=
  if n < 10 then Char.ofNat (n + '0'.toNat) else Char.ofNat (n - 10 + 'a'.toNat)

/-- The hexadecimal digits of a number, most significant first; at least one. -/
def hexDigits (n : Nat) : List Char := (Nat.toDigits 16 n).map Char.toLower

/-- A character by its code point. -/
def escapeCodePoint (c : Char) : List Char :=
  '\\' :: 'u' :: '\x7b' :: hexDigits c.toNat ++ ['\x7d']

/-- A character as it stands between double quotes in a message. -/
def escapeChar (c : Char) : List Char :=
  match c with
  | '\x00' => ['\\', '0']
  | '\t' => ['\\', 't']
  | '\r' => ['\\', 'r']
  | '\n' => ['\\', 'n']
  | '\\' => ['\\', '\\']
  | '"' => ['\\', '"']
  | c => if extendsGrapheme c || !isVisible c then escapeCodePoint c else [c]

/-- Text between quotes, for messages. -/
def quote (text : String) : String :=
  String.ofList ('"' :: text.toList.flatMap escapeChar ++ ['"'])

/-- Whether a text goes on with an octal digit. -/
def startsWithOctalDigit : List Char → Bool
  | c :: _ => '0' ≤ c && c ≤ '7'
  | [] => false

/-- The characters of a string literal. A null character before an octal digit is written in
hexadecimal, so that the digit is not taken for part of the escape. -/
def literalChars : List Char → List Char
  | [] => []
  | c :: rest =>
    (if c = '\x00' && startsWithOctalDigit rest then ['\\', 'x', '0', '0'] else escapeChar c) ++
      literalChars rest

/-- Text as a string literal of generated code. -/
def quoteLiteral (text : String) : String :=
  String.ofList ('"' :: literalChars text.toList ++ ['"'])

end RecordCoding.Text
