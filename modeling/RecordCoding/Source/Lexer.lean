import RecordCoding.Source.Token
import RecordCoding.Text.Blank
import RecordCoding.Text.IdentifierChars
import RecordCoding.Text.Quoted

/-!
# Lexing source text

Characters are grouped into token trees. Blanks and ordinary comments vanish, documentation
comments become attributes, delimiters have to match. A text that cannot be lexed has no tokens at
all; no further reason is given.

Each reader of one kind of lexeme answers with the characters that are left behind it.
-/

namespace RecordCoding.Source.Lexer

/-- A reader of one lexeme. -/
abbrev Reader := List Char → Option (List Char)

/-- What is left behind the given characters, if they come first. -/
def behind (chars : String) (input : List Char) : Option (List Char) :=
  if chars.toList.isPrefixOf input then some (input.drop chars.length) else none

/-- Whether the given characters come first. -/
def startsWith (chars : String) (input : List Char) : Bool := chars.toList.isPrefixOf input

/-- The characters in front of a rest of the input. -/
def consumed (input rest : List Char) : List Char := input.take (input.length - rest.length)

/-! ## Blanks and comments -/

/-- Blanks, to which the invisible marks of writing direction belong. -/
def isBlank (c : Char) : Bool := Text.isBlank c || c == '\u200e' || c == '\u200f'

/-- What is left from the end of the line on, with the characters of the line. A line break may be
two characters. -/
def splitLine : List Char → List Char × List Char
  | [] => ([], [])
  | '\n' :: rest => ([], '\n' :: rest)
  | '\r' :: '\n' :: rest => ([], '\n' :: rest)
  | c :: rest => (c :: (splitLine rest).1, (splitLine rest).2)

/-- What is left behind a block comment. The depth counts the comments that are open. -/
def blockEnd : Nat → Reader
  | _, [] => none
  | depth, '/' :: '*' :: rest => blockEnd (depth + 1) rest
  | 0, '*' :: '/' :: _ => none
  | 1, '*' :: '/' :: rest => some rest
  | depth + 2, '*' :: '/' :: rest => blockEnd (depth + 1) rest
  | depth, _ :: rest => blockEnd depth rest

/-- What is left behind a comment that vanishes, if one comes first. -/
def comment? (input : List Char) : Option (List Char) :=
  match input with
  | '/' :: '/' :: rest =>
    if (startsWith "/" rest && !startsWith "//" rest) || startsWith "!" rest then none
    else some (splitLine rest).2
  | '/' :: '*' :: '*' :: '/' :: rest => some rest
  | '/' :: '*' :: rest =>
    if (startsWith "*" rest && !startsWith "**" rest) || startsWith "!" rest then none
    else blockEnd 0 input
  | _ => none

/-- Passes over blanks and vanishing comments. -/
def skipBlanks : Nat → List Char → List Char
  | 0, input => input
  | bound + 1, input =>
    match comment? input with
    | some rest => skipBlanks bound rest
    | none =>
      match input with
      | c :: rest => if isBlank c then skipBlanks bound rest else input
      | [] => []

/-- Whether every carriage return is part of a line break. -/
def linesAreClean : List Char → Bool
  | [] => true
  | '\r' :: '\n' :: rest => linesAreClean rest
  | '\r' :: _ => false
  | _ :: rest => linesAreClean rest

/-- The text of a block comment that begins with three marks. -/
def blockText (input : List Char) : Option (List Char × List Char) :=
  (blockEnd 0 input).map fun rest =>
    (((consumed input rest).drop 3).dropLast.dropLast, rest)

/-- The content of a documentation comment, whether it belongs to what surrounds it, and what is
left. -/
def documentation? (input : List Char) : Option (List Char × Bool × List Char) :=
  match input with
  | '/' :: '/' :: '!' :: rest => some ((splitLine rest).1, true, (splitLine rest).2)
  | '/' :: '*' :: '!' :: _ => (blockText input).map fun (body, rest) => (body, true, rest)
  | '/' :: '/' :: '/' :: rest =>
    if startsWith "/" rest then none else some ((splitLine rest).1, false, (splitLine rest).2)
  | '/' :: '*' :: '*' :: rest =>
    if startsWith "*" rest then none
    else (blockText input).map fun (body, rest) => (body, false, rest)
  | _ => none

/-- The attribute a documentation comment stands for. -/
def documentationTokens (body : List Char) (isInner : Bool) : List Token :=
  .punct '#' false :: (if isInner then [.punct '!' false] else []) ++
    [.group .bracket
      [.ident "doc", .punct '=' false, .literal (Text.quoteLiteral (String.ofList body))]]

/-! ## Words -/

/-- A plain identifier. -/
def word : Reader
  | c :: rest =>
    if Text.isIdentifierStart c then some (rest.dropWhile Text.isIdentifierContinue) else none
  | [] => none

/-- Passes over an identifier, if one follows. -/
def optionalWord (input : List Char) : List Char := (word input).getD input

/-- An identifier, plain or raw. -/
def identifier (input : List Char) : Option (List Char) :=
  match input with
  | 'r' :: '#' :: rest =>
    (word rest).bind fun after =>
      if neverRawWords.contains (String.ofList (consumed rest after)) then none else some after
  | _ => word input

/-- The beginnings of text literals, which no identifier may look like. -/
def literalOpenings : List String :=
  ["r\"", "r#\"", "r##", "b\"", "b'", "br\"", "br#", "c\"", "cr\"", "cr#"]

/-- An identifier that is not the beginning of a literal. -/
def identifierToken (input : List Char) : Option (List Char) :=
  if literalOpenings.any (startsWith · input) then none else identifier input

/-! ## Text literals -/

/-- The value of a hexadecimal digit. -/
def hexValue? (c : Char) : Option Nat :=
  if c.isDigit then some (c.toNat - '0'.toNat)
  else if 'a' ≤ c && c ≤ 'f' then some (c.toNat - 'a'.toNat + 10)
  else if 'A' ≤ c && c ≤ 'F' then some (c.toNat - 'A'.toNat + 10)
  else none

/-- What the letters of a literal stand for. -/
inductive Letters where
  /-- Characters. -/
  | unicode
  /-- Bytes. -/
  | bytes
  /-- Characters other than the null character. -/
  | terminated
  deriving Repr, DecidableEq

/-- Whether a character may stand for itself in a literal. -/
def Letters.admits : Letters → Char → Bool
  | unicode, _ => true
  | bytes, c => c.toNat < 128
  | terminated, c => c != '\x00'

/-- The digits of a code point, up to the closing brace. -/
def codePointDigits : Nat → Nat → List Char → Option (Char × List Char)
  | count, value, c :: rest =>
    if c = '_' && 0 < count then codePointDigits count value rest
    else if c = '\x7d' && 0 < count then
      if value.isValidChar then some (Char.ofNat value, rest) else none
    else
      match hexValue? c with
      | some digit =>
        if count = 6 then none else codePointDigits (count + 1) (value * 16 + digit) rest
      | none => none
  | _, _, [] => none

/-- The character escaped behind a backslash, except for a line break. -/
def escape (letters : Letters) : List Char → Option (Char × List Char)
  | 'n' :: rest => some ('\n', rest)
  | 'r' :: rest => some ('\r', rest)
  | 't' :: rest => some ('\t', rest)
  | '\\' :: rest => some ('\\', rest)
  | '\'' :: rest => some ('\'', rest)
  | '"' :: rest => some ('"', rest)
  | '0' :: rest => if letters = .terminated then none else some ('\x00', rest)
  | 'x' :: first :: second :: rest =>
    match hexValue? first, hexValue? second with
    | some high, some low =>
      let value := high * 16 + low
      if (letters = .unicode && 128 ≤ value) || (letters = .terminated && value = 0) then none
      else some (Char.ofNat value, rest)
    | _, _ => none
  | 'u' :: '\x7b' :: rest =>
    if letters = .bytes then none
    else (codePointDigits 0 0 rest).bind fun (c, rest) =>
      if letters.admits c then some (c, rest) else none
  | _ => none

/-- The blanks that a line break behind a backslash swallows, up to the next character. A carriage
return has to belong to a line break. -/
def joinLines : List Char → Option (List Char)
  | '\r' :: '\n' :: rest => joinLines rest
  | '\r' :: _ => none
  | ' ' :: rest | '\t' :: rest | '\n' :: rest => joinLines rest
  | [] => none
  | rest => some rest

/-- What is left behind a text in quotes, after its opening quote. -/
def quotedEnd (letters : Letters) : Nat → Reader
  | 0, _ => none
  | bound + 1, input =>
    match input with
    | [] => none
    | '"' :: rest => some (optionalWord rest)
    | '\r' :: '\n' :: rest => quotedEnd letters bound rest
    | '\r' :: _ => none
    | '\\' :: rest =>
      if startsWith "\n" rest || startsWith "\r" rest then
        (joinLines rest).bind (quotedEnd letters bound)
      else (escape letters rest).bind fun (_, rest) => quotedEnd letters bound rest
    | c :: rest => if letters.admits c then quotedEnd letters bound rest else none

/-- What is left behind a text that nothing is escaped in, after its opening quote. -/
def rawEnd (letters : Letters) (marks : List Char) : Reader
  | [] => none
  | '\r' :: '\n' :: rest => rawEnd letters marks rest
  | '\r' :: _ => none
  | c :: rest =>
    if c = '"' && marks.isPrefixOf rest then some (optionalWord (rest.drop marks.length))
    else if letters.admits c then rawEnd letters marks rest
    else none

/-- A text that nothing is escaped in, with the marks around its quotes. -/
def rawText (letters : Letters) (input : List Char) : Option (List Char) :=
  let marks := input.takeWhile (· == '#')
  if 255 < marks.length then none
  else (behind "\"" (input.drop marks.length)).bind (rawEnd letters marks)

/-- A text literal of one kind, by the characters in front of its quotes. -/
def textLiteral (opening : String) (letters : Letters) (bound : Nat) (input : List Char) :
    Option (List Char) :=
  ((behind (opening ++ "\"") input).bind (quotedEnd letters bound)).or
    ((behind (opening ++ "r") input).bind (rawText letters))

/-- A character or byte between single quotes, after the opening one. -/
def quotedChar (letters : Letters) (input : List Char) : Option (List Char) :=
  let after : Option (List Char) :=
    match input with
    | '\\' :: rest => (escape letters rest).map Prod.snd
    | c :: rest => if letters.admits c then some rest else none
    | [] => none
  (after.bind (behind "'")).map optionalWord

/-! ## Numbers -/

/-- The end of a number has to be the end of the word. -/
def endOfWord (rest : List Char) : Option (List Char) :=
  match rest with
  | c :: _ => if Text.isIdentifierContinue c then none else some rest
  | [] => some rest

/-- A decimal digit or the separator of digits. -/
def isDecimalChar (c : Char) : Bool := c.isDigit || c == '_'

/-- What is left behind an exponent, after its letter; none where there is no digit in it. -/
def exponentEnd (input : List Char) : Option (List Char) :=
  let digits := input.dropWhile (· == '_')
  let unsigned := match digits with
    | '+' :: rest | '-' :: rest => rest
    | _ => digits
  let unpadded := unsigned.dropWhile (· == '_')
  match unpadded with
  | c :: _ => if c.isDigit then some (unpadded.dropWhile isDecimalChar) else none
  | [] => none

/-- What is left behind the digits of a number with a fraction or an exponent. -/
def fractionalDigits (input : List Char) : Option (List Char) :=
  match input with
  | c :: _ =>
    if c.isDigit then
      match input.dropWhile isDecimalChar with
      | '.' :: rest =>
        if (rest.head?.map fun c => c == '.' || Text.isIdentifierStart c).getD false then
          none
        else
          match rest.dropWhile isDecimalChar with
          | 'e' :: after => some ((exponentEnd after).getD ('e' :: after))
          | 'E' :: after => some ((exponentEnd after).getD ('E' :: after))
          | after => some after
      | 'e' :: after | 'E' :: after => exponentEnd after
      | _ => none
    else none
  | [] => none

/-- What is left behind the digits of an integer of a base; the digits of a larger base have no
place in it. -/
def digitsOfBase (base : Nat) (input : List Char) : Option (List Char) :=
  let isDigit (c : Char) := c == '_' || (hexValue? c).any (· < base)
  let digits := input.takeWhile isDigit
  let rest := input.dropWhile isDigit
  if digits.all (· == '_') || (rest.head?.map Char.isDigit).getD false then none else some rest

/-- What is left behind the digits of an integer. -/
def wholeDigits (input : List Char) : Option (List Char) :=
  match input with
  | '0' :: 'x' :: rest => digitsOfBase 16 rest
  | '0' :: 'o' :: rest => digitsOfBase 8 rest
  | '0' :: 'b' :: rest => digitsOfBase 2 rest
  | '_' :: _ => none
  | _ => digitsOfBase 10 input

/-- A number of either kind, which may carry a suffix. -/
def number (input : List Char) : Option (List Char) :=
  let complete (digits : List Char → Option (List Char)) :=
    (digits input).bind fun rest => endOfWord (optionalWord rest)
  (complete fractionalDigits).or (complete wholeDigits)

/-- A literal of any kind. -/
def literal (bound : Nat) (input : List Char) : Option (List Char) :=
  (textLiteral "" .unicode bound input)
    |>.or (textLiteral "b" .bytes bound input)
    |>.or (textLiteral "c" .terminated bound input)
    |>.or ((behind "b'" input).bind (quotedChar .bytes))
    |>.or ((behind "'" input).bind (quotedChar .unicode))
    |>.or (number input)

/-! ## Punctuation -/

/-- The punctuation characters. -/
def punctuation : List Char := "~!@#$%^&*-=+|;:,<.>/?'".toList

/-- The punctuation character that comes first, unless a comment begins there. -/
def punctuationChar? (input : List Char) : Option Char :=
  if startsWith "//" input || startsWith "/*" input then none
  else input.head?.filter punctuation.contains

/-- The punctuation token that comes first. The quote of a lifetime is joined to its name; any
other character is joined to a punctuation character behind it. -/
def punctuationToken? (input : List Char) : Option (Token × List Char) :=
  (punctuationChar? input).bind fun c =>
    let rest := input.drop 1
    if c = '\'' then
      (identifier rest).bind fun after =>
        if startsWith "'" after || (startsWith "#" after && !startsWith "r#" rest) then none
        else some (.punct c true, rest)
    else some (.punct c (punctuationChar? rest).isSome, rest)

/-! ## Token trees -/

/-- The text that stands for a literal nobody can read. -/
def unreadable : String := "(/*ERROR*/)"

/-- The token that comes first, unless it is a group. -/
def leaf? (bound : Nat) (input : List Char) : Option (Token × List Char) :=
  match literal bound input with
  | some rest => some (.literal (String.ofList (consumed input rest)), rest)
  | none =>
    match punctuationToken? input with
    | some found => some found
    | none =>
      match identifierToken input with
      | some rest => some (.ident (String.ofList (consumed input rest)), rest)
      | none => (behind unreadable input).map fun rest => (.literal unreadable, rest)

/-- A group that is not closed yet, and the tokens in front of it, the last first. -/
structure OpenGroup where
  delimiter : Delimiter
  before : List Token

/-- Reads on with the tokens of the innermost open group, the last first, and the groups around
it, the innermost first. -/
def readFrom : Nat → List Char → List Token → List OpenGroup → Option (List Token)
  | 0, _, _, _ => none
  | bound + 1, input, tokens, groups =>
    let input := skipBlanks bound input
    let comment := (documentation? input).filter fun (body, _, _) => linesAreClean body
    match comment with
    | some (body, isInner, rest) =>
      readFrom bound rest ((documentationTokens body isInner).reverse ++ tokens) groups
    | none =>
      match input with
      | [] => if groups.isEmpty then some tokens.reverse else none
      | c :: rest =>
        match (Delimiter.ofOpening? c).filter fun _ => !startsWith unreadable input with
        | some delimiter => readFrom bound rest [] (⟨delimiter, tokens⟩ :: groups)
        | none =>
          match Delimiter.ofClosing? c, groups with
          | some delimiter, inner :: outer =>
            if delimiter = inner.delimiter then
              readFrom bound rest (.group delimiter tokens.reverse :: inner.before) outer
            else none
          | some _, [] => none
          | none, _ =>
            (leaf? bound input).bind fun (token, rest) =>
              readFrom bound rest (token :: tokens) groups

/-- Source text without the mark of its byte order. -/
def withoutMark : List Char → List Char
  | '\ufeff' :: rest => rest
  | input => input

end RecordCoding.Source.Lexer

namespace RecordCoding.Source

/-- The tokens of a source text, unless it cannot be lexed. -/
def tokenize? (text : String) : Option (List Token) :=
  let input := Lexer.withoutMark text.toList
  Lexer.readFrom (input.length + 2) input [] []

end RecordCoding.Source
