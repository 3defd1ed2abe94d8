import RecordCoding.Source.Lexer

/-!
# Literals

What a literal token means, as far as it matters: the text of a string literal, and the index
that an integer names.
-/

namespace RecordCoding.Source.Literal

/-- The text between quotes, with every escape replaced, up to the closing quote. -/
def unescape : Nat → List Char → Option (List Char)
  | 0, _ => none
  | bound + 1, input =>
    match input with
    | [] => none
    | '"' :: _ => some []
    | '\r' :: '\n' :: rest => (unescape bound rest).map ('\n' :: ·)
    | '\\' :: '\n' :: rest => unescape bound (rest.dropWhile Text.isBlank)
    | '\\' :: '\r' :: rest => unescape bound (rest.dropWhile Text.isBlank)
    | '\\' :: rest =>
      (Lexer.escape .unicode rest).bind fun (c, rest) => (unescape bound rest).map (c :: ·)
    | c :: rest => (unescape bound rest).map (c :: ·)

/-- The text between raw quotes, up to the closing quote. -/
def unquoteRaw (marks : List Char) : List Char → Option (List Char)
  | [] => none
  | c :: rest =>
    if c = '"' && marks.isPrefixOf rest then some [] else (unquoteRaw marks rest).map (c :: ·)

/-- The text of a string literal; none for any other literal. -/
def string? (literal : String) : Option String :=
  match literal.toList with
  | '"' :: rest => (unescape literal.length rest).map String.ofList
  | 'r' :: rest =>
    let marks := rest.takeWhile (· == '#')
    (unquoteRaw marks (rest.drop (marks.length + 1))).map String.ofList
  | _ => none

/-- The two kinds of numbers. -/
inductive NumberKind where
  | integer
  | fractional
  deriving Repr, DecidableEq

/-- Whether an exponent follows the letter of one, with a suffix that is a word. -/
def hasExponent (input : List Char) : Bool :=
  let digits := input.dropWhile Lexer.isDecimalChar
  let isMarked := match digits with
    | '+' :: _ | '-' :: _ => true
    | _ => false
  isMarked || ((input.takeWhile Lexer.isDecimalChar).any Char.isDigit &&
    (digits.isEmpty || (Lexer.word digits).isSome))

/-- The kind of number a literal is; none if it is no number. -/
def numberKind? (literal : String) : Option NumberKind :=
  match literal.toList with
  | '0' :: 'x' :: _ | '0' :: 'o' :: _ | '0' :: 'b' :: _ => some .integer
  | c :: rest =>
    if c.isDigit then
      match rest.dropWhile Lexer.isDecimalChar with
      | '.' :: _ => some .fractional
      | 'e' :: after | 'E' :: after =>
        some (if hasExponent after then .fractional else .integer)
      | _ => some .integer
    else none
  | [] => none

/-- Why a text names no index. -/
inductive IndexFlaw where
  | notAnInteger
  | tooLarge
  | suffixed
  deriving Repr, DecidableEq

/-- The index that an integer literal names; it has no suffix and fits into 32 bits. -/
def index (literal : String) : Except IndexFlaw Nat :=
  if numberKind? literal = some .integer then
    let (base, digits) := match literal.toList with
      | '0' :: 'x' :: rest => (16, rest)
      | '0' :: 'o' :: rest => (8, rest)
      | '0' :: 'b' :: rest => (2, rest)
      | all => (10, all)
    let isDigit (c : Char) := c == '_' || (Lexer.hexValue? c).any (· < base)
    if digits.any (!isDigit ·) then .error .suffixed
    else
      let value := (digits.filterMap Lexer.hexValue?).foldl (fun n d => base * n + d) 0
      if value < Nat.pow 2 32 then .ok value else .error .tooLarge
  else .error .notAnInteger

end RecordCoding.Source.Literal
