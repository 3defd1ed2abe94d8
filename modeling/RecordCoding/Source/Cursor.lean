import RecordCoding.Source.Literal
import RecordCoding.Source.SyntaxError

/-!
# Reading tokens

A cursor over the tokens of a text or of one group. While it moves it writes down what it passes
over in canonical form, which may differ from the source in the order and the joining of tokens.
Readers see the tokens in front of the cursor, move it, and may refuse; the cursor then stays
where the refusal was met.
-/

namespace RecordCoding.Source

/-! ## Looking at tokens -/

namespace Ahead

/-- Whether an identifier or keyword comes first. -/
def anyWord : List Token → Bool
  | .ident _ :: _ => true
  | _ => false

/-- Whether a certain word comes first. -/
def word (expected : String) : List Token → Bool
  | .ident found :: _ => found == expected
  | _ => false

/-- Whether a name comes first. -/
def name : List Token → Bool
  | .ident found :: _ => isName found
  | _ => false

/-- Whether one of the words that begin a path without being names comes first. -/
def pathRoot (tokens : List Token) : Bool :=
  word "super" tokens || word "self" tokens || word "crate" tokens

/-- Whether a lifetime comes first. -/
def lifetime : List Token → Bool
  | .punct '\'' _ :: .ident _ :: _ => true
  | _ => false

/-- Whether certain punctuation comes first; all but the last character have to be joined. -/
def marks : List Char → List Token → Bool
  | [], _ => true
  | [c], .punct found _ :: _ => c == found
  | c :: rest, .punct found joined :: tokens => c == found && joined && marks rest tokens
  | _, _ => false

/-- Whether certain punctuation comes first. -/
def mark (expected : String) (tokens : List Token) : Bool := marks expected.toList tokens

/-- Whether a group of a kind comes first. -/
def group (delimiter : Delimiter) : List Token → Bool
  | .group found _ :: _ => found == delimiter
  | _ => false

/-- Whether a group of any kind comes first. -/
def anyGroup : List Token → Bool
  | .group .. :: _ => true
  | _ => false

/-- Whether a literal comes first, a truth value or a negative number included. -/
def literal : List Token → Bool
  | .literal _ :: _ => true
  | .ident found :: _ => found == "true" || found == "false"
  | .punct '-' _ :: .literal text :: _ => (Literal.numberKind? text).isSome
  | _ => false

/-- Whether a string literal comes first. -/
def stringLiteral : List Token → Bool
  | .literal text :: _ => (Literal.string? text).isSome
  | _ => false

/-- The tokens behind the first one; a lifetime counts as one. -/
def next : List Token → List Token
  | .punct '\'' true :: .ident _ :: rest => rest
  | _ :: rest => rest
  | [] => []

end Ahead

/-! ## The cursor -/

/-- A place in a list of tokens. -/
structure Cursor where
  /-- What is in front. -/
  rest : List Token
  /-- What was passed over, in canonical form, the last token first. -/
  written : List Token
  /-- The first group that was left before its end. -/
  leftover : Option Delimiter
  deriving Repr, Inhabited

/-- A reader of tokens. -/
abbrev Parser := ExceptT SyntaxError (StateM Cursor)

namespace Parser

/-- Runs a reader from a cursor. -/
def start {α : Type} (p : Parser α) (cursor : Cursor) : Except SyntaxError α × Cursor :=
  Id.run ((ExceptT.run p).run cursor)

/-- A reader by its effect on the cursor. -/
def ofStep {α : Type} (step : Cursor → Except SyntaxError α × Cursor) : Parser α :=
  ExceptT.mk fun cursor => pure (step cursor)

/-- The tokens in front. -/
def ahead : Parser (List Token) := return (← get).rest

/-- Whether a test of the tokens in front succeeds. -/
def sees (test : List Token → Bool) : Parser Bool := return test (← ahead)

/-- Whether nothing is in front. -/
def atEnd : Parser Bool := return (← ahead).isEmpty

/-- Refuses with a rule that the next token breaks. -/
def refuse {α : Type} (rule : String) : Parser α := do throw (.refused rule (← atEnd))

/-- Refuses because none of the alternatives comes next. -/
def expect {α : Type} (alternatives : List String) : Parser α := do
  throw (.expected alternatives (← atEnd))

/-- Refuses because none of the alternatives comes next. Those that do come next, but were turned
down for what follows them, are not named. -/
def expectUnmet {α : Type} (alternatives : List (String × (List Token → Bool))) : Parser α := do
  let tokens ← ahead
  expect ((alternatives.filter fun (_, test) => !test tokens).map (·.1))

/-- Writes tokens down. -/
def emit (tokens : List Token) : Parser Unit :=
  modify fun c => { c with written := tokens.reverse ++ c.written }

/-- Passes over tokens without writing anything. -/
def skip (count : Nat) : Parser Unit := modify fun c => { c with rest := c.rest.drop count }

/-- The result of a reader with what it wrote, which is kept out of the record. -/
def capture {α : Type} (p : Parser α) : Parser (α × List Token) := do
  let before := (← get).written
  modify ({ · with written := [] })
  let a ← p
  let tokens := (← get).written.reverse
  modify ({ · with written := before })
  pure (a, tokens)

/-- The result of a reader with what it wrote. -/
def recorded {α : Type} (p : Parser α) : Parser (α × List Token) := do
  let (a, tokens) ← capture p
  emit tokens
  pure (a, tokens)

/-- The result of a reader with the tokens it passed over, as they stand in the source. -/
def sourced {α : Type} (p : Parser α) : Parser (α × List Token) := do
  let before ← ahead
  let a ← p
  pure (a, before.take (before.length - (← ahead).length))

/-- The result of a reader. If it passes a test, the tokens are written down as they stand in the
source and not in canonical form. -/
def verbatimIf {α : Type} (test : α → Bool) (p : Parser α) : Parser α := do
  let ((a, canonical), source) ← sourced (capture p)
  emit (if test a then source else canonical)
  pure a

/-- The result of a reader, whose tokens are written down as they stand in the source. -/
def verbatim {α : Type} (p : Parser α) : Parser α := verbatimIf (fun _ => true) p

/-- The outcome of a reader, which may be a refusal. -/
def attempt {α : Type} (p : Parser α) : Parser (Except SyntaxError α) :=
  ofStep fun cursor => let (outcome, after) := p.start cursor; (.ok outcome, after)

/-- A reader to which it makes no difference what was passed over, or left in a group, earlier. -/
def apart {α : Type} (p : Parser α) : Parser α :=
  ofStep fun cursor =>
    let (outcome, after) := p.start ⟨cursor.rest, [], none⟩
    (outcome,
      { rest := after.rest
        written := after.written ++ cursor.written
        leftover := cursor.leftover.or after.leftover })

/-- Repeats a step from one value to the next until there is no next one. A step moves the
cursor, so there are no more steps than tokens in front, and one that finds the end. -/
def iterate {α : Type} (step : α → Parser (Option α)) (a : α) : Parser α := do
  go ((← ahead).length + 1) a
where
  go : Nat → α → Parser α
    | 0, _ => throw (.leftover none)
    | bound + 1, a => do
      match ← step a with
      | some next => go bound next
      | none => pure a

/-- The results of a step that is repeated until it gives none. -/
def repeated {α : Type} (step : Parser (Option α)) : Parser (List α) := do
  let results ← iterate (fun found => do return (← step).map (· :: found)) []
  pure results.reverse

/-- Repeats an item as long as a test of the tokens in front succeeds. -/
def whileSees {α : Type} (test : List Token → Bool) (item : Parser α) : Parser (List α) :=
  repeated do if ← sees test then some <$> item else pure none

/-! ## Single tokens -/

/-- Certain punctuation. -/
def mark (expected : String) : Parser Unit := do
  if ← sees (Ahead.mark expected) then
    skip expected.length
    emit (Token.ofPunctuation expected.toList)
  else throw (.missing expected)

/-- Certain punctuation, if it comes next. -/
def mark? (expected : String) : Parser Bool := do
  if ← sees (Ahead.mark expected) then
    mark expected
    pure true
  else pure false

/-- Certain punctuation, if it comes next and a condition holds. -/
def markIf (condition : Bool) (expected : String) : Parser Bool :=
  if condition then mark? expected else pure false

/-- A certain word. -/
def word (expected : String) : Parser Unit := do
  if ← sees (Ahead.word expected) then
    skip 1
    emit [.ident expected]
  else expect ["`" ++ expected ++ "`"]

/-- A certain word, if it comes next. -/
def word? (expected : String) : Parser Bool := do
  if ← sees (Ahead.word expected) then
    word expected
    pure true
  else pure false

/-- Any identifier or keyword. -/
def anyWord : Parser String := do
  match ← ahead with
  | .ident found :: _ =>
    skip 1
    emit [.ident found]
    pure found
  | _ => expect ["ident"]

/-- A name. -/
def name : Parser String := do
  match ← ahead with
  | .ident found :: _ => if isName found then anyWord else throw (.reserved found)
  | _ => expect ["identifier"]

/-- A lifetime. -/
def lifetime : Parser Unit := do
  match ← ahead with
  | .punct '\'' _ :: .ident found :: _ =>
    skip 2
    emit [.punct '\'' true, .ident found]
  | _ => expect ["lifetime"]

/-- A lifetime, if one comes next. -/
def lifetime? : Parser Bool := do
  if ← sees Ahead.lifetime then
    lifetime
    pure true
  else pure false

/-- A literal; the token of it where it is a single one. -/
def literal : Parser (Option String) := do
  match ← ahead with
  | .literal text :: _ =>
    skip 1
    emit [.literal text]
    pure (some text)
  | tokens =>
    if Ahead.literal tokens then
      match tokens with
      | .punct .. :: .literal text :: _ =>
        skip 2
        emit [.punct '-' false, .literal text]
      | _ => let _ ← anyWord
      pure none
    else expect ["literal"]

/-! ## Groups -/

/-- Reads the content of a group with its own cursor, and closes the group. What the reader
leaves in front of the closing delimiter is remembered. -/
def groupContent {α : Type} (delimiter : Delimiter) (content : List Token) (p : Parser α) :
    Parser α :=
  ofStep fun cursor =>
    let (outcome, after) := p.start ⟨content, [], cursor.leftover⟩
    (outcome,
      { rest := cursor.rest.drop 1
        written := .group delimiter after.written.reverse :: cursor.written
        leftover := after.leftover.or (if after.rest.isEmpty then none else some delimiter) })

/-- A group of a kind. -/
def group {α : Type} (delimiter : Delimiter) (p : Parser α) : Parser α := do
  match ← ahead with
  | .group found content :: _ =>
    if found = delimiter then groupContent delimiter content p else expect [delimiter.name]
  | _ => expect [delimiter.name]

/-- A group of any kind, taken over as it is. -/
def anyGroup : Parser (Delimiter × List Token) := do
  match ← ahead with
  | .group delimiter content :: _ =>
    skip 1
    emit [.group delimiter content]
    pure (delimiter, content)
  | _ => expect ["delimiter"]

/-- Items up to the end, with a mark between two of them and perhaps behind the last. -/
def terminated {α : Type} (item : Parser α) (separator : String) : Parser (List α) :=
  repeated do
    if ← atEnd then pure none
    else
      let a ← item
      if !(← atEnd) then mark separator
      pure (some a)

/-- All tokens as they are. -/
def everything : Parser Unit := do
  let tokens ← ahead
  skip tokens.length
  emit tokens

/-! ## Whole texts -/

/-- The result of reading all tokens of a list, with what was written. -/
def readAll {α : Type} (p : Parser α) (tokens : List Token) :
    Except SyntaxError (α × List Token) :=
  match p.start ⟨tokens, [], none⟩ with
  | (.error e, _) => .error e
  | (.ok a, cursor) =>
    if let some delimiter := cursor.leftover then .error (.leftover (some delimiter))
    else if cursor.rest.isEmpty then .ok (a, cursor.written.reverse)
    else .error (.leftover none)

end Parser

end RecordCoding.Source
