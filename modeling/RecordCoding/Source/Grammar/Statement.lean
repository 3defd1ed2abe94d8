import RecordCoding.Source.Grammar.Item

/-!
# Reading statements
-/

namespace RecordCoding.Source

open Source.Parser

/-- Whether an item rather than an expression comes next in a block. -/
def Ahead.itemStatement (tokens : List Token) : Bool :=
  let second := next tokens
  let third := next second
  let closing (ts : List Token) := word "move" ts || mark "|" ts
  let functionMark (ts : List Token) := word "unsafe" ts || word "extern" ts || word "fn" ts
  word "pub" tokens || (word "crate" tokens && !mark "::" second) || word "extern" tokens ||
    word "use" tokens ||
    (word "static" tokens && (word "mut" second ||
      (name second && !(word "async" second && closing third)))) ||
    (word "const" tokens && !(group .brace second || word "static" second ||
      (word "async" second && !functionMark third) || closing second)) ||
    (word "unsafe" tokens && !group .brace second) ||
    (word "async" tokens && functionMark second) ||
    word "fn" tokens || word "mod" tokens || word "type" tokens || word "struct" tokens ||
    word "enum" tokens || (word "union" tokens && name second) ||
    (word "auto" tokens && word "trait" second) || word "trait" tokens ||
    (word "default" tokens && (word "unsafe" second || word "impl" second)) ||
    word "impl" tokens || word "macro" tokens

/-- The tokens behind the segments of a path without arguments, if there is one. -/
def Ahead.behindSegments : List Token → Option (List Token)
  | .ident found :: .punct ':' true :: .punct ':' _ :: rest =>
    if plainSegment [.ident found] then behindSegments rest else none
  | .ident found :: rest => if plainSegment [.ident found] then some rest else none
  | _ => none

/-- Where an invoked rule begins a statement: what follows its path. -/
def Ahead.behindInvoked (tokens : List Token) : Option (List Token) :=
  (behindSegments (if mark "::" tokens then tokens.drop 2 else tokens)).filter (mark "!")

/-- A binding of a block. A value that ends with a brace leaves no room for an alternative. -/
def localBinding (g : Grammar) : Parser Unit := do
  word "let"
  let _ ← g.pattern
  if ← mark? ":" then
    let _ ← g.type true
  if ← mark? "=" then
    let (_, value) ← sourced g.value
    let endsWithBrace := match value.getLast? with
      | some (.group .brace _) => true
      | _ => false
    if ← sees fun ts => !endsWithBrace && Ahead.word "else" ts then
      word "else"
      block g
  mark ";"

/-- A statement that begins with an expression, and whether a semicolon is missing behind it. The
attributes in front of it are given in canonical form and as they stand in the source. -/
def expressionStatement (g : Grammar) (attrs source : List Token) : Parser Bool := do
  let e ← g.leading
  emit (e.attributed attrs source).tokens
  if ← mark? ";" then pure false
  else pure (e.form ≠ .block && e.form ≠ .invocation true)

/-- What a statement is. -/
inductive StatementKind where
  | invocation
  | binding
  | item
  | expression
  deriving Repr, DecidableEq

/-- The kind of statement that comes next, behind its attributes. An invocation with braces is a
statement of its own, unless something is selected from its result. -/
def statementKind : Parser StatementKind := do
  let behind := ((Ahead.behindInvoked (← ahead)).getD []).drop 1
  let further := Ahead.next behind
  if Ahead.group .brace behind && !(Ahead.selection further || Ahead.mark "?" further) then
    pure .invocation
  else if ← sees (Ahead.word "let") then pure .binding
  else if ← sees fun ts =>
      Ahead.name behind || Ahead.word "try" behind || Ahead.itemStatement ts then pure .item
  else pure .expression

/-- A statement, and whether a semicolon is missing behind it. An item may be kept as it stands in
the source, with its attributes. -/
def statement (g : Grammar) : Parser Bool := do
  let (lacksSemicolon, _) ← verbatimIf (·.2) do
    let ((attrs, canonical), source) ← sourced (capture (outerAttributes g))
    match ← statementKind with
    | .invocation =>
      emit canonical
      let _ ← plainPath
      let _ ← invocationArguments
      let _ ← mark? ";"
      pure (false, false)
    | .binding =>
      emit canonical
      localBinding g
      pure (false, false)
    | .item =>
      emit canonical
      let (_, isKept) ← itemBehind g attrs
      pure (false, isKept)
    | .expression => pure (← expressionStatement g canonical source, false)
  pure lacksSemicolon

/-- The statements of a block, up to its end. Only the last one may lack its semicolon. -/
def statementsIn (g : Grammar) : Parser Unit := do
  let _ ← repeated do
    let _ ← whileSees (Ahead.mark ";") (mark ";")
    if ← atEnd then pure none
    else
      let lacksSemicolon ← statement g
      if lacksSemicolon && !(← atEnd) then refuse "unexpected token, expected `;`"
      pure (some ())

end RecordCoding.Source
