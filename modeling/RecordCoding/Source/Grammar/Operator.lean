import RecordCoding.Source.Grammar.Pattern

/-!
# Reading operators

What stands between and behind operands. An operator takes up everything on its right that binds
more strongly; comparisons do not follow one another, and a range is not followed by an operator.
-/

namespace RecordCoding.Source

open Source.Parser

/-- The operators between two operands; longer ones come before their beginnings. -/
def binaryOperators : List (String × Precedence) :=
  [("+=", .assign), ("-=", .assign), ("*=", .assign), ("/=", .assign), ("%=", .assign),
    ("^=", .assign), ("&=", .assign), ("|=", .assign), ("<<=", .assign), (">>=", .assign),
    ("&&", .conjunction), ("||", .disjunction), ("<<", .shift), (">>", .shift),
    ("==", .comparison), ("<=", .comparison), ("!=", .comparison), (">=", .comparison),
    ("+", .sum), ("-", .sum), ("*", .product), ("/", .product), ("%", .product),
    ("^", .bitXor), ("&", .bitAnd), ("|", .bitOr), ("<", .comparison), (">", .comparison)]

/-- The operator that comes next. -/
def Ahead.operator? (tokens : List Token) : Option (String × Precedence) :=
  binaryOperators.find? fun (text, _) => mark text tokens

/-- Whether an assignment comes next. -/
def Ahead.assignment (tokens : List Token) : Bool := mark "=" tokens && !mark "=>" tokens

/-- How strongly what comes next binds. -/
def Ahead.precedence (tokens : List Token) : Precedence :=
  match operator? tokens with
  | some (_, precedence) => precedence
  | none =>
    if assignment tokens then .assign
    else if mark ".." tokens then .range
    else if word "as" tokens then .cast
    else .lowest

/-- Whether the selection of a field comes next. -/
def Ahead.selection (tokens : List Token) : Bool := mark "." tokens && !mark ".." tokens

/-- An operand on the right of an operator, with all that binds more strongly than the operator. -/
def rightOperand (g : Grammar) (place : Place) (precedence : Precedence) : Parser Expression := do
  iterate (fun right => do
    let next := Ahead.precedence (← ahead)
    if precedence.rank < next.rank || (next = precedence && precedence = .assign) then
      let before := (← ahead).length
      let right ← g.operators place next right
      pure (if (← ahead).length < before then some right else none)
    else pure none) (← g.operand place)

/-- The dots of a range in an expression, and whether its end is included. -/
def rangeMark : Parser Bool := do
  if ← mark? "..=" then pure true
  else if ← sees (Ahead.mark "...") then expect ["`..=`"]
  else
    mark ".."
    pure false

/-- The marks that end a range without an end. -/
def rangeStops : List String :=
  [",", ";", "?", "=>", "=", "+", "/", "%", "^", ">", "<=", "!=", "-=", "*=", "&=", "|=", "<<="]

/-- Whether a range ends here without an end. -/
def Ahead.rangeStop (admitsStruct : Bool) (tokens : List Token) : Bool :=
  tokens.isEmpty || rangeStops.any (mark · tokens) || selection tokens ||
    (!admitsStruct && group .brace tokens) || word "as" tokens

/-- A range from its dots on. -/
def rangeFromDots (g : Grammar) (place : Place) : Parser Unit := do
  let isClosed ← rangeMark
  if isClosed || !(← sees (Ahead.rangeStop place.admitsStruct)) then
    let stop ← rightOperand g place.behindOptional .range
    emit stop.tokens

/-- Refuses what may not stand behind a cast. -/
def endOfCast : Parser Unit := do
  let refuseKind (kind : String) : Parser Unit := refuse ("casts cannot be followed by " ++ kind)
  let tokens ← ahead
  let second := Ahead.next tokens
  let third := Ahead.next second
  if Ahead.selection tokens then
    if Ahead.word "await" second then refuseKind "`.await`"
    else if Ahead.name second && (Ahead.group .parenthesis third || Ahead.mark "::" third) then
      refuseKind "a method call"
    else refuseKind "a field access"
  else if Ahead.mark "?" tokens then refuseKind "`?`"
  else if Ahead.group .bracket tokens then refuseKind "indexing"
  else if Ahead.group .parenthesis tokens then refuseKind "a function call"
  else pure ()

/-- Whether the last name of a type could take further arguments. -/
def endsInOpenName (type : List Token) : Bool :=
  match type.reverse with
  | .ident found :: _ => found != "_"
  | .group .parenthesis content :: .ident found :: _ =>
    (found == "dyn" || found == "impl") && endsInName content.reverse
  | _ => false
where
  /-- Whether a name is the first of tokens in reverse order. -/
  endsInName : List Token → Bool
    | .ident _ :: _ => true
    | _ => false

/-- Whether an operator comes next that could be taken for the beginning of generic arguments. -/
def Ahead.openingOperator (tokens : List Token) : Bool :=
  (operator? tokens).any fun (text, _) => text == "<" || text == "<<"

/-- A cast of an operand. It is put in parentheses where the next operator could be taken for a
part of the type. -/
def castOf (g : Grammar) (operand : Expression) : Parser Expression := do
  let ((isOpen, opens), tokens) ← capture do
    emit operand.tokens
    word "as"
    let type ← g.type false
    endOfCast
    pure (endsInOpenName type.tokens, ← sees Ahead.openingOperator)
  pure ⟨.other, if isOpen && opens then parenthesized tokens else tokens⟩

/-- An expression that goes on behind its left operand. -/
def continued (left : Expression) (form : ExpressionForm) (p : Parser Unit) :
    Parser (Option Expression) := do
  let ((), tokens) ← capture p
  pure (some ⟨form, left.tokens ++ tokens⟩)

/-- One operator with what is on both sides of it, if it binds strongly enough. -/
def operatorStep (g : Grammar) (place : Place) (least : Precedence) (left : Expression) :
    Parser (Option Expression) := do
  let right (precedence : Precedence) : Parser Unit := do
    emit (← rightOperand g place.behindOperator precedence).tokens
  if left.form = .range then pure none
  else match Ahead.operator? (← ahead) with
    | some (text, precedence) =>
      if precedence.rank < least.rank then pure none
      else
        if precedence = .comparison && left.form = .comparison then
          refuse "comparison operators cannot be chained"
        continued left (if precedence = .comparison then .comparison else .other) do
          mark text
          right precedence
    | none =>
      if ← sees fun ts => least.rank ≤ Precedence.assign.rank && Ahead.assignment ts then
        continued left .other do
          mark "="
          right .assign
      else if ← sees fun ts => least.rank ≤ Precedence.range.rank && Ahead.mark ".." ts then
        continued left .range (rangeFromDots g place)
      else if ← sees (Ahead.word "as") then some <$> castOf g left
      else pure none

/-- An operand with what follows it, as long as it binds at least as strongly as given. -/
def operatorsIn (g : Grammar) (place : Place) (least : Precedence) (left : Expression) :
    Parser Expression :=
  iterate (operatorStep g place least) left

/-! ## Calls, selections and indexing -/

/-- The positions selected by a number with a fraction, and whether a further selection follows:
such a number stands for several selections. -/
def positions (text : String) : Except SyntaxError (List Nat × Bool) := do
  let goesOn := text.endsWith "."
  let parts := (text.splitOn ".").filter (!·.isEmpty)
  let indices ← parts.mapM fun part => (Literal.index part).mapError positionRefusal
  pure (indices, goesOn)

/-- The selections that a number with a fraction stands for, after the first dot; whether one of
them still lacks its field. -/
def selectPositions (text : String) : Parser Bool := do
  let (indices, goesOn) ← positions text
  skip 1
  let dot := Token.punct '.' false
  let selections := indices.map fun index => [Token.literal (toString index)]
  emit (List.flatten (selections.intersperse [dot]))
  if goesOn then emit [dot]
  pure goesOn

/-- The arguments of a call. -/
def callArguments (g : Grammar) : Parser Unit := do
  let _ ← group .parenthesis (terminated g.value ",")

/-- What is selected behind a dot: a field or a method with its arguments. -/
def selected (g : Grammar) : Parser Unit := do
  if ← word? "await" then pure ()
  else
    let isNamed ← member
    let isAnnounced ← sees fun ts => isNamed && Ahead.mark "::" ts
    if isAnnounced then
      let _ ← announcedArguments g
    if isAnnounced || (isNamed && (← sees (Ahead.group .parenthesis))) then callArguments g

/-- What stands behind a dot. -/
def selection (g : Grammar) : Parser Unit := do
  mark "."
  match ← ahead with
  | .literal text :: _ =>
    if Literal.numberKind? text = some .fractional then
      if ← selectPositions text then selected g
    else selected g
  | .punct '-' _ :: .literal text :: _ =>
    if Literal.numberKind? text = some .fractional then
      throw (signedRefusal ((text.splitOn ".").headD ""))
    else selected g
  | _ => selected g

/-- One call, selection, indexing or early return behind an operand. -/
def callStep (g : Grammar) (form : ExpressionForm) : Parser (Option ExpressionForm) := do
  if ← sees (Ahead.group .parenthesis) then
    callArguments g
    pure (some .other)
  else if form ≠ .range && (← sees Ahead.selection) then
    selection g
    pure (some .other)
  else if ← sees (Ahead.group .bracket) then
    let _ ← group .bracket g.value
    pure (some .other)
  else if ← markIf (form ≠ .range) "?" then pure (some .other)
  else pure none

/-- The calls, selections and indexings behind an operand. -/
def callsBehind (g : Grammar) (form : ExpressionForm) : Parser ExpressionForm :=
  iterate (callStep g) form

/-- Whether something is called, selected, indexed or returned early. -/
def Ahead.call (tokens : List Token) : Bool :=
  group .parenthesis tokens || selection tokens || group .bracket tokens || mark "?" tokens

end RecordCoding.Source
