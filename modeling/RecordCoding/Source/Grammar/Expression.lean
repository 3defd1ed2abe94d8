import RecordCoding.Source.Grammar.Operator

/-!
# Reading expressions

An expression is read as a whole before it is written, because what stands around it may put it in
parentheses: attributes in front of a range, and a block that could be taken for another one.
-/

namespace RecordCoding.Source

open Source.Parser

/-! ## What comes next -/

/-- Whether parameters are introduced here. -/
def Ahead.introduction (tokens : List Token) : Bool :=
  word "for" tokens && parameters (next tokens)

/-- Whether a closure comes next. -/
def Ahead.closure (tokens : List Token) : Bool :=
  let behind := next tokens
  mark "|" tokens || word "move" tokens || introduction tokens ||
    (word "const" tokens && !group .brace behind) || word "static" tokens ||
    (word "async" tokens && (mark "|" behind || word "move" behind))

/-- Whether a block that is run later comes next. -/
def Ahead.asyncBlock (tokens : List Token) : Bool :=
  let behind := next tokens
  word "async" tokens &&
    (group .brace behind || (word "move" behind && group .brace (next behind)))

/-- Whether an expression that ends itself comes next. -/
def Ahead.selfEnding (tokens : List Token) : Bool :=
  let behind := next tokens
  word "if" tokens || word "while" tokens || (word "for" tokens && !introduction tokens) ||
    word "loop" tokens || word "match" tokens || (word "try" tokens && group .brace behind) ||
    word "unsafe" tokens || (word "const" tokens && group .brace behind) ||
    group .brace tokens || lifetime tokens

/-- Whether an expression that is built into the language comes next. -/
def Ahead.builtIn (tokens : List Token) : Bool := word "builtin" tokens && mark "#" (next tokens)

/-- Whether an expression that begins with a path comes next. -/
def Ahead.pathExpression (tokens : List Token) : Bool :=
  let behind := next tokens
  typePath tokens || (word "try" tokens && (mark "!" behind || mark "::" behind))

/-- Whether an expression may begin here. -/
def Ahead.expression (tokens : List Token) : Bool :=
  (anyWord tokens && !word "as" tokens) || anyGroup tokens || literal tokens ||
    (mark "!" tokens && !mark "!=" tokens) ||
    (mark "-" tokens && !mark "-=" tokens && !mark "->" tokens) ||
    (mark "*" tokens && !mark "*=" tokens) || (mark "|" tokens && !mark "|=" tokens) ||
    (mark "&" tokens && !mark "&=" tokens) || mark ".." tokens ||
    (mark "<" tokens && !mark "<=" tokens && !mark "<<=" tokens) || mark "::" tokens ||
    lifetime tokens || mark "#" tokens

/-! ## Expressions that end themselves -/

/-- A condition, with its branches as far as there are any. -/
def conditional (g : Grammar) : Parser Unit := do
  let _ ← iterate (fun goesOn => do
    if !goesOn then pure none
    else
      word "if"
      let _ ← g.subject
      block g
      if ← word? "else" then
        if ← sees (Ahead.word "if") then pure (some true)
        else if ← sees (Ahead.group .brace) then
          block g
          pure (some false)
        else expect ["`if`", "curly braces"]
      else pure (some false)) true

/-- An arm of a case distinction. One that does not end itself needs a comma behind it, except
for the last. -/
def arm (g : Grammar) : Parser Unit := do
  let _ ← outerAttributes g
  let _ ← alternatives g
  if ← word? "if" then
    let _ ← g.value
  mark "=>"
  let form ← Grammar.written g.leading
  if form ≠ .block && !(← atEnd) then mark ","
  else
    let _ ← mark? ","

/-- A case distinction. -/
def distinction (g : Grammar) : Parser Unit := do
  word "match"
  let _ ← g.subject
  group .brace do
    let _ ← innerAttributes g
    let _ ← whileSees (!·.isEmpty) (arm g)

/-- A loop or block, behind its label. -/
def labelled (g : Grammar) : Parser Unit := do
  if ← word? "while" then
    let _ ← g.subject
  else if ← word? "for" then
    let _ ← alternatives g
    word "in"
    let _ ← g.subject
  else if ← word? "loop" then pure ()
  else if !(← sees (Ahead.group .brace)) then refuse "expected loop or block expression"
  let _ ← attributedBlock g

/-- An expression that ends itself. -/
def selfEnding (g : Grammar) : Parser Unit := do
  if ← sees (Ahead.word "if") then conditional g
  else if ← sees (Ahead.word "match") then distinction g
  else if ← word? "try" then block g
  else if ← sees Ahead.lifetime then
    lifetime
    mark ":"
    labelled g
  else
    if !(← word? "unsafe") then
      if ← word? "const" then pure ()
      else if !(← sees (Ahead.group .brace)) then return ← labelled g
    let _ ← attributedBlock g

/-- An expression at the beginning of a statement or behind an arrow. One that ends itself stops
there, unless something is selected from it. -/
def leadingIn (g : Grammar) : Parser Expression := do
  let ((_, attrs), source) ← sourced (capture (outerAttributes g))
  if ← sees Ahead.selfEnding then
    let ((), tokens) ← capture (selfEnding g)
    let ended : Expression := ⟨.block, attrs ++ tokens⟩
    if ← sees fun ts => Ahead.selection ts || Ahead.mark "?" ts then
      let (form, calls) ← capture (callsBehind g .block)
      g.operators .free .lowest ⟨form, ended.tokens ++ calls⟩
    else pure ended
  else
    let first ← g.operand .free
    g.operators .free .lowest (first.attributed attrs source)

/-! ## Further expressions -/

/-- A field of a struct literal. -/
def fieldValue (g : Grammar) : Parser Unit := do
  let _ ← outerAttributes g
  let isNamed ← member
  if !isNamed || (← sees (Ahead.mark ":")) then
    mark ":"
    let _ ← g.value

/-- The content of the braces of a struct literal. -/
def fieldValues (g : Grammar) : Parser Unit := do
  let _ ← iterate (fun goesOn => do
    if !goesOn || (← atEnd) then pure none
    else if ← mark? ".." then
      if !(← atEnd) then
        let _ ← g.value
      pure (some false)
    else
      fieldValue g
      if !(← atEnd) then mark ","
      pure (some true)) true

/-- An expression that begins with a path. -/
def pathExpression (g : Grammar) (admitsStruct : Bool) : Parser ExpressionForm := do
  let found ← path g true
  if !found.isQualified && found.isPlain && (← sees Ahead.invocation) then
    .invocation <$> invocationArguments
  else if admitsStruct && (← sees (Ahead.group .brace)) then
    group .brace (fieldValues g)
    pure .other
  else pure .other

/-- An expression that is built into the language. -/
def builtInExpression : Parser Unit := do
  word "builtin"
  mark "#"
  let _ ← name
  group .parenthesis everything

/-- An argument of a closure. -/
def closureArgument (g : Grammar) : Parser Unit := do
  let (_, attrs) ← capture (outerAttributes g)
  let (form, pattern) ← capture g.pattern
  if ← sees (Ahead.mark ":") then
    emit (attrs ++ pattern)
    mark ":"
    let _ ← g.type true
  else emit (form.attributed attrs pattern)
  if !(← sees (Ahead.mark "|")) then mark ","

/-- A closure. -/
def closure (g : Grammar) (place : Place) : Parser Unit := do
  let _ ← introduced? g
  let _ ← word? "const"
  let _ ← word? "static"
  let _ ← word? "async"
  let _ ← word? "move"
  mark "|"
  let _ ← whileSees (!Ahead.mark "|" ·) (closureArgument g)
  mark "|"
  if ← returnType? g true then block g
  else
    let _ ← Grammar.written (g.expression place.behindOperator)

/-- An expression in parentheses, or a tuple. -/
def enclosedExpression (g : Grammar) : Parser Unit := do
  let _ ← group .parenthesis (terminated g.value ",")

/-- An array, by its elements or by one element and their number. -/
def arrayExpression (g : Grammar) : Parser Unit :=
  group .bracket do
    if !(← atEnd) then
      let _ ← g.value
      if ← mark? ";" then
        let _ ← g.value
      else if ← sees fun ts => ts.isEmpty || Ahead.mark "," ts then
        if ← mark? "," then
          let _ ← terminated g.value ","
      else refuse "expected `,` or `;`"

/-- The tokens behind the attributes in front. -/
def Ahead.behindAttributes : List Token → List Token
  | .punct '#' _ :: .group .bracket _ :: rest => behindAttributes rest
  | tokens => tokens

/-- A jump out of a loop or block. A label is not followed by a colon, and without one a value that
begins with a label is put in parentheses. -/
def breakExpression (g : Grammar) (place : Place) : Parser Unit := do
  word "break"
  if ← sees fun ts => Ahead.lifetime ts && Ahead.mark ":" (Ahead.next ts) then
    let _ ← g.value
    throw (.refused "parentheses required" false)
  let isLabelled ← lifetime?
  if ← sees fun ts => Ahead.expression ts && (place.admitsStruct || !Ahead.group .brace ts) then
    let beginsLabelled ← sees fun ts => Ahead.lifetime (Ahead.behindAttributes ts)
    let value ← g.expression place.behindBreak
    emit (if !isLabelled && beginsLabelled then parenthesized value.tokens else value.tokens)

/-- A pattern that is tried on a value. -/
def letExpression (g : Grammar) (place : Place) : Parser Unit := do
  word "let"
  let _ ← alternatives g
  mark "="
  let first ← g.operand place.behindOperator
  let _ ← Grammar.written (g.operators place.behindOperator .comparison first)

/-- An expression without operators in front of it and calls behind it. -/
def atom (g : Grammar) (place : Place) : Parser ExpressionForm := do
  if ← sees Ahead.literal then .literal <$> literal
  else if ← sees Ahead.asyncBlock then
    word "async"
    let _ ← word? "move"
    block g
    pure .other
  else if ← sees fun ts => !Ahead.selfEnding ts && Ahead.closure ts then
    closure g place
    pure .other
  else if ← sees Ahead.builtIn then
    verbatim builtInExpression
    pure .verbatim
  else if ← sees Ahead.pathExpression then pathExpression g place.admitsStruct
  else if ← sees (Ahead.group .parenthesis) then
    enclosedExpression g
    pure .other
  else if ← sees (Ahead.word "break") then
    breakExpression g place
    pure .other
  else if ← word? "continue" then
    let _ ← lifetime?
    pure .other
  else if ← sees fun ts => Ahead.word "return" ts || Ahead.word "yield" ts then
    let _ ← anyWord
    if ← sees Ahead.expression then
      let _ ← g.value
    pure .other
  else if ← sees (Ahead.word "become") then
    verbatim do
      word "become"
      let _ ← g.value
    pure .verbatim
  else if ← sees (Ahead.group .bracket) then
    arrayExpression g
    pure .other
  else if ← sees (Ahead.word "let") then
    letExpression g place
    pure .other
  else if ← sees Ahead.selfEnding then
    selfEnding g
    pure .block
  else if ← sees (Ahead.mark "..") then
    rangeFromDots g place
    pure .range
  else if ← word? "_" then pure .other
  else refuse "expected an expression"

/-! ## Operands and whole expressions -/

/-- A reference to what is behind it. -/
def referenceOperand (g : Grammar) (place : Place) : Parser Unit := do
  mark "&"
  let isRaw ← sees fun ts => Ahead.word "raw" ts &&
    (Ahead.word "mut" (Ahead.next ts) || Ahead.word "const" (Ahead.next ts))
  if isRaw then
    word "raw"
  let isMutable ← word? "mut"
  if isRaw && !isMutable then word "const"
  let _ ← Grammar.written (g.operand place.behindOperator)

/-- Whether a block without attributes at its beginning comes next. -/
def Ahead.plainBlock : List Token → Bool
  | .group .brace content :: _ => !(mark "#" content && mark "!" (next content))
  | _ => false

/-- An operand without operators in front of it, with the calls behind it. A block that has
attributes of its own needs no parentheses; those in front of it are its own unless it is called. -/
def calledAtom (g : Grammar) (place : Place) (isAttributed : Bool) : Parser ExpressionForm := do
  let isPlain ← sees Ahead.plainBlock
  let (form, tokens) ← capture (atom g place)
  let hasAttributes := isAttributed && !(← sees Ahead.call)
  emit (if place.groupsBlock && isPlain && !hasAttributes then parenthesized tokens else tokens)
  callsBehind g form

/-- What an operand is, while it is written down. -/
def operandForm (g : Grammar) (place : Place) : Parser ExpressionForm := do
  let attrs ← outerAttributes g
  if ← sees (Ahead.mark "&") then
    referenceOperand g place
    pure .other
  else if ← sees fun ts => Ahead.mark "*" ts || Ahead.mark "!" ts || Ahead.mark "-" ts then
    if !(← mark? "*") then
      if !(← mark? "!") then mark "-"
    let _ ← Grammar.written (g.operand place.behindOperator)
    pure .other
  else
    let form ← calledAtom g place !attrs.isEmpty
    if form = .range && !attrs.isEmpty then
      throw (.refused "attributes are not allowed on range expressions starting with `..`" false)
    pure form

/-- An operand, with the operators in front of it and the calls behind it. -/
def operandIn (g : Grammar) (place : Place) : Parser Expression := do
  let ((form, tokens), source) ← sourced (capture (operandForm g place))
  pure ⟨form, if form = .verbatim then source else tokens⟩

/-- An expression. -/
def expressionIn (g : Grammar) (place : Place) : Parser Expression := do
  let first ← g.operand place
  g.operators place .lowest first

end RecordCoding.Source
