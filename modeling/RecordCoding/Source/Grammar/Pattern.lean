import RecordCoding.Source.Grammar.Type

/-!
# Reading patterns
-/

namespace RecordCoding.Source

open Source.Parser

/-- Whether an alternative of a pattern follows. -/
def Ahead.alternative (tokens : List Token) : Bool :=
  mark "|" tokens && !mark "||" tokens && !mark "|=" tokens

/-- Patterns of which any may match. -/
def alternatives (g : Grammar) : Parser PatternForm := do
  let isMarked ← mark? "|"
  let first ← g.pattern
  let more ← repeated do
    if ← sees Ahead.alternative then
      mark "|"
      some <$> g.pattern
    else pure none
  pure (if isMarked || !more.isEmpty then .other else first)

/-- Why an integer is no position. -/
def positionRefusal : Literal.IndexFlaw → SyntaxError
  | .tooLarge => .refused "number too large to fit in target type" false
  | .suffixed => .refused "expected unsuffixed integer" false
  | .notAnInteger => .refused "expected integer literal" false

/-- Why a number with a sign is no position, given the digits behind the sign. -/
def signedRefusal (digits : String) : SyntaxError :=
  match Literal.index digits with
  | .ok _ | .error .tooLarge => .refused "invalid digit found in string" false
  | .error flaw => positionRefusal flaw

/-- The name or position of a field, and whether it is a name. -/
def member : Parser Bool := do
  let refuseOther : Parser Bool := refuse "expected identifier or integer"
  match ← ahead with
  | .literal text :: _ =>
    if Literal.numberKind? text = some .integer then
      match Literal.index text with
      | .ok index =>
        skip 1
        emit [.literal (toString index)]
        pure false
      | .error flaw => throw (positionRefusal flaw)
    else refuseOther
  | .punct '-' _ :: .literal text :: _ =>
    if Literal.numberKind? text = some .integer then throw (signedRefusal text) else refuseOther
  | tokens =>
    if Ahead.name tokens then
      let _ ← name
      pure true
    else refuseOther

/-! ## Ranges -/

/-- Whether the end of a range is left open here. -/
def Ahead.openEnd (tokens : List Token) : Bool :=
  tokens.isEmpty || mark "|" tokens || mark "=" tokens ||
    (mark ":" tokens && !mark "::" tokens) || mark "," tokens || mark ";" tokens ||
    word "if" tokens

/-- A bound of a range in a pattern, and whether there is one. -/
def rangeBound (g : Grammar) : Parser Bool := do
  if ← sees Ahead.openEnd then pure false
  else if ← sees Ahead.literal then
    let _ ← literal
    pure true
  else if ← sees Ahead.typePath then
    let _ ← path g true
    pure true
  else if ← word? "const" then
    let _ ← attributedBlock g
    pure true
  else
    expect ["literal", "identifier", "`::`", "`<`", "`self`", "`Self`", "`super`", "`crate`",
      "`const`"]

/-- The dots of a range in a pattern, and whether its end is included. Three dots are an old
spelling that is written in the new one. -/
def rangeDots : Parser Bool := do
  if ← mark? "..=" then pure true
  else if ← sees (Ahead.mark "...") then
    skip 3
    emit (Token.ofPunctuation "..=".toList)
    pure true
  else
    mark ".."
    pure false

/-- The rest of a range pattern, from the dots on. -/
def rangeRest (g : Grammar) : Parser PatternForm := do
  let isClosed ← rangeDots
  let hasEnd ← rangeBound g
  if isClosed && !hasEnd then refuse "expected range upper bound"
  pure (.range !hasEnd)

/-- A pattern that begins with dots: a range without a start, or the rest of a sequence. -/
def rangeWithoutStart (g : Grammar) : Parser PatternForm := do
  let isClosed ← mark? "..="
  if !isClosed then mark ".."
  if ← rangeBound g then pure (.range true)
  else if isClosed then refuse "expected range upper bound"
  else pure .other

/-! ## Compound patterns -/

/-- A field of a struct pattern. -/
def fieldPattern (g : Grammar) : Parser Unit := do
  let isBoxed ← word? "box"
  let isReference ← word? "ref"
  let isMutable ← word? "mut"
  if isBoxed || isReference || isMutable then
    let _ ← name
  else
    let isNamed ← member
    if !isNamed || (← sees (Ahead.mark ":")) then
      mark ":"
      let _ ← alternatives g

/-- The content of the braces of a struct pattern. -/
def fieldPatterns (g : Grammar) : Parser Unit := do
  let _ ← iterate (fun goesOn => do
    if !goesOn || (← atEnd) then pure none
    else
      let _ ← outerAttributes g
      if ← mark? ".." then pure (some false)
      else
        fieldPattern g
        if !(← atEnd) then mark ","
        pure (some true)) true

/-- The elements of a slice pattern; a range needs both ends. -/
def sliceElement (g : Grammar) : Parser Unit := do
  if (← alternatives g) = .range true then
    throw (.refused "range pattern is not allowed unparenthesized inside slice pattern" false)

/-- A pattern that begins with a path. -/
def pathPattern (g : Grammar) : Parser PatternForm := do
  let found ← path g true
  if !found.isQualified && found.isPlain && (← sees Ahead.invocation) then
    let _ ← invocationArguments
    pure .other
  else if ← sees (Ahead.group .brace) then
    group .brace (fieldPatterns g)
    pure .other
  else if ← sees (Ahead.group .parenthesis) then
    let _ ← group .parenthesis (terminated (alternatives g) ",")
    pure .other
  else if ← sees (Ahead.mark "..") then rangeRest g
  else pure .other

/-- A literal or a block that is run early, or a range that begins with one of them. -/
def boundPattern (g : Grammar) : Parser PatternForm := do
  let form ←
    if ← word? "const" then pure (.block (attributeTokens (← attributedBlock g)).length)
    else
      let _ ← rangeBound g
      pure .other
  if ← sees (Ahead.mark "..") then rangeRest g else pure form

/-- A name that is bound. -/
def bindingPattern (g : Grammar) : Parser Unit := do
  let _ ← word? "ref"
  let _ ← word? "mut"
  if !(← word? "self") then
    let _ ← name
  if ← mark? "@" then
    let _ ← g.pattern

/-- Whether a pattern that begins with a path comes next. -/
def Ahead.pathPattern (tokens : List Token) : Bool :=
  let behind := next tokens
  (name tokens && (mark "::" behind || mark "!" behind || group .brace behind ||
    group .parenthesis behind || mark ".." behind)) ||
    (word "self" tokens && mark "::" behind) || mark "::" tokens || mark "<" tokens ||
    word "Self" tokens || word "super" tokens || word "crate" tokens

/-- A pattern without alternatives. -/
def patternIn (g : Grammar) : Parser PatternForm := do
  if ← sees Ahead.pathPattern then pathPattern g
  else if ← word? "_" then pure .other
  else if ← sees (Ahead.word "box") then
    verbatim do
      word "box"
      let _ ← g.pattern
    pure .verbatim
  else if ← sees fun ts => Ahead.mark "-" ts || Ahead.literal ts || Ahead.word "const" ts then
    boundPattern g
  else if ← sees fun ts => Ahead.word "ref" ts || Ahead.word "mut" ts || Ahead.word "self" ts ||
      Ahead.name ts then
    bindingPattern g
    pure .other
  else if ← mark? "&" then
    let _ ← word? "mut"
    let _ ← g.pattern
    pure .other
  else if ← sees (Ahead.group .parenthesis) then
    let _ ← group .parenthesis (terminated (alternatives g) ",")
    pure .other
  else if ← sees (Ahead.group .bracket) then
    let _ ← group .bracket (terminated (sliceElement g) ",")
    pure .other
  else if ← sees fun ts => Ahead.mark ".." ts && !Ahead.mark "..." ts then rangeWithoutStart g
  else
    let dots ← sees (Ahead.mark "..")
    expect (["identifier", "`::`", "`<`", "`_`", "literal", "`const`", "`ref`", "`mut`", "`&`",
      "parentheses", "square brackets"] ++ (if dots then [] else ["`..`"]) ++ ["`const`"])

end RecordCoding.Source
