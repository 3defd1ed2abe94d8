import RecordCoding.Source.Grammar.Attribute

/-!
# Reading paths

Paths with generic arguments. Lifetimes among generic arguments are written in front of everything
else.
-/

namespace RecordCoding.Source

open Source.Parser

/-- A path that was read. -/
structure PathForm where
  /-- Whether it begins with a type in angle brackets. -/
  isQualified : Bool
  isAbsolute : Bool
  names : List String
  /-- Whether no segment has arguments. -/
  isPlain : Bool
  /-- Whether the last segment has no arguments. -/
  endsPlain : Bool
  /-- The type arguments of the last segment. -/
  arguments : List TypeExpr

/-! ## Generic arguments -/

/-- A constant among generic arguments. -/
def constArgument (g : Grammar) : Parser Unit := do
  if ← sees Ahead.literal then
    let _ ← literal
  else if ← sees Ahead.name then
    let _ ← name
  else if ← sees (Ahead.group .brace) then
    let _ ← attributedBlock g
  else expect []

/-- Whether a constant that is no name comes next. -/
def Ahead.constant (tokens : List Token) : Bool := literal tokens || group .brace tokens

/-- Bounds joined by plus signs, up to where a test of the tokens in front succeeds. -/
def boundsUntil (g : Grammar) (rules : BoundRules) (isEnd : List Token → Bool) : Parser Unit := do
  let _ ← iterate (fun goesOn => do
    if !goesOn || (← sees isEnd) then pure none
    else
      let _ ← g.bound rules
      some <$> mark? "+") true

/-- One generic argument: whether it is a lifetime, and the type if it is one. -/
def genericArgument (g : Grammar) : Parser (Bool × Option TypeExpr) := do
  if ← sees fun ts => Ahead.lifetime ts && !Ahead.mark "+" (Ahead.next ts) then
    lifetime
    pure (true, none)
  else if ← sees Ahead.constant then
    constArgument g
    pure (false, none)
  else
    let type ← g.type true
    match type with
    | .path _ false [_] _ =>
      if ← mark? "=" then
        if ← sees Ahead.constant then constArgument g
        else
          let _ ← g.type true
        pure (false, none)
      else if ← mark? ":" then
        boundsUntil g .ofParameter fun ts => Ahead.mark "," ts || Ahead.mark ">" ts
        pure (false, none)
      else pure (false, some type)
    | _ => pure (false, some type)

/-- Generic arguments in angle brackets; the types among them. -/
def genericArguments (g : Grammar) : Parser (List TypeExpr) := do
  mark "<"
  let found ← repeated do
    if ← sees (Ahead.mark ">") then pure none
    else
      let ((isLifetime, type?), tokens) ← capture (genericArgument g)
      let hasComma := !(← sees (Ahead.mark ">"))
      if hasComma then
        let _ ← capture (mark ",")
      pure (some (type?, Entry.mk isLifetime tokens hasComma))
  emit (Entry.listed (found.map (·.2)))
  mark ">"
  pure (found.filterMap (·.1))

/-- Generic arguments behind the marks that announce them in an expression. -/
def announcedArguments (g : Grammar) : Parser (List TypeExpr) := do
  mark "::"
  genericArguments g

/-! ## Paths -/

/-- Whether announced generic arguments come next. -/
def Ahead.announced (tokens : List Token) : Bool :=
  mark "::" tokens && mark "<" (next (next tokens))

/-- A segment of a path: its name and its type arguments, if it has arguments. In an expression
arguments have to be announced. -/
def pathSegment (g : Grammar) (inExpression : Bool) :
    Parser (String × Option (List TypeExpr)) := do
  if ← sees fun ts => Ahead.pathRoot ts || Ahead.word "try" ts then
    pure (← anyWord, none)
  else
    let found ← if ← sees (Ahead.word "Self") then anyWord else name
    if ← sees Ahead.announced then pure (found, some (← announcedArguments g))
    else if ← sees fun ts => !inExpression && Ahead.mark "<" ts && !Ahead.mark "<=" ts &&
        !Ahead.mark "<<=" ts then
      pure (found, some (← genericArguments g))
    else pure (found, none)

/-- A path from its segments. -/
def PathForm.ofSegments (isQualified isAbsolute : Bool)
    (segments : List (String × Option (List TypeExpr))) : PathForm where
  isQualified := isQualified
  isAbsolute := isAbsolute
  names := segments.map (·.1)
  isPlain := segments.all (·.2.isNone)
  endsPlain := segments.getLast?.all (·.2.isNone)
  arguments := (segments.getLast?.bind (·.2)).getD []

/-- Further segments, as long as a test succeeds behind the last one. -/
def moreSegments (g : Grammar) (inExpression : Bool) (goesOn : List Token → Bool) :
    Parser (List (String × Option (List TypeExpr))) :=
  repeated do
    if ← sees fun ts => Ahead.mark "::" ts && goesOn ts then
      mark "::"
      some <$> pathSegment g inExpression
    else pure none

/-- A path of segments. -/
def unqualifiedPath (g : Grammar) (inExpression : Bool) : Parser PathForm := do
  let isAbsolute ← mark? "::"
  let first ← pathSegment g inExpression
  let more ← moreSegments g inExpression fun ts =>
    !Ahead.group .parenthesis (Ahead.next (Ahead.next ts))
  pure (.ofSegments false isAbsolute (first :: more))

/-- A path that may begin with a type in angle brackets. -/
def path (g : Grammar) (inExpression : Bool) : Parser PathForm := do
  if ← sees (Ahead.mark "<") then
    mark "<"
    let _ ← g.type true
    if ← word? "as" then
      let _ ← unqualifiedPath g false
    mark ">"
    mark "::"
    let first ← pathSegment g inExpression
    let more ← moreSegments g inExpression fun _ => true
    pure (.ofSegments true false (first :: more))
  else unqualifiedPath g inExpression

/-- Whether the arguments of an invoked rule come next. -/
def Ahead.invocation (tokens : List Token) : Bool := mark "!" tokens && !mark "!=" tokens

/-- The arguments of an invoked rule: whether they are in braces. -/
def invocationArguments : Parser Bool := do
  mark "!"
  let (delimiter, _) ← anyGroup
  pure (delimiter == .brace)

end RecordCoding.Source
