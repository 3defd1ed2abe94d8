import RecordCoding.Source.Grammar.Path

/-!
# Reading generic parameters

The generic parameters of an item, those that a type introduces for itself, and the conditions on
them. An item has its lifetimes written in front of its other parameters. A list without parameters,
a keyword without conditions and a colon without bounds are not written.
-/

namespace RecordCoding.Source

open Source.Parser

/-! ## Parameters -/

/-- Lifetimes joined by plus signs, up to where a test of the tokens in front succeeds. -/
def lifetimesUntil (isEnd : List Token → Bool) : Parser Unit := do
  let _ ← iterate (fun goesOn => do
    if !goesOn || (← sees isEnd) then pure none
    else
      lifetime
      some <$> mark? "+") true

/-- The tokens of the bounds behind a colon, if there are any. -/
def boundsBehindColon (p : Parser Unit) : Parser (List Token) := do
  if ← sees (Ahead.mark ":") then
    let _ ← capture (mark ":")
    let ((), bounds) ← capture p
    if !bounds.isEmpty then emit (.punct ':' false :: bounds)
    pure bounds
  else pure []

/-- Where the bounds of a parameter end. -/
def Ahead.endOfBounds (tokens : List Token) : Bool :=
  tokens.isEmpty || mark "," tokens || mark ">" tokens

/-- A lifetime as a parameter, given its attributes. -/
def lifetimeParameter (attrs : List Token) : Parser Parameter := do
  let ((), name) ← recorded lifetime
  let bounds ← boundsBehindColon (lifetimesUntil Ahead.endOfBounds)
  pure ⟨.lifetime, attrs, name, bounds, false⟩

/-- A type as a parameter, given its attributes. -/
def typeParameter (g : Grammar) (attrs : List Token) : Parser Parameter := do
  let name ← name
  let bounds ← boundsBehindColon (boundsUntil g .ofParameter fun ts =>
    Ahead.endOfBounds ts || Ahead.mark "=" ts)
  if ← mark? "=" then
    let _ ← g.type true
  pure ⟨.type, attrs, [.ident name], bounds, false⟩

/-- A constant as a parameter, given its attributes. -/
def constParameter (g : Grammar) (attrs : List Token) : Parser Parameter := do
  word "const"
  let name ← name
  mark ":"
  let type ← g.type true
  if ← mark? "=" then constArgument g
  pure ⟨.const, attrs, [.ident name], type.tokens, false⟩

/-- A parameter of an item, without the comma behind it. -/
def parameter (g : Grammar) : Parser Parameter := do
  let attrs := attributeTokens (← outerAttributes g)
  if ← sees Ahead.lifetime then lifetimeParameter attrs
  else if ← sees Ahead.name then typeParameter g attrs
  else if ← sees (Ahead.word "const") then constParameter g attrs
  else if ← word? "_" then pure ⟨.type, attrs, [.ident "_"], [], false⟩
  else expect ["lifetime", "identifier", "`const`"]

/-- Items between angle brackets, separated by commas; each with whether a comma follows. -/
def bracketedList {α : Type} (item : Parser α) : Parser (List (α × Bool)) := do
  mark "<"
  let found ← repeated do
    if ← sees (Ahead.mark ">") then pure none
    else
      let a ← item
      let hasComma := !(← sees (Ahead.mark ">"))
      if hasComma then mark ","
      pure (some (a, hasComma))
  mark ">"
  pure found

/-- The parameters of an item, if there are any. -/
def parameters (g : Grammar) : Parser (List Parameter) := do
  if ← sees (Ahead.mark "<") then
    let (found, _) ← capture (bracketedList (capture (parameter g)))
    if !found.isEmpty then
      emit (Entry.bracketed (found.map fun ((p, tokens), hasComma) =>
        ⟨p.kind == .lifetime, tokens, hasComma⟩))
    pure (found.map fun ((p, _), hasComma) => { p with hasComma })
  else pure []

/-- Whether parameters rather than a type in angle brackets come next. -/
def Ahead.parameters (tokens : List Token) : Bool :=
  let second := next tokens
  let third := next second
  mark "<" tokens && (mark ">" second || mark "#" second || word "const" second ||
    ((lifetime second || name second) && (mark ">" third || mark "," third ||
      (mark ":" third && !mark "::" third) || mark "=" third)))

/-! ## Introduced parameters -/

/-- A parameter that a type, bound or closure introduces for itself. -/
def introducedParameter (g : Grammar) : Parser Unit := do
  let attrs := attributeTokens (← outerAttributes g)
  let _ ←
    if ← sees Ahead.name then typeParameter g attrs
    else if ← sees Ahead.lifetime then lifetimeParameter attrs
    else if ← sees (Ahead.word "const") then constParameter g attrs
    else expect ["identifier", "lifetime", "`const`"]

/-- The parameters that a type, bound or closure introduces for itself, if it does. -/
def introduced? (g : Grammar) : Parser Bool := do
  if ← word? "for" then
    let _ ← bracketedList (introducedParameter g)
    pure true
  else pure false

/-! ## Conditions -/

/-- Where the conditions on generic parameters end. -/
def Ahead.endOfConditions (tokens : List Token) : Bool :=
  tokens.isEmpty || group .brace tokens || mark "," tokens || mark ";" tokens ||
    (mark ":" tokens && !mark "::" tokens) || mark "=" tokens

/-- A condition on generic parameters. -/
def condition (g : Grammar) : Parser Unit := do
  if ← sees fun ts => Ahead.lifetime ts && Ahead.mark ":" (Ahead.next ts) then
    lifetime
    mark ":"
    lifetimesUntil fun ts => Ahead.endOfConditions ts || Ahead.mark ":" ts
  else
    let _ ← introduced? g
    let _ ← g.type true
    mark ":"
    boundsUntil g .ofParameter Ahead.endOfConditions

/-- The conditions on generic parameters, if there are any. -/
def conditions (g : Grammar) : Parser (List Predicate) := do
  let (found, tokens) ← capture do
    if ← word? "where" then
      let (found, _) ← iterate (fun (found, goesOn) => do
        if !goesOn || (← sees Ahead.endOfConditions) then pure none
        else
          let ((), tokens) ← recorded (condition g)
          let hasComma ← mark? ","
          pure (some (found ++ [Predicate.mk tokens hasComma], hasComma))) ([], true)
      pure found
    else pure []
  if !found.isEmpty then emit tokens
  pure found

end RecordCoding.Source
