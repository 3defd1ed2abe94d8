import RecordCoding.Source.Grammar.Parameter

/-!
# Reading bounds

Bounds are lifetimes, traits with a few marks around them, and lists of captured parameters. A
bound that is about constants is kept as it stands in the source.
-/

namespace RecordCoding.Source

open Source.Parser

/-- A result type, if there is one. -/
def returnType? (g : Grammar) (admitsPlus : Bool) : Parser Bool := do
  if ← mark? "->" then
    let _ ← g.type admitsPlus
    pure true
  else pure false

/-- The arguments and the result of a path that stands for functions. -/
def functionArguments (g : Grammar) : Parser Unit := do
  let _ ← group .parenthesis (terminated (g.type true) ",")
  let _ ← returnType? g false

/-- The tokens of a path without the empty generic arguments at its end. -/
def withoutEmptyArguments (tokens : List Token) : List Token :=
  match tokens.reverse with
  | .punct '>' _ :: .punct '<' _ :: .punct ':' _ :: .punct ':' _ :: rest => rest.reverse
  | .punct '>' _ :: .punct '<' _ :: rest => rest.reverse
  | _ => tokens

/-- The path of a bound. Arguments of functions may follow it, where it has no others. -/
def boundPath (g : Grammar) : Parser Unit := do
  let (found, tokens) ← capture (unqualifiedPath g false)
  let bare := withoutEmptyArguments tokens
  let isAnnounced ← sees fun ts =>
    Ahead.mark "::" ts && Ahead.group .parenthesis (Ahead.next (Ahead.next ts))
  let hasArguments := isAnnounced || (← sees (Ahead.group .parenthesis))
  if hasArguments && (found.endsPlain || bare.length < tokens.length) then
    emit bare
    if isAnnounced then
      let _ ← capture (mark "::")
    functionArguments g
  else emit tokens

/-- The marks in front of a bound that is about constants, and whether there are any. -/
def constMarks (rules : BoundRules) : Parser Bool := do
  if ← sees (Ahead.group .bracket) then
    group .bracket (word "const")
    if !rules.admitsConst then throw (.refused "`[const]` is not allowed here" false)
    pure true
  else if ← word? "const" then
    if !rules.admitsConst then throw (.refused "`const` is not allowed here" false)
    pure true
  else pure false

/-- A bound that names a trait, and whether it is about constants. One that is relaxed introduces
no parameters. -/
def traitBound (g : Grammar) (rules : BoundRules) : Parser Bool := do
  let introducesFirst ← introduced? g
  let isConst ← constMarks rules
  let isRelaxed ← mark? "?"
  let introduces ← if isRelaxed && !introducesFirst then introduced? g else pure introducesFirst
  boundPath g
  if isRelaxed && introduces then
    throw (.refused "`for<...>` binder not allowed with `?` trait polarity modifier" false)
  pure isConst

/-- The parameters that a type captures, lifetimes first. -/
def capturedParameters : Parser Unit := do
  word "use"
  mark "<"
  let found ← repeated do
    if ← sees (Ahead.mark ">") then pure none
    else
      let isLifetime ← sees Ahead.lifetime
      let ((), tokens) ← capture do
        if isLifetime then lifetime
        else if ← sees fun ts => Ahead.name ts || Ahead.word "Self" ts then
          let _ ← anyWord
        else expect ["lifetime", "identifier", "`>`"]
      let hasComma ← sees (Ahead.mark ",")
      if hasComma then
        let _ ← capture (mark ",")
      else if !(← sees (Ahead.mark ">")) then expect ["`,`", "`>`"]
      pure (some (Entry.mk isLifetime tokens hasComma))
  emit (Entry.listed found)
  mark ">"

/-- One bound. -/
def boundIn (g : Grammar) (rules : BoundRules) : Parser BoundForm := do
  if ← lifetime? then pure .lifetime
  else if ← sees (Ahead.word "use") then
    capturedParameters
    if !rules.admitsCapture then
      throw (.refused "`use<...>` precise capturing syntax is not allowed here" false)
    pure .capture
  else
    let _ ← verbatimIf id do
      if ← sees (Ahead.group .parenthesis) then group .parenthesis (traitBound g rules)
      else traitBound g rules
    pure .trait

/-- Whether a further bound may follow a plus sign. -/
def Ahead.bound (rules : BoundRules) (tokens : List Token) : Bool :=
  anyWord tokens || mark "::" tokens || mark "?" tokens || lifetime tokens ||
    group .parenthesis tokens || (rules.admitsConst && group .bracket tokens)

/-- Bounds joined by plus signs, and whether a plus sign is the last of it. Without permission to
join there is only one. -/
def bounds (g : Grammar) (rules : BoundRules) (admitsPlus : Bool) :
    Parser (List BoundForm × Bool) := do
  let (found, _, isOpen) ← iterate (fun (found, goesOn, _) => do
    if !goesOn then pure none
    else
      let found := found ++ [← g.bound rules]
      if ← markIf admitsPlus "+" then
        let goesOn ← sees (Ahead.bound rules)
        pure (some (found, goesOn, !goesOn))
      else pure (some (found, false, false))) ([], true, false)
  pure (found, isOpen)

/-- Bounds of which at least one names a trait. -/
def traitBounds (g : Grammar) (rules : BoundRules) (admitsPlus : Bool) (complaint : String) :
    Parser (List BoundForm × Bool) := do
  let found ← bounds g rules admitsPlus
  if found.1.contains .trait then pure found else throw (.refused complaint false)

/-- Bounds up to where a test of the tokens in front succeeds, with a plus sign between two of
them and perhaps behind the last. -/
def joinedBounds (g : Grammar) (isEnd : List Token → Bool) : Parser Unit := do
  let _ ← repeated do
    if ← sees isEnd then pure none
    else
      let _ ← g.bound .ofParameter
      if !(← sees isEnd) then mark "+"
      pure (some ())

end RecordCoding.Source
