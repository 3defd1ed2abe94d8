import RecordCoding.Source.Grammar.Bound

/-!
# Reading types
-/

namespace RecordCoding.Source

open Source.Parser

/-- What is made of the tokens of a type once they are known. -/
abbrev TypeForm := List Token → TypeExpr

/-- Where the name of a calling convention may follow its keyword. -/
def callingConvention : Parser Unit := do
  word "extern"
  if ← sees Ahead.stringLiteral then
    let _ ← literal

/-- A calling convention, if there is one. -/
def callingConvention? : Parser Unit := do
  if ← sees (Ahead.word "extern") then callingConvention

/-- Whether a name with a colon behind it comes next. -/
def Ahead.named (tokens : List Token) : Bool :=
  (name tokens || word "_" tokens) && mark ":" (next tokens)

/-- Whether something that stands for any number of arguments comes next, perhaps with a name. -/
def Ahead.openArguments (tokens : List Token) : Bool :=
  mark "..." tokens || (named tokens && mark "..." (next (next tokens)))

/-- Something that stands for any number of arguments, perhaps with a name. -/
def openArguments : Parser Unit := do
  if ← sees (!Ahead.mark "..." ·) then
    let _ ← anyWord
    mark ":"
  mark "..."
  let _ ← mark? ","

/-- A receiver that can be changed, as the argument of a function type. It is kept as it stands in
the source. -/
def mutableReceiver (g : Grammar) : Parser Unit :=
  verbatim do
    word "mut"
    word "self"
    if ← sees fun ts => Ahead.mark ":" ts && !Ahead.mark "::" ts then
      mark ":"
      let _ ← g.type true

/-- An argument of a function type, which may be named. -/
def functionTypeArgument (g : Grammar) (isFirst : Bool) : Parser Unit := do
  if ← sees fun ts => isFirst && Ahead.word "mut" ts && Ahead.word "self" (Ahead.next ts) then
    mutableReceiver g
  else
    let isNamed ← sees fun ts => !Ahead.mark "::" (Ahead.next ts) && (Ahead.named ts ||
      (isFirst && Ahead.word "self" ts && Ahead.mark ":" (Ahead.next ts)))
    if isNamed then
      let _ ← anyWord
      mark ":"
    let _ ← g.type true

/-- The arguments of a function type. Nothing but a comma may follow three dots. -/
def functionTypeArguments (g : Grammar) : Parser Unit := do
  let _ ← iterate (fun (isFirst, goesOn) => do
    if !goesOn || (← atEnd) then pure none
    else
      let _ ← outerAttributes g
      if ← sees Ahead.openArguments then
        openArguments
        pure (some (false, false))
      else
        functionTypeArgument g isFirst
        if !(← atEnd) then mark ","
        pure (some (false, true))) (true, true)

/-- A function type, behind the parameters it introduces. -/
def functionType (g : Grammar) : Parser Unit := do
  let _ ← word? "unsafe"
  callingConvention?
  word "fn"
  group .parenthesis (functionTypeArguments g)
  let _ ← returnType? g false

/-- Bounds as a type, without a keyword. -/
def boundsType (g : Grammar) : Parser TypeForm := do
  let _ ← word? "dyn"
  let (found, isOpen) ← traitBounds g .ofType true
    "at least one trait is required for an object type"
  pure fun ts => .bounds ts (found.length == 1 && !isOpen)

/-- Further bounds behind a first one. -/
def moreBounds (g : Grammar) : Parser Unit := do
  let _ ← repeated do
    if ← mark? "+" then
      let _ ← g.bound .ofType
      pure (some ())
    else pure none

/-- Whether a type may be the first of several bounds. -/
def TypeExpr.isBound : TypeExpr → Bool
  | path .. => true
  | bounds _ isSingle => isSingle
  | _ => false

/-- What may stand between the parentheses of a type. -/
inductive Enclosed where
  /-- Several types, or none. -/
  | tuple
  /-- A relaxed bound, with which the type does not have to end. -/
  | relaxed
  | single (type : TypeExpr)

/-- The content of a type in parentheses. -/
def enclosed (g : Grammar) : Parser Enclosed := do
  if ← atEnd then pure .tuple
  else if ← sees Ahead.lifetime then
    let (form, tokens) ← recorded (boundsType g)
    pure (.single (.paren tokens (form tokens)))
  else if ← sees (Ahead.mark "?") then
    let _ ← traitBound g .ofType
    pure .relaxed
  else
    let first ← g.type true
    if ← sees (Ahead.mark ",") then
      mark ","
      let _ ← terminated (g.type true) ","
      pure .tuple
    else pure (.single first)

/-- A type in parentheses, or a tuple type. -/
def parenthesizedType (g : Grammar) (admitsPlus : Bool) : Parser TypeForm := do
  match ← group .parenthesis (enclosed g) with
  | .tuple => pure .other
  | .relaxed =>
    moreBounds g
    pure .other
  | .single inner =>
    if admitsPlus && inner.isBound && (← sees (Ahead.mark "+")) then
      moreBounds g
      pure (.bounds · false)
    else pure (.paren · inner)

/-- A type that begins with a path. -/
def pathType (g : Grammar) (admitsPlus introduces : Bool) : Parser TypeForm := do
  let found ← path g false
  if found.isQualified then pure .other
  else if found.isPlain && (← sees Ahead.invocation) then
    let _ ← invocationArguments
    pure .other
  else if introduces || (admitsPlus && (← sees (Ahead.mark "+"))) then
    if ← markIf admitsPlus "+" then
      if ← sees (Ahead.bound .ofType) then
        let _ ← bounds g .ofType true
      pure (.bounds · false)
    else pure (.bounds · true)
  else pure (.path · found.isAbsolute found.names found.arguments)

/-- An array or slice type. -/
def arrayType (g : Grammar) : Parser Unit :=
  group .bracket do
    let _ ← g.type true
    if ← mark? ";" then
      let _ ← g.value

/-- A pointer type. -/
def pointerType (g : Grammar) : Parser Unit := do
  mark "*"
  if !(← word? "const") then
    if !(← word? "mut") then expect ["`const`", "`mut`"]
  let _ ← g.type false

/-- A reference type. -/
def referenceType (g : Grammar) : Parser Unit := do
  mark "&"
  let _ ← lifetime?
  let _ ← word? "mut"
  let _ ← g.type false

/-- A type that is only known by its bounds. -/
def opaqueType (g : Grammar) (admitsPlus : Bool) : Parser Unit := do
  word "impl"
  let _ ← traitBounds g .ofOpaqueType admitsPlus "at least one trait must be specified"

/-- A type of objects behind their bounds. One that says how they are stored is kept as it stands
in the source. -/
def objectType (g : Grammar) (admitsPlus : Bool) : Parser Unit := do
  let _ ← verbatimIf id do
    word "dyn"
    let isStored ← mark? "*"
    let _ ← traitBounds g .ofType admitsPlus "at least one trait is required for an object type"
    pure isStored

/-- Whether a path that begins a type comes next. -/
def Ahead.typePath (tokens : List Token) : Bool :=
  name tokens || pathRoot tokens || word "Self" tokens || mark "::" tokens || mark "<" tokens

/-- Whether a function type comes next. -/
def Ahead.functionType (tokens : List Token) : Bool :=
  word "fn" tokens || word "unsafe" tokens || word "extern" tokens

/-- A type; the flag allows bounds joined by a plus sign. -/
def typeForm (g : Grammar) (admitsPlus : Bool) : Parser TypeForm := do
  let introduces ← introduced? g
  if introduces && !(← sees fun ts => Ahead.name ts || Ahead.functionType ts ||
      Ahead.pathRoot ts || Ahead.word "Self" ts) then
    expect ["identifier", "`fn`", "`unsafe`", "`extern`", "`super`", "`self`", "`Self`", "`crate`"]
  else if ← sees (Ahead.group .parenthesis) then parenthesizedType g admitsPlus
  else if ← sees Ahead.functionType then
    functionType g
    pure .other
  else if ← sees Ahead.typePath then pathType g admitsPlus introduces
  else if ← sees (Ahead.word "dyn") then
    objectType g admitsPlus
    pure .other
  else if ← sees (Ahead.group .bracket) then
    arrayType g
    pure .other
  else if ← sees (Ahead.mark "*") then
    pointerType g
    pure .other
  else if ← sees (Ahead.mark "&") then
    referenceType g
    pure .other
  else if ← mark? "!" then pure .other
  else if ← sees (Ahead.word "impl") then
    opaqueType g admitsPlus
    pure .other
  else if ← word? "_" then pure .other
  else if ← sees Ahead.lifetime then boundsType g
  else
    expect ["`for`", "parentheses", "`fn`", "`unsafe`", "`extern`", "identifier", "`::`", "`<`",
      "`dyn`", "square brackets", "`*`", "`&`", "`!`", "`impl`", "`_`", "lifetime"]

/-- A type with its tokens. -/
def typeIn (g : Grammar) (admitsPlus : Bool) : Parser TypeExpr := do
  let (form, tokens) ← recorded (typeForm g admitsPlus)
  pure (form tokens)

end RecordCoding.Source
