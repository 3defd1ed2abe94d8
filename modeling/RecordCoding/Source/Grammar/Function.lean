import RecordCoding.Source.Grammar.Declaration

/-!
# Reading functions, constants and type aliases

The parts that items of files, traits, implementations and foreign libraries have in common. What
may be left out, and whether an item is then kept as it stands in the source, depends on where it
stands; so each of these readers says what it found.
-/

namespace RecordCoding.Source

open Source.Parser

/-! ## Functions -/

/-- Whether a function comes next, behind the words that may stand in front of it. -/
def Ahead.function (admitsSafe : Bool) (tokens : List Token) : Bool :=
  let pass (expected : String) (ts : List Token) := if word expected ts then next ts else ts
  let unmarked := pass "async" (pass "const" tokens)
  let behind := if admitsSafe && word "safe" unmarked then next unmarked else pass "unsafe" unmarked
  let plain :=
    if word "extern" behind then
      if stringLiteral (next behind) then next (next behind) else next behind
    else behind
  word "fn" plain

/-- The receiver of a method. -/
def receiver (g : Grammar) : Parser Unit := do
  let isReference ← mark? "&"
  if isReference then
    let _ ← lifetime?
  let _ ← word? "mut"
  word "self"
  if ← markIf (!isReference) ":" then
    let _ ← g.type true

/-- Whether the receiver of a method comes next. With a colon behind it, it may also be the name of
an open end, or the beginning of a path. -/
def Ahead.receiver (tokens : List Token) : Bool :=
  let isReference := mark "&" tokens
  let marked := if isReference then next tokens else tokens
  let changed := if isReference && lifetime marked then next marked else marked
  let unmarked := if word "mut" changed then next changed else changed
  let behind := next unmarked
  word "self" unmarked && (isReference || !mark ":" behind ||
    ((!mark "::" behind || mark ":::" behind) && !mark "..." (next behind)))

/-- What an argument of a function is. -/
inductive ArgumentForm where
  | receiver
  | typed
  /-- Any number of further arguments. -/
  | openEnded
  deriving Repr, DecidableEq

/-- An argument that is no receiver. A type with generic arguments may stand without a name. -/
def typedArgument (g : Grammar) : Parser ArgumentForm := do
  if ← sees fun ts => Ahead.name ts && Ahead.mark "<" (Ahead.next ts) then
    emit [.ident "_", .punct ':' false]
    let _ ← g.type true
    pure .typed
  else
    let _ ← g.pattern
    mark ":"
    if ← mark? "..." then pure .openEnded
    else
      let _ ← g.type true
      pure .typed

/-- An argument of a function. -/
def functionArgument (g : Grammar) : Parser ArgumentForm := do
  let _ ← outerAttributes g
  if ← mark? "..." then pure .openEnded
  else if ← sees Ahead.receiver then
    receiver g
    pure .receiver
  else typedArgument g

/-- The arguments of a function. A receiver is the first of them, and nothing but a comma may
follow an open end. -/
def functionParameters (g : Grammar) : Parser Unit := do
  let _ ← iterate (fun found => do
    if (← atEnd) || found.head? = some .openEnded then pure none
    else
      let form ← functionArgument g
      if form = .receiver then
        if found.contains .receiver then
          throw (.refused "unexpected second method receiver" false)
        if !found.isEmpty then throw (.refused "unexpected method receiver" false)
      if !(← atEnd) then mark ","
      pure (some (form :: found))) ([] : List ArgumentForm)

/-- What has to be known about the signature of a function. -/
structure Signature where
  name : String
  /-- Whether the function is declared to be safe. -/
  isSafe : Bool
  deriving Repr

/-- The signature of a function. -/
def signature (g : Grammar) (admitsSafe : Bool) : Parser Signature := do
  let _ ← word? "const"
  let _ ← word? "async"
  let isUnsafe ← word? "unsafe"
  let isSafe ← sees fun ts => admitsSafe && !isUnsafe && Ahead.word "safe" ts
  if isSafe then word "safe"
  callingConvention?
  word "fn"
  let name ← name
  let _ ← parameters g
  group .parenthesis (functionParameters g)
  let _ ← returnType? g true
  let _ ← conditions g
  pure ⟨name, isSafe⟩

/-- The body of a function; the attributes at its beginning. -/
def functionBody (g : Grammar) : Parser (List Attribute) := attributedBlock g

/-! ## Constants and type aliases -/

/-- Whether the name of a constant comes next, which may be an underscore. -/
def Ahead.constantName (tokens : List Token) : Bool := name tokens || word "_" tokens

/-- What has to be known about a constant. -/
structure ConstantForm where
  hasValue : Bool
  /-- Whether there are parameters or conditions on them. -/
  isGeneric : Bool
  deriving Repr

/-- Whether a constant has a value and nothing that it may not have. -/
def ConstantForm.isRegular (form : ConstantForm) : Bool := form.hasValue && !form.isGeneric

/-- A constant behind its keyword. -/
def constant (g : Grammar) : Parser ConstantForm := do
  if ← sees Ahead.constantName then
    let _ ← anyWord
  else expect ["identifier", "`_`"]
  let isParameterized ← sees (Ahead.mark "<")
  let _ ← parameters g
  mark ":"
  let _ ← g.type true
  let hasValue ← mark? "="
  if hasValue then
    let _ ← g.value
  let isConditional ← sees (Ahead.word "where")
  let _ ← conditions g
  mark ";"
  pure ⟨hasValue, isParameterized || isConditional⟩

/-- Where the conditions of a type alias may stand. -/
inductive ConditionPlace where
  | beforeType
  | behindType
  | anywhere
  deriving Repr, DecidableEq

/-- What has to be known about a type alias. -/
structure AliasForm where
  isBounded : Bool
  hasType : Bool
  deriving Repr

/-- A type alias behind its keyword. -/
def typeAlias (g : Grammar) (place : ConditionPlace) : Parser AliasForm := do
  let _ ← name
  let _ ← parameters g
  let isBounded ← sees (Ahead.mark ":")
  let _ ← boundsBehindColon (joinedBounds g fun ts =>
    Ahead.word "where" ts || Ahead.mark "=" ts || Ahead.mark ";" ts)
  let isConditional ← sees fun ts => place ≠ .behindType && Ahead.word "where" ts
  if isConditional then
    let _ ← conditions g
  let hasType ← mark? "="
  if hasType then
    let _ ← g.type true
  if place ≠ .beforeType && !isConditional then
    let _ ← conditions g
  mark ";"
  pure ⟨isBounded, hasType⟩

/-! ## Invocations -/

/-- The invocation of a rule as an item. Without braces a semicolon has to follow. -/
def invokedItem : Parser Unit := do
  let _ ← plainPath
  mark "!"
  if ← sees fun ts => Ahead.name ts || Ahead.word "try" ts then
    let _ ← anyWord
  let (delimiter, _) ← anyGroup
  if delimiter ≠ .brace then mark ";"

/-- The beginnings of an item that is an invocation. -/
def invocationBeginnings : List (String × (List Token → Bool)) :=
  [("identifier", Ahead.name), ("`self`", Ahead.word "self"), ("`super`", Ahead.word "super"),
    ("`crate`", Ahead.word "crate"), ("`::`", Ahead.mark "::")]

/-- Whether an item that is an invocation may come next. -/
def Ahead.invokedItem (tokens : List Token) : Bool :=
  invocationBeginnings.any fun (_, test) => test tokens

/-- Words that begin an item, as alternatives. -/
def keywords (words : List String) : List (String × (List Token → Bool)) :=
  words.map fun found => ("`" ++ found ++ "`", Ahead.word found)

end RecordCoding.Source
