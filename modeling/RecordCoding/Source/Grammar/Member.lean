import RecordCoding.Source.Grammar.Function

/-!
# Reading the members of traits, implementations and foreign libraries

A member that its place does not allow for is accepted all the same, and kept as it stands in the
source.
-/

namespace RecordCoding.Source

open Source.Parser

/-- Refuses a member that begins with none of the keywords; an invocation may only come without
marks in front of it. -/
def expectMember {α : Type} (beginnings : List (String × (List Token → Bool)))
    (isMarked : Bool) : Parser α :=
  expectUnmet (beginnings ++ if isMarked then [] else invocationBeginnings)

/-! ## Traits -/

/-- A constant of a trait, and whether it is generic. -/
def traitConstant (g : Grammar) : Parser Bool := do
  let behind := Ahead.next (← ahead)
  if ["async", "unsafe", "extern", "fn"].any (Ahead.word · behind) then
    let _ ← signature g false
    pure false
  else
    word "const"
    if Ahead.constantName behind then pure (← constant g).isGeneric
    else expect ["identifier", "`_`", "`async`", "`unsafe`", "`extern`", "`fn`"]

/-- A function of a trait, which may lack its body. -/
def traitFunction (g : Grammar) : Parser Unit := do
  let _ ← signature g false
  if ← sees (Ahead.group .brace) then
    let _ ← functionBody g
  else if !(← mark? ";") then expect ["curly braces", "`;`"]

/-- A member of a trait. It is kept as it stands if it has a visibility or is a default, or if it is
a generic constant. -/
def traitMember (g : Grammar) : Parser Unit := do
  let _ ← verbatimIf id do
    let _ ← outerAttributes g
    let isVisible ← visibility
    let isDefault ← word? "default"
    let isMarked := isVisible || isDefault
    if ← sees (Ahead.function false) then
      traitFunction g
      pure isMarked
    else if ← sees (Ahead.word "const") then
      let isGeneric ← traitConstant g
      pure (isMarked || isGeneric)
    else if ← word? "type" then
      let _ ← typeAlias g .behindType
      pure isMarked
    else if ← sees fun ts => !isMarked && Ahead.invokedItem ts then
      invokedItem
      pure false
    else expectMember (keywords ["fn", "const", "type"]) isMarked

/-! ## Implementations -/

/-- A function of an implementation, behind its visibility; none if it lacks its body. -/
def implementationFunction (g : Grammar) (attrs : List Attribute) : Parser (Option Callable) := do
  let form ← signature g false
  if ← mark? ";" then pure none
  else pure (some ⟨attrs ++ (← functionBody g), form.name⟩)

/-- A member of an implementation, if it is a method with a body. It is kept as it stands if it
lacks its body, value or type, or if it is bounded or a generic constant. -/
def implementationMember (g : Grammar) : Parser (Option Callable) := do
  let (method, _) ← verbatimIf (·.2) do
    let attrs ← outerAttributes g
    let isVisible ← visibility
    let isDefault ← sees fun ts => Ahead.word "default" ts && !Ahead.mark "!" (Ahead.next ts)
    if isDefault then word "default"
    let isMarked := isVisible || isDefault
    if ← sees (Ahead.function false) then
      let method ← implementationFunction g attrs
      pure (method, method.isNone)
    else if ← word? "const" then
      let form ← constant g
      pure (none, !form.isRegular)
    else if ← word? "type" then
      let form ← typeAlias g .behindType
      pure (none, form.isBounded || !form.hasType)
    else if ← sees fun ts => !isMarked && Ahead.invokedItem ts then
      invokedItem
      pure (none, false)
    else
      expectMember (keywords ((if isDefault then [] else ["default"]) ++ ["fn", "const", "type"]))
        isMarked
  pure method

/-! ## Foreign libraries -/

/-- Whether a static variable comes next, perhaps with a word on its safety in front of it. -/
def Ahead.foreignStatic (tokens : List Token) : Bool :=
  word "static" tokens ||
    ((word "unsafe" tokens || word "safe" tokens) && word "static" (next tokens))

/-- A static variable of a foreign library, and whether it is regular: without a value and without
a word on its safety. -/
def foreignStatic (g : Grammar) : Parser Bool := do
  let isUnmarked ← sees (Ahead.word "static")
  if !isUnmarked then
    let _ ← anyWord
  word "static"
  let _ ← word? "mut"
  let _ ← name
  mark ":"
  let _ ← g.type true
  let hasValue ← mark? "="
  if hasValue then
    let _ ← g.value
  mark ";"
  pure (isUnmarked && !hasValue)

/-- A function of a foreign library, and whether it is regular: without a body and not declared to
be safe. -/
def foreignFunction (g : Grammar) : Parser Bool := do
  let form ← signature g true
  if ← sees (Ahead.group .brace) then
    let _ ← functionBody g
    pure false
  else
    mark ";"
    pure (!form.isSafe)

/-- A member of a foreign library. -/
def foreignMember (g : Grammar) : Parser Unit := do
  let _ ← verbatimIf (!·) do
    let _ ← outerAttributes g
    let isVisible ← visibility
    if ← sees (Ahead.function true) then foreignFunction g
    else if ← sees Ahead.foreignStatic then foreignStatic g
    else if ← word? "type" then
      let form ← typeAlias g .anywhere
      pure (!form.isBounded && !form.hasType)
    else if ← sees fun ts => !isVisible && Ahead.invokedItem ts then
      invokedItem
      pure true
    else expectMember (keywords ["fn", "static", "type"]) isVisible

end RecordCoding.Source
