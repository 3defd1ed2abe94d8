import RecordCoding.Source.Grammar.Member

/-!
# Reading items

An item that is accepted although it lacks a part, or has one that it may not have, is kept as it
stands in the source, with its attributes and its visibility.
-/

namespace RecordCoding.Source

open Source.Parser

/-! ## Traits and implementations -/

/-- The body of a trait, behind its parameters. -/
def traitBody (g : Grammar) : Parser Unit := do
  let _ ← boundsBehindColon (joinedBounds g fun ts =>
    Ahead.word "where" ts || Ahead.group .brace ts)
  let _ ← conditions g
  group .brace do
    let _ ← innerAttributes g
    let _ ← whileSees (!·.isEmpty) (traitMember g)

/-- Another name for bounds, behind its parameters. -/
def traitAlias (g : Grammar) : Parser Unit := do
  mark "="
  joinedBounds g fun ts => Ahead.word "where" ts || Ahead.mark ";" ts
  let _ ← conditions g
  mark ";"

/-- A trait, or without marks in front of its keyword another name for bounds. -/
def traitDeclaration (g : Grammar) : Parser Unit := do
  let isUnsafe ← word? "unsafe"
  let isAuto ← word? "auto"
  word "trait"
  let _ ← name
  let _ ← parameters g
  if isUnsafe || isAuto || (← sees fun ts =>
      Ahead.group .brace ts || Ahead.mark ":" ts || Ahead.word "where" ts) then traitBody g
  else if ← sees (Ahead.mark "=") then traitAlias g
  else expect ["curly braces", "`:`", "`where`", "`=`"]

/-- Whether a trait comes next. -/
def Ahead.trait (tokens : List Token) : Bool :=
  let unmarked := if word "unsafe" tokens then next tokens else tokens
  word "trait" unmarked || (word "auto" unmarked && word "trait" (next unmarked))

/-- The mark of an implementation for constants, if it is there. -/
def constImplementation : Parser Bool := do
  let isMarked ← sees fun ts =>
    Ahead.word "const" ts || (Ahead.mark "?" ts && Ahead.word "const" (Ahead.next ts))
  if isMarked then
    let _ ← mark? "?"
    word "const"
  pure isMarked

/-- Whether a type may be the trait that is implemented. -/
def TypeExpr.isTraitPath : TypeExpr → Bool
  | path .. => true
  | _ => false

/-- An implementation, and whether it is kept as it stands: with a visibility, for constants, or of
what is no trait. -/
def implementation (g : Grammar) : Parser (Item × Bool) := do
  let isVisible ← visibility
  let _ ← word? "default"
  let _ ← word? "unsafe"
  word "impl"
  if ← sees Ahead.parameters then
    let _ ← parameters g
  let isConst ← constImplementation
  let isNegative ← sees fun ts => Ahead.mark "!" ts && !Ahead.group .brace (Ahead.next ts)
  if isNegative then mark "!"
  let type ← g.type true
  let isOfTrait ← word? "for"
  if isOfTrait then
    let _ ← g.type true
  else if isNegative then
    throw (.refused "inherent impls cannot be negative" false)
  let _ ← conditions g
  let members ← group .brace do
    let _ ← innerAttributes g
    whileSees (!·.isEmpty) (implementationMember g)
  if isVisible || isConst || (isOfTrait && !type.isTraitPath) then pure (.other, true)
  else pure (.implementation (members.filterMap id), false)

/-- Whether an implementation comes next. -/
def Ahead.implementation (tokens : List Token) : Bool :=
  word "impl" tokens || (word "default" tokens && !mark "!" (next tokens)) ||
    (word "unsafe" tokens && word "impl" (next tokens))

/-! ## Modules, imports and libraries -/

/-- A module, with its items where they are written in place. -/
def moduleItem (g : Grammar) : Parser Item := do
  let _ ← visibility
  let _ ← word? "unsafe"
  word "mod"
  if !(← word? "try") then
    let _ ← name
  if ← mark? ";" then pure .other
  else if ← sees (Ahead.group .brace) then
    group .brace do
      let _ ← innerAttributes g
      .module <$> whileSees (!·.isEmpty) g.item
  else expect ["`;`", "curly braces"]

/-- Whether a module comes next. -/
def Ahead.module (tokens : List Token) : Bool :=
  word "mod" (if word "unsafe" tokens then next tokens else tokens)

/-- A name or an underscore as another name for something imported. -/
def importedName : Parser Unit := do
  if ← sees fun ts => Ahead.name ts || Ahead.word "_" ts then
    let _ ← anyWord
  else refuse "expected identifier or underscore"

/-- One tree of imported names, and whether one in it begins at the root. That may only be so where
nothing but braces is around it. -/
def importsIn (g : Grammar) (admitsRoot : Bool) : Parser Bool := do
  if ← sees fun ts => Ahead.name ts || Ahead.pathRoot ts || Ahead.word "try" ts then
    let _ ← anyWord
    if ← mark? "::" then g.imports false
    else
      if ← word? "as" then importedName
      pure false
  else if ← mark? "*" then pure false
  else if ← sees (Ahead.group .brace) then
    let rooted ← group .brace (terminated (do
      let isRooted ← markIf admitsRoot "::"
      let below ← g.imports (admitsRoot && !isRooted)
      pure (isRooted || below)) ",")
    pure (rooted.any id)
  else
    expect ["identifier", "`self`", "`super`", "`crate`", "`try`", "`*`", "curly braces"]

/-- Imported names, and whether a tree in braces begins at the root. -/
def importItem (g : Grammar) : Parser Bool := do
  word "use"
  let isRooted ← mark? "::"
  let isIrregular ← g.imports (!isRooted)
  mark ";"
  pure isIrregular

/-- An external library. -/
def externalLibrary : Parser Unit := do
  word "extern"
  word "crate"
  if !(← word? "self") then
    let _ ← name
  if ← word? "as" then
    if !(← word? "_") then
      let _ ← name
  mark ";"

/-- The members of a foreign library. -/
def foreignLibrary (g : Grammar) : Parser Unit := do
  let _ ← word? "unsafe"
  callingConvention
  group .brace do
    let _ ← innerAttributes g
    let _ ← whileSees (!·.isEmpty) (foreignMember g)

/-- What begins with the keyword for external code, in front of a visibility. -/
def externalItem (g : Grammar) : Parser Unit := do
  let behind := Ahead.next (Ahead.withoutVisibility (← ahead))
  if Ahead.word "crate" behind then
    let _ ← visibility
    externalLibrary
  else if Ahead.group .brace behind ||
      (Ahead.stringLiteral behind && Ahead.group .brace (Ahead.next behind)) then foreignLibrary g
  else
    let _ ← visibility
    callingConvention
    if Ahead.stringLiteral behind then expect ["curly braces"]
    else expect ["`crate`", "curly braces", "string literal"]

/-! ## Items of one statement -/

/-- A static variable, and whether it is regular: with a type and a value. -/
def staticItem (g : Grammar) : Parser Bool := do
  word "static"
  let _ ← word? "mut"
  let _ ← name
  let isTyped := !(← sees (Ahead.mark "="))
  if isTyped then
    mark ":"
    let _ ← g.type true
  if ← sees fun ts => isTyped && Ahead.mark ";" ts then
    mark ";"
    pure false
  else
    mark "="
    let _ ← g.value
    mark ";"
    pure isTyped

/-- A rule declared with its own keyword. -/
def ruleDeclaration : Parser Unit := do
  word "macro"
  let _ ← name
  let hasArguments ← sees (Ahead.group .parenthesis)
  if hasArguments then
    let _ ← anyGroup
  if ← sees (Ahead.group .brace) then
    let _ ← anyGroup
  else expect ((if hasArguments then [] else ["parentheses"]) ++ ["curly braces"])

/-- Whether a type declaration comes next. -/
def Ahead.typeKeyword? (tokens : List Token) : Option TypeKeyword :=
  if word "struct" tokens then some .struct
  else if word "enum" tokens then some .enumeration
  else if word "union" tokens && name (next tokens) then some .union
  else none

/-- The words that begin an item. -/
def itemKeywords : List String :=
  ["fn", "extern", "use", "static", "const", "unsafe", "mod", "type", "struct", "enum", "union",
    "trait", "auto", "impl", "default", "macro"]

/-- An item of which nothing is needed, behind its visibility, and whether it is kept as it
stands. -/
def plainItem (g : Grammar) (isVisible : Bool) : Parser Bool := do
  if ← sees (Ahead.word "use") then importItem g
  else if ← sees (Ahead.word "static") then return !(← staticItem g)
  else if ← word? "const" then return !(← constant g).isRegular
  else if ← word? "type" then
    let form ← typeAlias g .beforeType
    pure (form.isBounded || !form.hasType)
  else if ← sees Ahead.trait then
    traitDeclaration g
    pure false
  else if ← word? "unsafe" then expectUnmet (keywords ["trait", "auto", "impl", "extern", "mod"])
  else if ← sees (Ahead.word "macro") then
    ruleDeclaration
    pure true
  else if ← sees fun ts => !isVisible && Ahead.invokedItem ts then
    invokedItem
    pure false
  else expectMember (keywords itemKeywords) isVisible

/-! ## Items -/

/-- A function as an item, and whether it is kept as it stands because it lacks its body. -/
def functionItem (g : Grammar) (attrs : List Attribute) : Parser (Item × Bool) := do
  let _ ← visibility
  let form ← signature g false
  if ← mark? ";" then pure (.other, true)
  else pure (.function ⟨attrs ++ (← functionBody g), form.name⟩, false)

/-- An item behind its attributes, and whether it is kept as it stands. -/
def itemBehind (g : Grammar) (attrs : List Attribute) : Parser (Item × Bool) := do
  let inner := Ahead.withoutVisibility (← ahead)
  if Ahead.function false inner then functionItem g attrs
  else if let some keyword := Ahead.typeKeyword? inner then
    let (_, seen) ← recorded visibility
    pure (.type (← typeDeclaration g keyword attrs seen), false)
  else if Ahead.word "extern" inner then
    externalItem g
    pure (.other, false)
  else if Ahead.word "unsafe" inner && Ahead.word "extern" (Ahead.next inner) then
    foreignLibrary g
    pure (.other, false)
  else if Ahead.module inner then pure (← moduleItem g, false)
  else if Ahead.implementation inner then implementation g
  else
    let isVisible ← visibility
    pure (.other, ← plainItem g isVisible)

/-- An item. -/
def itemIn (g : Grammar) : Parser Item := do
  let (item, _) ← verbatimIf (·.2) do itemBehind g (← outerAttributes g)
  pure item

end RecordCoding.Source
