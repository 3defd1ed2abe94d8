import RecordCoding.Source.Grammar.Basic

/-!
# Reading attributes

`#[path]`, `#[path(…)]` and `#[path = value]`, with any delimiters around the arguments. The
arguments are kept as they are.
-/

namespace RecordCoding.Source

open Source.Parser

/-- A path without arguments: its names, and whether it begins at the root. -/
structure PlainPath where
  isAbsolute : Bool
  names : List String
  deriving Repr, DecidableEq

/-- The name that a path consists of, if it is a single one. -/
def PlainPath.single? (path : PlainPath) : Option String :=
  match path.isAbsolute, path.names with
  | false, [name] => some name
  | _, _ => none

/-- Whether a segment of a plain path comes next. -/
def Ahead.plainSegment (tokens : List Token) : Bool :=
  name tokens || pathRoot tokens || word "Self" tokens

/-- A path without arguments. -/
def plainPath : Parser PlainPath := do
  let isAbsolute ← mark? "::"
  if !(← sees Ahead.plainSegment) then
    let _ ← name
  let first ← anyWord
  let more ← repeated do
    if ← mark? "::" then
      if ← sees Ahead.plainSegment then some <$> anyWord
      else refuse "expected path segment after `::`"
    else pure none
  pure ⟨isAbsolute, first :: more⟩

/-- What follows the path of an attribute. -/
def attributeBody (g : Grammar) : Parser AttributeBody := do
  if ← sees Ahead.anyGroup then
    let (_, tokens) ← anyGroup
    pure (.arguments tokens)
  else if ← sees fun ts => Ahead.mark "=" ts && !Ahead.mark "==" ts && !Ahead.mark "=>" ts then
    mark "="
    if ← sees fun ts => Ahead.mark "#" ts && Ahead.group .bracket (Ahead.next ts) then
      refuse "unexpected attribute inside of attribute"
    else
      let _ ← g.value
      pure .value
  else pure .nothing

/-- The content of the brackets of an attribute. -/
def attributeContent (g : Grammar) : Parser (Option String × AttributeBody) := do
  if ← word? "unsafe" then pure (some "unsafe", ← attributeBody g)
  else
    let path ← plainPath
    pure (path.single?, ← attributeBody g)

/-- An attribute, after the marks in front of it. -/
def attributeAfter (g : Grammar) (marks : Parser Unit) : Parser Attribute := do
  let ((name, body), tokens) ← recorded do
    marks
    group .bracket (attributeContent g)
  pure ⟨name, body, tokens⟩

/-- The attributes in front of what they belong to. -/
def outerAttributes (g : Grammar) : Parser (List Attribute) :=
  whileSees (Ahead.mark "#") (attributeAfter g (mark "#"))

/-- The attributes at the beginning of what they belong to. -/
def innerAttributes (g : Grammar) : Parser (List Attribute) :=
  whileSees (fun ts => Ahead.mark "#" ts && Ahead.mark "!" (Ahead.next ts))
    (attributeAfter g do
      mark "#"
      mark "!")

/-- The tokens of attributes. -/
def attributeTokens (attrs : List Attribute) : List Token := attrs.flatMap (·.tokens)

/-- The statements of a block in braces. -/
def block (g : Grammar) : Parser Unit := group .brace g.statements

/-- The statements of a block in braces, which may begin with attributes of the block. -/
def attributedBlock (g : Grammar) : Parser (List Attribute) :=
  group .brace do
    let attrs ← innerAttributes g
    g.statements
    pure attrs

end RecordCoding.Source
