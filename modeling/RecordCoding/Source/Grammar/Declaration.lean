import RecordCoding.Source.Grammar.Expression

/-!
# Reading type declarations

Visibility, fields, variants, and the declarations of types that consist of them.
-/

namespace RecordCoding.Source

open Source.Parser

/-! ## Visibility -/

/-- Whether a group that restricts visibility comes next. The words are only taken for a
restriction where nothing else is in the group. -/
def Ahead.restriction : List Token → Bool
  | .group .parenthesis (.ident "in" :: _) :: _ => true
  | .group .parenthesis [.ident found] :: _ => ["crate", "self", "super"].contains found
  | _ => false

/-- Who may see an item, and whether anything is said about it. -/
def visibility : Parser Bool := do
  if ← word? "pub" then
    if ← sees Ahead.restriction then
      group .parenthesis do
        if ← word? "in" then
          let _ ← plainPath
        else
          let _ ← anyWord
    pure true
  else pure false

/-- The tokens in front, without the visibility they may begin with. -/
def Ahead.withoutVisibility (tokens : List Token) : List Token :=
  if word "pub" tokens then
    let behind := next tokens
    if restriction behind then next behind else behind
  else tokens

/-! ## Fields -/

/-- Whether the type of a field that is named by an underscore is declared in place. -/
def Ahead.typeInPlace (tokens : List Token) : Bool :=
  word "struct" tokens || (word "union" tokens && group .brace (next tokens))

/-- A named field. It may be named by an underscore; a type that is declared in place is then kept
as it stands in the source. -/
def namedField (g : Grammar) : Parser SourceField := do
  let attrs ← outerAttributes g
  let _ ← visibility
  let isUnnamed ← sees (Ahead.word "_")
  let name ← if isUnnamed then anyWord else name
  mark ":"
  if ← sees fun ts => isUnnamed && Ahead.typeInPlace ts then
    let (_, tokens) ← recorded (verbatim do
      let _ ← anyWord
      g.fields)
    pure ⟨attrs, some name, .other tokens⟩
  else pure ⟨attrs, some name, ← g.type true⟩

/-- A field without a name. -/
def unnamedField (g : Grammar) : Parser SourceField := do
  let attrs ← outerAttributes g
  let _ ← visibility
  pure ⟨attrs, none, ← g.type true⟩

/-- Named fields in braces. -/
def fieldsIn (g : Grammar) : Parser (List SourceField) :=
  group .brace (terminated (namedField g) ",")

/-- Fields without names in parentheses. -/
def unnamedFields (g : Grammar) : Parser (List SourceField) :=
  group .parenthesis (terminated (unnamedField g) ",")

/-- A variant of an enumeration. A visibility in front of it is not written. -/
def variant (g : Grammar) : Parser Variant := do
  let attrs ← outerAttributes g
  let _ ← capture visibility
  let name ← name
  if ← sees (Ahead.group .brace) then
    let _ ← g.fields
  else if ← sees (Ahead.group .parenthesis) then
    let _ ← unnamedFields g
  if ← mark? "=" then
    let _ ← g.value
  pure ⟨attrs, name⟩

/-! ## Declarations -/

/-- The body of a struct, and the conditions on its parameters. -/
def structBody (g : Grammar) : Parser (List Predicate × TypeBody) := do
  let isConditional ← sees (Ahead.word "where")
  let before ← conditions g
  if ← sees fun ts => !isConditional && Ahead.group .parenthesis ts then
    let fields ← unnamedFields g
    let isConditional ← sees (Ahead.word "where")
    let behind ← conditions g
    if ← mark? ";" then pure (behind, .tuple fields)
    else if isConditional then expect ["`;`"]
    else expect ["`where`", "`;`"]
  else if ← sees (Ahead.group .brace) then pure (before, .named (← g.fields))
  else if ← mark? ";" then pure (before, .unit)
  else if isConditional then expect ["curly braces", "`;`"]
  else expect ["`where`", "parentheses", "curly braces", "`;`"]

/-- What a type declaration begins with. -/
inductive TypeKeyword where
  | struct
  | enumeration
  | union

/-- The word for the beginning of a type declaration. -/
def TypeKeyword.text : TypeKeyword → String
  | struct => "struct"
  | enumeration => "enum"
  | union => "union"

/-- A type declaration after its attributes and visibility. -/
def typeDeclaration (g : Grammar) (keyword : TypeKeyword) (attrs : List Attribute)
    (visibility : List Token) : Parser TypeItem := do
  word keyword.text
  let name ← name
  let parameters ← parameters g
  match keyword with
  | .struct =>
    let (predicates, body) ← structBody g
    pure ⟨attrs, visibility, name, ⟨parameters, predicates⟩, body⟩
  | .enumeration =>
    let predicates ← conditions g
    let variants ← group .brace (terminated (variant g) ",")
    pure ⟨attrs, visibility, name, ⟨parameters, predicates⟩, .enumeration variants⟩
  | .union =>
    let predicates ← conditions g
    let _ ← g.fields
    pure ⟨attrs, visibility, name, ⟨parameters, predicates⟩, .union⟩

/-- A type declaration. -/
def typeItem (g : Grammar) : Parser TypeItem := do
  let attrs ← outerAttributes g
  let (_, seen) ← recorded visibility
  if ← sees (Ahead.word "struct") then typeDeclaration g .struct attrs seen
  else if ← sees (Ahead.word "enum") then typeDeclaration g .enumeration attrs seen
  else if ← sees (Ahead.word "union") then typeDeclaration g .union attrs seen
  else expect ["`struct`", "`enum`", "`union`"]

end RecordCoding.Source
