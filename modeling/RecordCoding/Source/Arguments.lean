import RecordCoding.Source.Reading

/-!
# Arguments of attributes

The arguments of an attribute are items separated by commas, each of them beginning with a path.
What stands behind the path is left to whoever reads the items. Reading stops at the first item
that cannot be read; what the items before it gave is kept.
-/

namespace RecordCoding.Source

open Source.Parser

/-- The attribute that carries directives. -/
def directiveAttribute : String := "codify"

/-- The attribute that asks for generation, and what it has to list for that. -/
def deriveAttribute : String := "derive"

/-- What a declaration lists to ask for generation. -/
def deriveName : String := "Codify"

/-- Items that were read, and why reading stopped, unless it came to the end. -/
structure Harvest (α : Type) where
  found : List α
  refusal : Option SyntaxError
  deriving Repr

namespace Harvest

/-- Items without a refusal. -/
def complete {α : Type} (found : List α) : Harvest α := ⟨found, none⟩

/-- Items, and then what a further reader makes of the tokens in front. -/
def thenReading {α : Type} (found : List α) (p : Parser Unit) : Parser (Harvest α) := do
  match ← attempt p with
  | .ok () => pure (complete found)
  | .error e => pure ⟨found, some e⟩

end Harvest

/-- The path at the beginning of an item; all words may stand in it. -/
def itemPath : Parser PlainPath := do
  let isAbsolute ← mark? "::"
  if ← sees (!Ahead.anyWord ·) then
    if ← atEnd then refuse "expected nested attribute"
    else if ← sees Ahead.literal then
      refuse "unexpected literal in nested attribute, expected ident"
    else refuse "unexpected token in nested attribute, expected ident"
  let first ← anyWord
  let more ← repeated do
    if ← mark? "::" then some <$> anyWord else pure none
  pure ⟨isAbsolute, first :: more⟩

/-- The key that a path stands for. -/
def PlainPath.key (path : PlainPath) : String :=
  match path.single? with
  | some name => unraw name
  | none => TypeExpr.pathText path.isAbsolute path.names

/-- One item: its path, and what stands behind it. -/
def readItem {α : Type} (item : PlainPath → Parser (Harvest α)) : Parser (Harvest α) := do
  match ← attempt itemPath with
  | .error e => pure ⟨[], some e⟩
  | .ok path => item path

/-- Reads items, at most as many as given, each of them apart from the ones before it. -/
def readItems {α : Type} (item : PlainPath → Parser (Harvest α)) : Nat → Parser (Harvest α)
  | 0 => pure (.complete [])
  | bound + 1 => do
    let here ← apart (readItem item)
    if here.refusal.isSome || (← atEnd) then pure here
    else
      match ← attempt (mark ",") with
      | .error e => pure ⟨here.found, some e⟩
      | .ok () =>
        if ← atEnd then pure here
        else
          let rest ← readItems item bound
          pure ⟨here.found ++ rest.found, rest.refusal⟩

/-- Items in parentheses, of which nothing is kept. -/
def enclosedItems : Parser Unit := do
  let _ ← readItems (fun _ => pure (Harvest.complete ([] : List Unit))) (← ahead).length.succ

/-- Passes over items in parentheses. What cannot be read among them does not matter here. -/
def skipItems : Parser Unit := do
  let _ ← attempt (group .parenthesis enclosedItems)

/-- Passes over what may stand behind the path of an item that needs no value. -/
def skipValue (g : Grammar) : Parser Unit := do
  if ← mark? "=" then
    let _ ← g.value
  else if ← sees (Ahead.group .parenthesis) then skipItems

/-- An item with a grammar that is deep enough for what stands behind its path. -/
def withGrammar {α : Type} (item : Grammar → PlainPath → Parser (Harvest α)) (path : PlainPath) :
    Parser (Harvest α) := do
  item (.ofTokens (← ahead)) path

/-- The items among the arguments of an attribute. Tokens that are left in a group are found when
all items have been read. -/
def harvestTokens {α : Type} (item : Grammar → PlainPath → Parser (Harvest α))
    (tokens : List Token) : Harvest α :=
  if tokens.isEmpty then .complete []
  else
    match (readItems (withGrammar item) tokens.length.succ).start ⟨tokens, [], none⟩ with
    | (.error e, _) => ⟨[], some e⟩
    | (.ok harvest, cursor) =>
      ⟨harvest.found, harvest.refusal.or (cursor.leftover.map fun d => .leftover (some d))⟩

/-- The items of an attribute. -/
def Attribute.harvest {α : Type} (attr : Attribute)
    (item : Grammar → PlainPath → Parser (Harvest α)) : Harvest α :=
  let path := attr.name.getD ""
  match attr.body with
  | .nothing =>
    ⟨[], some (.refused ("expected attribute arguments in parentheses: #[" ++ path ++ "(...)]")
      false)⟩
  | .value => ⟨[], some (.refused ("expected parentheses: #[" ++ path ++ "(...)]") false)⟩
  | .arguments tokens => harvestTokens item tokens

/-- Whether an attribute carries directives. -/
def Attribute.isDirective (attr : Attribute) : Bool := attr.name == some directiveAttribute

/-- Whether one of several attributes carries directives. -/
def hasDirectives (attrs : List Attribute) : Bool := attrs.any Attribute.isDirective

/-- The keys of the items of directives, whatever else may be wrong with them. -/
def directiveKeys (attrs : List Attribute) : List String :=
  (attrs.filter Attribute.isDirective).flatMap fun attr =>
    (attr.harvest fun g path => Harvest.thenReading [path.key] (skipValue g)).found

/-- Whether generation is asked for by one of several attributes. -/
def asksForGeneration (attrs : List Attribute) : Bool :=
  (attrs.filter (·.name == some deriveAttribute)).any fun attr =>
    (attr.harvest fun _ path => pure (.complete [path.names.getLast? == some deriveName])).found.any
      id

end RecordCoding.Source
