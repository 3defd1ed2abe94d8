import RecordCoding.Source.Grammar.Statement

/-!
# Reading whole texts

The levels of the grammar are put on top of one another, as many as the tokens can make use of,
and a text is read as a type, an expression, a name, the declaration of a type, or a file.
-/

namespace RecordCoding.Source

/-- The grammar of texts that are nested up to a depth. -/
def Grammar.ofDepth : Nat → Grammar
  | 0 => .nothing
  | depth + 1 =>
    let g := ofDepth depth
    { type := typeIn g
      bound := boundIn g
      expression := expressionIn g
      operand := operandIn g
      leading := leadingIn g
      operators := operatorsIn g
      pattern := patternIn g
      statements := statementsIn g
      item := itemIn g
      fields := fieldsIn g
      imports := importsIn g }

/-- A grammar deep enough for certain tokens: no token adds more than a few levels. -/
def Grammar.ofTokens (tokens : List Token) : Grammar := ofDepth (4 * Token.weightOfAll tokens + 8)

/-- Reads all tokens of a list with a part of the grammar; what was read, with its tokens. -/
def readTokens {α : Type} (part : Grammar → Parser α) (tokens : List Token) :
    Except SyntaxError (α × List Token) :=
  (part (.ofTokens tokens)).readAll tokens

/-- Reads a whole text with a part of the grammar; what was read, with its tokens. -/
def readText {α : Type} (part : Grammar → Parser α) (text : String) :
    Except SyntaxError (α × List Token) :=
  match tokenize? text with
  | some tokens => readTokens part tokens
  | none => .error .unlexable

/-- The type in a text. -/
def readType (text : String) : Except SyntaxError TypeExpr :=
  (readText (·.type true) text).map (·.1)

/-- The expression in a text, with its tokens. -/
def readExpression (text : String) : Except SyntaxError (ExpressionForm × List Token) :=
  readText (·.value) text

/-- The name in a text. -/
def readName (text : String) : Except SyntaxError String :=
  (readText (fun _ => Parser.name) text).map (·.1)

/-- The declaration of a type in a text. -/
def readTypeItem (text : String) : Except SyntaxError TypeItem := (readText typeItem text).map (·.1)

/-- A file without the line at its beginning that names a program to run it with. Attributes of
the file begin alike, but go on with a bracket. -/
def withoutRunLine (chars : List Char) : List Char :=
  match chars with
  | '#' :: '!' :: rest =>
    if Lexer.startsWith "[" (Lexer.skipBlanks rest.length rest) then chars
    else chars.dropWhile (· != '\n')
  | _ => chars

/-- The items of a file, up to its end. -/
def fileItems (g : Grammar) : Parser (List Item) := do
  let _ ← innerAttributes g
  Parser.whileSees (!·.isEmpty) g.item

/-- The items in the text of a file. -/
def readFile (text : String) : Except SyntaxError (List Item) :=
  let content := withoutRunLine (Lexer.withoutMark text.toList)
  (readText fileItems (String.ofList content)).map (·.1)

end RecordCoding.Source
