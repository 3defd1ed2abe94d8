import RecordCoding.Diagnostic
import RecordCoding.Expansion.Phrase
import RecordCoding.Source.Literal
import RecordCoding.Source.Reading

/-!
# Obstacles to writing code

Names, types and expressions are brought into generated code as text, and a text may turn out not
to be what it has to be. Such a defect is reported as an internal error in place of the code. A
field whose name is no identifier, not even a raw one, has no code and no report either.
-/

namespace RecordCoding.Expansion

open Source

/-- What is wrong with a text that has to go into generated code. -/
inductive Defect where
  | tableName (name : String)
  | expression (field : String) (cause : SyntaxError)
  | type (text : String) (cause : SyntaxError)
  deriving Repr, DecidableEq

namespace Defect

/-- The words for a defect. -/
def message : Defect → String
  | tableName name => "key table name `" ++ name ++ "` is not a valid identifier"
  | expression field cause =>
    "default value for `" ++ field ++ "` is not a valid expression: " ++ cause.message
  | type text cause => "type `" ++ text ++ "` cannot be rendered: " ++ cause.message

/-- The report of a defect. -/
def diagnostic (defect : Defect) : Diagnostic := .onType (.internal defect.message)

end Defect

/-- A name for which there is no identifier. -/
structure UnwritableName where
  name : String
  deriving Repr, DecidableEq

/-- Why code is not written. -/
inductive Obstacle where
  | defect (defect : Defect)
  | unwritable (name : UnwritableName)
  deriving Repr, DecidableEq

/-- The identifier for a field, which is written raw where the name is a reserved word. -/
def fieldIdentifier (name : String) : Except Obstacle String :=
  match tokenize? name with
  | some [.ident word] =>
    if isName word then .ok word
    else if neverRawWords.contains word then .error (.unwritable ⟨name⟩)
    else .ok ("r#" ++ word)
  | _ => .error (.unwritable ⟨name⟩)

/-- The identifier for a key table. -/
def tableIdentifier (name : String) : Except Obstacle String :=
  (readName name).mapError fun _ => .defect (.tableName name)

/-- The tokens of a field type. -/
def typeTokens (type : FieldType) : Except Obstacle (List Token) :=
  match readType type.text with
  | .ok written => .ok written.tokens
  | .error cause => .error (.defect (.type type.text cause))

/-- The tokens of a fallback value. A string literal is converted to what the field holds. -/
def fallbackTokens (field text : String) : Except Obstacle (List Token) :=
  match readExpression text with
  | .error cause => .error (.defect (.expression field cause))
  | .ok (.literal (some written), tokens) =>
    if (Literal.string? written).isSome then
      .ok (phrase ":: core :: convert :: Into :: into" ++ [parens [.literal written]])
    else .ok tokens
  | .ok (_, tokens) => .ok tokens

end RecordCoding.Expansion
