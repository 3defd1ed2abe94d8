import RecordCoding.Source.Token

/-!
# Syntax errors

Why tokens do not have the form that was asked for. An error found where the tokens end says so.
-/

namespace RecordCoding.Source

/-- A cause of refusal. -/
inductive SyntaxError where
  /-- The text has no tokens. -/
  | unlexable
  /-- A piece of punctuation is missing. -/
  | missing (mark : String)
  /-- None of the alternatives follows. -/
  | expected (alternatives : List String) (atEnd : Bool)
  /-- A reserved word stands where a name is needed. -/
  | reserved (word : String)
  /-- Tokens are left over in a group, or after everything. -/
  | leftover (delimiter : Option Delimiter)
  /-- A rule that is not about the next token alone is broken. -/
  | refused (rule : String) (atEnd : Bool)
  deriving Repr, DecidableEq

namespace SyntaxError

/-- A message about the next token. -/
def located (atEnd : Bool) (message : String) : String :=
  if atEnd then "unexpected end of input, " ++ message else message

/-- The words for an error. -/
def message : SyntaxError → String
  | unlexable => "cannot parse string into token stream"
  | missing mark => "expected `" ++ mark ++ "`"
  | expected [] atEnd => if atEnd then "unexpected end of input" else "unexpected token"
  | expected [only] atEnd => located atEnd ("expected " ++ only)
  | expected [first, second] atEnd => located atEnd ("expected " ++ first ++ " or " ++ second)
  | expected alternatives atEnd =>
    located atEnd ("expected one of: " ++ ", ".intercalate alternatives)
  | reserved word => "expected identifier, found keyword `" ++ word ++ "`"
  | leftover none => "unexpected token"
  | leftover (some delimiter) =>
    "unexpected token, expected `" ++ String.singleton delimiter.closing ++ "`"
  | refused rule atEnd => located atEnd rule

end SyntaxError

end RecordCoding.Source
