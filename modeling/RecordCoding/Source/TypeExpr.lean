import RecordCoding.Declaration
import RecordCoding.Source.Token

/-!
# Types in source text

The outer structure of a type as it is written, with its tokens, and its reading as a field type.
Only optional types, the known collections and wrappers are looked into; every other type is
taken by its text, from which superfluous spaces are removed.
-/

namespace RecordCoding.Source

/-- A type as it is written. -/
inductive TypeExpr where
  /-- A type in parentheses. -/
  | paren (tokens : List Token) (inner : TypeExpr)
  /-- A path: whether it begins at the root, its names, and the type arguments of the last. -/
  | path (tokens : List Token) (isAbsolute : Bool) (names : List String)
      (arguments : List TypeExpr)
  /-- Bounds without a keyword, and whether there is just one, with nothing behind it. -/
  | bounds (tokens : List Token) (isSingle : Bool)
  | other (tokens : List Token)
  deriving Inhabited

namespace TypeExpr

/-- The tokens of a type. -/
def tokens : TypeExpr → List Token
  | paren tokens _ | path tokens .. | bounds tokens _ | other tokens => tokens

/-- Whether no space is kept behind a character. -/
def closesUpBehind (c : Char) : Bool := "<:(&[".toList.contains c

/-- Whether no space is kept in front of a character. -/
def closesUpBefore (c : Char) : Bool := "<>:,;)]".toList.contains c

/-- Characters without the spaces that are not wanted, given the character kept last. -/
def closeUp : Option Char → List Char → List Char
  | _, [] => []
  | previous, ' ' :: rest =>
    if previous.any closesUpBehind || rest.head?.any closesUpBefore then closeUp previous rest
    else ' ' :: closeUp (some ' ') rest
  | _, c :: rest => c :: closeUp (some c) rest

/-- The text of a type. -/
def text (type : TypeExpr) : String :=
  String.ofList (closeUp none (Token.textOfAll type.tokens).toList)

/-- The text of a path without arguments. -/
def pathText (isAbsolute : Bool) (names : List String) : String :=
  (if isAbsolute then "::" else "") ++ "::".intercalate names

/-- What a path with described type arguments is, given the text to fall back on. -/
def describePath (isAbsolute : Bool) (names : List String) (arguments : List FieldType)
    (text : String) : FieldType :=
  let collection := pathText isAbsolute names
  match names.getLast?.getD "", arguments with
  | "Option", [inner] => .optional inner
  | "Vec", [element] => .array element
  | "HashSet", element :: _ | "BTreeSet", element :: _ | "IndexSet", element :: _ =>
    .set collection element
  | "HashMap", key :: value :: _ | "BTreeMap", key :: value :: _ | "IndexMap", key :: value :: _ =>
    .map collection key value
  | "LosslessValue", [inner] => .wrapper collection inner
  | _, _ => .scalar text

mutual

/-- The field type that a type stands for. -/
def describe : TypeExpr → FieldType
  | paren _ inner => inner.describe
  | path tokens isAbsolute names arguments =>
    describePath isAbsolute names (describeAll arguments)
      (text (path tokens isAbsolute names arguments))
  | bounds tokens isSingle => .scalar (text (bounds tokens isSingle))
  | other tokens => .scalar (text (other tokens))

/-- The field types that several types stand for. -/
def describeAll : List TypeExpr → List FieldType
  | [] => []
  | first :: rest => first.describe :: describeAll rest

end

/-- Parentheses have no influence on what a type stands for. -/
@[simp] theorem describe_paren (tokens : List Token) (inner : TypeExpr) :
    (paren tokens inner).describe = inner.describe := by
  simp [describe]

end TypeExpr

end RecordCoding.Source
