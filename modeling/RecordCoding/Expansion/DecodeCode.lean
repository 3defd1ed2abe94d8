import RecordCoding.Expansion.Implementation
import RecordCoding.Expansion.Obstacle
import RecordCoding.Routine

/-!
# Code of a decode routine

A decode routine becomes the construction of a value, in which every field of the declaration is
given a value, in the order of declaration. A stored field with a statement is read by it; all
other fields take the default of their type.
-/

namespace RecordCoding.Expansion

open Source

/-- A field of the value that is constructed. -/
structure Initializer where
  identifier : String
  value : List Token
  deriving Repr, BEq

/-- The default of a type. -/
def standardValue : List Token :=
  phrase ":: core :: default :: Default :: default" ++ [parens []]

/-- A call of a method of the container for a key. -/
def callFor (key : List Token) (method : List Token) : List Token :=
  phrase "__container ." ++ method ++ [parens key] ++ phrase "?"

/-- Types as arguments of a method; one more is left open. -/
def typeArguments (types : List (List Token)) : List Token :=
  phrase ":: <" ++ types.flatMap (· ++ phrase ",") ++ phrase "_ >"

/-- The name of a method, which is another one for optional fields. -/
def methodName (required : String) (optional : Bool) : List Token :=
  [.ident (if optional then required ++ "_if_present" else required)]

/-- What is done where no value was found. -/
def otherwise (optional : Bool) (fallback : List Token) : List Token :=
  if optional then
    phrase ". or_else" ++
      [parens (phrase "|| :: core :: option :: Option :: Some" ++ [parens fallback])]
  else phrase ". unwrap_or_else" ++ [parens (phrase "||" ++ fallback)]

/-- The value that a plan reads for a field. -/
def readValue (field : String) (key : List Token) : ReadPlan → Except Obstacle (List Token)
  | .direct => .ok (callFor key (phrase "decode"))
  | .optional => .ok (callFor key (phrase "decode_if_present"))
  | .defaulted expression optional => do
    let fallback ← fallbackTokens field expression
    .ok (callFor key (phrase "decode_if_present") ++ otherwise optional fallback)
  | .compactArray element optional | .compactSet element optional => do
    let element ← typeTokens element
    .ok (callFor key (methodName "decode_compacted" optional ++ typeArguments [element]))
  | .compactMap keyType value optional => do
    let keyType ← typeTokens keyType
    let value ← typeTokens value
    .ok (callFor key (methodName "decode_compacted_map" optional ++ typeArguments [keyType, value]))
  | .lossless optional => .ok (callFor key (methodName "decode_lossless" optional))

/-- The initializer of a field. -/
def initializer (table : String) (routine : DecodeRoutine) (field : Field) :
    Except Obstacle Initializer := do
  let identifier ← fieldIdentifier field.name
  match field.isComputed, routine.statement? field.name with
  | false, some statement =>
    let value ← readValue field.name (keyOf table identifier) statement.plan
    .ok ⟨identifier, value⟩
  | _, _ => .ok ⟨identifier, standardValue⟩

/-- The code of a decode routine. -/
structure DecodeCode where
  table : String
  initializers : List Initializer
  deriving Repr, BEq

namespace DecodeCode

/-- The code for a routine over the key table of an identifier. -/
def ofRoutine (table : String) (decl : Declaration) (routine : DecodeRoutine) :
    Except Obstacle DecodeCode :=
  (decl.fields.mapM (initializer table routine)).map fun initializers => ⟨table, initializers⟩

/-- The value that is constructed. -/
def construction (code : DecodeCode) : List Token :=
  phrase "Self" ++ [braces (code.initializers.flatMap fun i =>
    [.ident i.identifier] ++ phrase ":" ++ i.value ++ phrase ",")]

/-- The tokens of the code of a decode routine. -/
def tokens (item : TypeItem) (code : DecodeCode) : List Token :=
  implementation item
    (requireOfTypes item.generics (phrase ":: codify :: __private :: serde :: de :: DeserializeOwned"))
    (phrase ":: codify :: Decodable")
    (phrase "fn from_decoder" ++ [parens (phrase "decoder : & :: codify :: Decoder ,")] ++
      phrase "->" ++ resultOf (phrase "Self") ++
      [braces (phrase "let __container = decoder ." ++ containerOf code.table ++ phrase "? ;" ++
        succeedWith code.construction)])

end DecodeCode

end RecordCoding.Expansion
