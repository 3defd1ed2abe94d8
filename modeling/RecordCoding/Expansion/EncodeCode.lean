import RecordCoding.Expansion.Implementation
import RecordCoding.Expansion.Obstacle
import RecordCoding.Routine

/-!
# Code of an encode routine

An encode routine becomes one call for every statement, in the same order.
-/

namespace RecordCoding.Expansion

open Source

/-- A field that is written, and when. -/
structure WriteCall where
  identifier : String
  rule : WriteRule
  deriving Repr, DecidableEq

/-- The call for a statement of an encode routine. -/
def writeCall (statement : EncodeStatement) : Except Obstacle WriteCall :=
  (fieldIdentifier statement.field).map fun identifier => ⟨identifier, statement.rule⟩

/-- The tokens of a call that writes a field under its key. -/
def WriteCall.tokens (table : String) (call : WriteCall) : List Token :=
  let key := phrase "," ++ keyOf table call.identifier
  match call.rule with
  | .always =>
    phrase "__container . encode" ++
      [parens (phrase "& self ." ++ [.ident call.identifier] ++ key)] ++ phrase "? ;"
  | .ifPresent =>
    phrase "__container . encode_if_present" ++
      [parens (phrase "self ." ++ [.ident call.identifier] ++ phrase ". as_ref" ++ [parens []] ++
        key)] ++ phrase "? ;"

/-- The code of an encode routine. -/
structure EncodeCode where
  table : String
  calls : List WriteCall
  deriving Repr, DecidableEq

namespace EncodeCode

/-- The code for a routine over the key table of an identifier. -/
def ofRoutine (table : String) (routine : EncodeRoutine) : Except Obstacle EncodeCode :=
  (routine.statements.mapM writeCall).map fun calls => ⟨table, calls⟩

/-- The tokens of the code of an encode routine. -/
def tokens (item : TypeItem) (code : EncodeCode) : List Token :=
  implementation item
    (requireOfTypes item.generics (phrase ":: codify :: __private :: serde :: Serialize"))
    (phrase ":: codify :: Encodable")
    (phrase "fn encode" ++ [parens (phrase "& self , encoder : & mut :: codify :: Encoder ,")] ++
      phrase "->" ++ resultOf [parens []] ++
      [braces (attribution (phrase "allow" ++ [parens (phrase "unused_mut")]) ++
        phrase "let mut __container = encoder ." ++ containerOf code.table ++ phrase ";" ++
        code.calls.flatMap (WriteCall.tokens code.table) ++ succeedWith [parens []])])

end EncodeCode

end RecordCoding.Expansion
