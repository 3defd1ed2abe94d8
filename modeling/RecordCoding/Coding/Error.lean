/-!
# Coding errors

What can go wrong between a JSON document and a record. Errors about a member name its key.
-/

namespace RecordCoding

/-- An error of reading or writing a record. -/
inductive CodingError where
  /-- A record was expected in place of another kind of value. -/
  | notAnObject (found : String)
  | keyNotFound (key : String)
  /-- The member is null and its type has no such value. -/
  | valueNotFound (key : String)
  | typeMismatch (key detail : String)
  | serialization (detail : String)
  | custom (detail : String)
  deriving Repr, DecidableEq

namespace CodingError

/-- The words for an error. -/
def message : CodingError → String
  | notAnObject found => "expected a JSON object, found " ++ found
  | keyNotFound key => "key `" ++ key ++ "` not found"
  | valueNotFound key => "expected a value for key `" ++ key ++ "`, found null"
  | typeMismatch key detail => "type mismatch for key `" ++ key ++ "`: " ++ detail
  | serialization detail => "serialization error: " ++ detail
  | custom detail => detail

/-- The key an error is about. -/
def key? : CodingError → Option String
  | keyNotFound key | valueNotFound key | typeMismatch key _ => some key
  | notAnObject _ | serialization _ | custom _ => none

/-- The error for a document that could not be read as JSON or as the requested type. -/
def ofInvalidJson (detail : String) : CodingError := .custom ("invalid JSON: " ++ detail)

/-- The error for a failure of the transport under a document. -/
def ofTransport (detail : String) : CodingError := .serialization detail

/-- The error for a value that could not be written under a key. -/
def ofUnwritable (key detail : String) : CodingError :=
  .serialization ("`" ++ key ++ "`: " ++ detail)

end CodingError

end RecordCoding
