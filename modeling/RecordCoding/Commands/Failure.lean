import RecordCoding.Configuration

/-!
# Failures of commands

Why a command gives up before it has anything to show.
-/

namespace RecordCoding.Commands

/-- Why a command gives up. -/
inductive Failure where
  /-- The configuration cannot be obtained from a file; without a path, from the file that is
  looked for. -/
  | configuration (path : Option String)
  | unreadableSource (path : String)
  | malformedSource (path : String)
  | noSuchType (name path : String)
  deriving Repr, DecidableEq

/-- The words for a failure. -/
def Failure.message : Failure → String
  | configuration (some path) => "Failed to load config: " ++ path
  | configuration none => "Failed to load " ++ Configuration.fileName ++ " from the current directory"
  | unreadableSource path => "Failed to read source file: " ++ path
  | malformedSource path => "Failed to parse Rust source: " ++ path
  | noSuchType name path => "No type `" ++ name ++ "` deriving Codify in " ++ path

end RecordCoding.Commands
