import RecordCoding.Commands.Failure
import RecordCoding.Generation
import RecordCoding.Source.Survey

/-!
# Source files

A file that a command works on, and the way every command goes about a type in it: what was found
wrong in the source is reported first, and generation is run unless that forbids it.
-/

namespace RecordCoding.Commands

open Source

/-- A file with what was found in it. -/
structure SourceFile where
  path : String
  survey : Survey
  deriving Inhabited

/-- The file with a text, if the text is well formed. -/
def SourceFile.ofText (path text : String) : Except Failure SourceFile :=
  match readFile text with
  | .ok items => .ok ⟨path, Source.survey items⟩
  | .error _ => .error (.malformedSource path)

/-- Reports what is wrong with a type in the source under a name, and runs generation. There is no
outcome where generation does not start. -/
def examine {m : Type → Type} [Monad m] (sink : Sink m) (name : String) (type : Situated)
    (config : Configuration) : m (Option Outcome) := do
  type.flaws.forM (sink name)
  if type.isBlocked then pure none
  else some <$> generateWith sink type.lowered.decl config

end RecordCoding.Commands
