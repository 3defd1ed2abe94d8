import RecordCoding.Commands.SourceFile
import RecordCoding.Reporting.Collector

/-!
# Checking a file

Everything that is found wrong in a file: type by type in the order of the file, and then the
directives on items that cannot take them.
-/

namespace RecordCoding.Commands

open Source

/-- A diagnostic with the place it belongs to. -/
structure Finding where
  file : String
  /-- The type or item. -/
  owner : String
  diagnostic : Diagnostic
  deriving Repr, DecidableEq

/-- The line for a finding. -/
def Finding.text (finding : Finding) : String :=
  finding.file ++ ": " ++ finding.owner ++ ": " ++ finding.diagnostic.severity.text ++ " (" ++
    finding.diagnostic.target.text ++ "): " ++ finding.diagnostic.message

/-- Reports everything about the types of a file to a sink. -/
def examineAll {m : Type → Type} [Monad m] (sink : Sink m) (survey : Survey)
    (config : Configuration) : m Unit :=
  survey.types.forM fun type => do
    let situated := survey.situate type config
    let _ ← examine sink situated.lowered.decl.name situated config

/-- Reports everything about a file to a sink. -/
def checkWith {m : Type → Type} [Monad m] (sink : Sink m) (survey : Survey)
    (config : Configuration) : m Unit := do
  examineAll sink survey config
  survey.misplaced.forM fun misplaced => sink misplaced.owner misplaced.diagnostic

/-- The findings in a file. -/
def check (file : SourceFile) (config : Configuration) : List Finding :=
  let (_, collector) := (checkWith Collector.sink file.survey config).run .empty
  collector.drain.1.map fun (owner, diagnostic) => ⟨file.path, owner, diagnostic⟩

/-- The number of findings of a severity. -/
def countOf (severity : Severity) (findings : List Finding) : Nat :=
  findings.countP (·.diagnostic.severity == severity)

/-- The last line of a check. -/
def checkSummary (file : SourceFile) (findings : List Finding) : String :=
  "Checked " ++ toString file.survey.types.length ++ " type(s): " ++
    toString (countOf .error findings) ++ " error(s), " ++
    toString (countOf .warning findings) ++ " warning(s)"

end RecordCoding.Commands
