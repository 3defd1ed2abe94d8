import RecordCoding.CommandLine.Arguments
import RecordCoding.Commands.Check
import RecordCoding.Commands.Expand
import RecordCoding.Commands.Keys
import RecordCoding.Configuration.Settings

/-!
# Answers to command lines

What a command line comes to: the text that is written out, the failure that is reported, the
events for the log, and the exit code. Files are looked up in any monad, the configuration before
the source; everything else is a function of what was found.
-/

namespace RecordCoding.CommandLine

open Commands

/-- What a command line comes to. -/
structure Answer where
  exitCode : Nat
  output : String
  failure : Option String
  log : List LogEvent
  deriving Repr, DecidableEq

namespace Answer

/-- Lines that are written out. -/
def ofLines (exitCode : Nat) (lines : List String) : Answer :=
  ⟨exitCode, String.join (lines.map (· ++ "\n")), none, []⟩

/-- A failure, with what was logged before it. -/
def ofFailure (failure : Failure) (log : List LogEvent) : Answer :=
  ⟨1, "", some failure.message, log⟩

/-- The answer to a name for which there is no identifier. -/
def ofUnwritable (log : List LogEvent) : Answer := ⟨101, "", none, log⟩

/-- The lines that explain the use of the program. -/
def helpLines : List String :=
  ["Checker and expander for codify types",
    "",
    "Usage: codify [-v] check --input <file> [--config <file>]",
    "       codify [-v] expand --input <file> [--type <name>] [--config <file>]",
    "       codify [-v] keys --input <file> [--format text|json] [--config <file>]"]

/-- The line that names the version of the program. -/
def versionLine : String := "codify 0.6.1"

/-- The answer to a command line that asks for no command. -/
def ofInterruption : Interruption → Answer
  | .usage => ⟨2, "", none, []⟩
  | .help => ofLines 0 helpLines
  | .version => ofLines 0 [versionLine]

/-- The answer to a check; errors among the findings show in the exit code. -/
def ofCheck (file : SourceFile) (findings : List Finding) : Answer :=
  ofLines (if countOf .error findings = 0 then 0 else 1)
    (findings.map Finding.text ++ ["", checkSummary file findings])

/-- The answer to an expansion. -/
def ofExpansion (result : Except ExpandError (List TypeExpansion)) (log : List LogEvent) :
    Answer :=
  match result with
  | .ok expansions => { ofLines 0 (expansions.flatMap TypeExpansion.lines) with log := log }
  | .error (.failure failure) => ofFailure failure log
  | .error (.unwritable _) => ofUnwritable log

/-- The answer to a listing of keys. -/
def ofListings (listings : List KeyListing) : Format → Answer
  | .text => ofLines 0 [listingsText listings]
  | .json => ofLines 0 [(listingsJson listings).pretty]

/-- The answer to an action on a file. -/
def ofAction (file : SourceFile) (config : Configuration) : Action → Answer
  | .check => ofCheck file (check file config)
  | .expand wanted =>
    let (result, log) := (expandFile LogEvent.sink file wanted config).run []
    ofExpansion result log
  | .keys format => ofListings (listKeys file config) format

end Answer

variable {m : Type → Type} [Monad m]

/-- Looks for the configuration, under a path or in the standard place. -/
def findConfiguration (look : String → m FileEntry) (path : Option String) :
    m (Except Failure Configuration) := do
  let found ← match path with
    | some path => Configuration.load <$> look path
    | none => Configuration.discover <$> look Configuration.fileName
  pure (found.mapError fun _ => .configuration path)

/-- Looks for a source file. -/
def findSource (look : String → m FileEntry) (path : String) : m (Except Failure SourceFile) := do
  match ← look path with
  | .file text => pure (SourceFile.ofText path text)
  | .missing | .directory | .unreadable => pure (.error (.unreadableSource path))

/-- The answer to a request. -/
def answerRequest (look : String → m FileEntry) (request : Request) : m Answer := do
  match ← findConfiguration look request.configPath with
  | .error failure => pure (.ofFailure failure [])
  | .ok config =>
    match ← findSource look request.input with
    | .error failure => pure (.ofFailure failure [])
    | .ok file => pure (.ofAction file config request.action)

/-- The answer to a command line. -/
def answer (look : String → m FileEntry) (arguments : List String) : m Answer :=
  match requestOfArguments arguments with
  | .error interruption => pure (.ofInterruption interruption)
  | .ok request => answerRequest look request

end RecordCoding.CommandLine
