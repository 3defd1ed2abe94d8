import RecordCoding.GenerationState
import RecordCoding.Routine

/-!
# Generation

One run over one declaration: the target is checked, the key table is generated or the declared
one adopted, and the routines are assembled. Every diagnostic is handed to a sink at the moment
it is raised and also collected; the sink may act in any monad but cannot influence the run. A
run that fails leaves no artifact behind.
-/

namespace RecordCoding

/-- What a run produced; each part is absent when it was not generated. -/
structure Artifacts where
  keyTable : Option KeyTable
  decode : Option DecodeRoutine
  encode : Option EncodeRoutine
  deriving Repr, DecidableEq

namespace Artifacts

/-- Nothing was generated. -/
def nothing : Artifacts := ⟨none, none, none⟩

/-- Whether nothing was generated. -/
def isEmpty (artifacts : Artifacts) : Bool :=
  artifacts.keyTable.isNone && artifacts.decode.isNone && artifacts.encode.isNone

end Artifacts

/-- The result of a run. -/
structure Outcome where
  typeName : String
  state : GenerationState
  artifacts : Artifacts
  /-- The key table the routines are bound to, generated or not. -/
  keyTableName : String
  diagnostics : List Diagnostic
  deriving Repr, DecidableEq

namespace Outcome

/-- Whether the run failed. -/
def isFailed (outcome : Outcome) : Bool := outcome.state == .failed

/-- The diagnostics that are errors. -/
def errors (outcome : Outcome) : List Diagnostic := outcome.diagnostics.filter Diagnostic.isError

/-- The diagnostics that are warnings. -/
def warnings (outcome : Outcome) : List Diagnostic :=
  outcome.diagnostics.filter (·.severity == .warning)

/-- Whether some diagnostic is an error. -/
def hasErrors (outcome : Outcome) : Bool := outcome.diagnostics.any Diagnostic.isError

end Outcome

namespace Declaration

/-- The complaints about naming attributes on a type that does not ask for generation. -/
def derivationFlaws (decl : Declaration) : List Diagnostic :=
  (decl.directives.filter Directive.fitsType).map (fun d =>
      .of (.requiresDerive d.name) (.onType d.name)) ++
    decl.fields.flatMap fun field =>
      (field.directives.filter Directive.shapesKey).map fun d =>
        .of (.requiresDerive d.name) (.onField field.name d.name)

/-- Why nothing can be generated for a declaration; empty when generation may start. -/
def targetFlaws (decl : Declaration) : List Diagnostic :=
  if decl.derives then
    match decl.shape with
    | .tuple => [.onType .notAFlatRecord]
    | .enumeration | .union => [.onType .notAStruct]
    | .record | .unit =>
      (decl.directives.filter (!·.fitsType)).map fun d =>
        .of (.fieldOnly d.name) (.onType d.name)
  else
    match decl.derivationFlaws with
    | [] => [.onType (.internal ("`" ++ decl.name ++ "` does not request generation"))]
    | flaws => flaws

end Declaration

/-- A receiver of diagnostics as they are raised, told the type they belong to. -/
abbrev Sink (m : Type → Type) := String → Diagnostic → m Unit

/-- The sink that forgets everything. -/
def Sink.silent : Sink Id := fun _ _ => pure ()

/-- The sink that appends to a list. -/
def Sink.collecting : Sink (StateM (List (String × Diagnostic))) :=
  fun typeName d => modify (· ++ [(typeName, d)])

namespace Generation

/-- A declaration being worked on, with where its diagnostics go. -/
structure Job (m : Type → Type) where
  decl : Declaration
  config : Configuration
  sink : Sink m

/-- A run in progress. -/
structure Run where
  state : GenerationState
  artifacts : Artifacts
  diagnostics : List Diagnostic
  deriving Repr, DecidableEq

/-- A run that has not begun. -/
def Run.fresh : Run := ⟨.start, .nothing, []⟩

/-- Gives up: the state becomes `failed` and every artifact is dropped. -/
def Run.fail (run : Run) : Run := { run with state := .failed, artifacts := .nothing }

variable {m : Type → Type} [Monad m]

/-- Hands a diagnostic to the sink and collects it. -/
def Job.report (job : Job m) (run : Run) (d : Diagnostic) : m Run := do
  job.sink job.decl.name d
  pure { run with diagnostics := run.diagnostics ++ [d] }

/-- Reports several diagnostics in order. -/
def Job.reportAll (job : Job m) (run : Run) (found : List Diagnostic) : m Run :=
  found.foldlM job.report run

/-- Goes on in the next state. A step that the order of states does not allow is reported and
fails the run. -/
def Job.advance (job : Job m) (run : Run) (next : GenerationState) (continuation : Run → m Run) :
    m Run :=
  if run.state.canGoTo next then continuation { run with state := next }
  else do
    let run ← job.report run (.onType (.internal ("invalid generation transition " ++
      run.state.text ++ " -> " ++ next.text)))
    pure run.fail

/-- The key table step: the diagnostics found, the table generated, if any, and the table the
routines are to be bound to, unless there is none. -/
def tableStep (decl : Declaration) (config : Configuration) :
    List Diagnostic × Option KeyTable × Option KeyTable :=
  if decl.handWritten.keyTable then ([], none, some (.declared decl config))
  else match KeyTable.generate decl config with
    | .ok report => (report.diagnostics, some report.table, some report.table)
    | .error failure => (failure.diagnostics, none, none)

/-- The last steps, once there is a key table. -/
def Job.assemble (job : Job m) (table : KeyTable) (run : Run) : m Run := do
  let assembly := Assembly.build job.decl table
  let run ← job.reportAll run assembly.diagnostics
  let run := { run with
    artifacts := { run.artifacts with decode := assembly.decode, encode := assembly.encode } }
  job.advance run .plansAssembled fun run => job.advance run .done pure

/-- The steps after the target was accepted. -/
def Job.buildTable (job : Job m) (run : Run) : m Run := do
  let (found, generated, table?) := tableStep job.decl job.config
  let run ← job.reportAll run found
  match table? with
  | none => pure run.fail
  | some table =>
    let run := { run with artifacts := { run.artifacts with keyTable := generated } }
    job.advance run .keyTableBuilt (job.assemble table)

/-- All steps of a run. -/
def Job.execute (job : Job m) : m Run := do
  let flaws := job.decl.targetFlaws
  let run ← job.reportAll .fresh flaws
  if flaws.isEmpty then job.advance run .validatedTarget job.buildTable
  else pure run.fail

end Generation

/-- Runs generation for a declaration, reporting to a sink. -/
def generateWith {m : Type → Type} [Monad m] (sink : Sink m) (decl : Declaration)
    (config : Configuration) : m Outcome := do
  let run ← Generation.Job.execute ⟨decl, config, sink⟩
  pure ⟨decl.name, run.state, run.artifacts, config.tableName decl.name, run.diagnostics⟩

/-- Runs generation for a declaration. -/
def generate (decl : Declaration) (config : Configuration) : Outcome :=
  Id.run (generateWith Sink.silent decl config)

end RecordCoding
