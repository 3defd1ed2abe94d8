import RecordCoding.Generation
import RecordCoding.Proofs.Generation.TableContents

/-!
# The result of a run

A run reports step by step to its sink; what it amounts to is one expression. The steps and the
expression are proved equal for every sink, so that all further results about generation are
read off the expression and never follow the steps again.
-/

namespace RecordCoding

namespace Generation

/-- What a run ends with: the target is refused, the key table is, or there are routines. -/
def result (decl : Declaration) (config : Configuration) : Run :=
  if decl.targetFlaws.isEmpty then
    match tableStep decl config with
    | (found, _, none) => ⟨.failed, .nothing, found⟩
    | (found, generated, some table) =>
      let assembly := Assembly.build decl table
      ⟨.done, ⟨generated, assembly.decode, assembly.encode⟩, found ++ assembly.diagnostics⟩
  else ⟨.failed, .nothing, decl.targetFlaws⟩

/-- The routines are bound to the declared key table, or to the one that was generated. -/
theorem tableStep_some {decl : Declaration} {config : Configuration} {found : List Diagnostic}
    {generated : Option KeyTable} {table : KeyTable}
    (h : tableStep decl config = (found, generated, some table)) :
    (decl.handWritten.keyTable = true ∧ found = [] ∧ generated = none ∧
      table = .declared decl config) ∨
    (decl.handWritten.keyTable = false ∧ generated = some table ∧
      KeyTable.generate decl config = .ok ⟨table, found⟩) := by
  unfold tableStep at h
  split at h
  · rename_i declared
    cases h
    exact .inl ⟨declared, rfl, rfl, rfl⟩
  · rename_i undeclared
    split at h
    · cases h
      exact .inr ⟨by simpa using undeclared, rfl, by assumption⟩
    · cases h

/-- Without a key table to bind to, there was a conflict. -/
theorem tableStep_none {decl : Declaration} {config : Configuration} {found : List Diagnostic}
    {generated : Option KeyTable} (h : tableStep decl config = (found, generated, none)) :
    decl.handWritten.keyTable = false ∧
      KeyTable.generate decl config = .error (.conflict found) := by
  unfold tableStep at h
  split at h
  · cases h
  · rename_i undeclared
    split at h
    · cases h
    · rename_i failure failed
      cases h
      have undeclared : decl.handWritten.keyTable = false := by simpa using undeclared
      refine ⟨undeclared, ?_⟩
      cases failure with
      | conflict found => exact failed
      | alreadyExists name =>
        exact absurd failed (KeyTable.generate_ne_alreadyExists undeclared name)

/-- A run is refused at its target, or at its key table, or it is done. -/
theorem result_cases (decl : Declaration) (config : Configuration) :
    (decl.targetFlaws ≠ [] ∧ result decl config = ⟨.failed, .nothing, decl.targetFlaws⟩) ∨
    (decl.targetFlaws = [] ∧ ∃ found generated,
      tableStep decl config = (found, generated, none) ∧
      result decl config = ⟨.failed, .nothing, found⟩) ∨
    (decl.targetFlaws = [] ∧ ∃ found generated table,
      tableStep decl config = (found, generated, some table) ∧
      result decl config =
        ⟨.done, ⟨generated, (Assembly.build decl table).decode, (Assembly.build decl table).encode⟩,
          found ++ (Assembly.build decl table).diagnostics⟩) := by
  unfold result
  cases flaws : decl.targetFlaws with
  | cons flaw rest => exact .inl ⟨nofun, rfl⟩
  | nil =>
    rcases step : tableStep decl config with ⟨found, generated, _ | table⟩
    · exact .inr (.inl ⟨rfl, found, generated, rfl, rfl⟩)
    · exact .inr (.inr ⟨rfl, found, generated, table, rfl, rfl⟩)

section Steps

variable {m : Type → Type} [Monad m] [LawfulMonad m]

/-- Reporting hands everything to the sink, in order, and appends it to what was collected. -/
theorem Job.reportAll_eq (job : Job m) (run : Run) (found : List Diagnostic) :
    job.reportAll run found = (do
      found.forM (job.sink job.decl.name)
      pure { run with diagnostics := run.diagnostics ++ found }) := by
  induction found generalizing run with
  | nil => simp [reportAll]
  | cons d rest ih =>
    have step : job.reportAll run (d :: rest) = job.report run d >>= (job.reportAll · rest) := rfl
    rw [step]
    simp [report, ih]

/-- Once there is a key table the run ends in `done`. -/
theorem Job.assemble_eq (job : Job m) (table : KeyTable) {run : Run}
    (built : run.state = .keyTableBuilt) :
    job.assemble table run = (do
      let assembly := Assembly.build job.decl table
      assembly.diagnostics.forM (job.sink job.decl.name)
      pure ⟨.done, ⟨run.artifacts.keyTable, assembly.decode, assembly.encode⟩,
        run.diagnostics ++ assembly.diagnostics⟩) := by
  obtain ⟨state, artifacts, diagnostics⟩ := run
  subst built
  simp [assemble, reportAll_eq, advance, GenerationState.canGoTo]

/-- A run reports the diagnostics of its result, in their order, and ends with its result. -/
theorem Job.execute_eq (job : Job m) :
    job.execute = (do
      (result job.decl job.config).diagnostics.forM (job.sink job.decl.name)
      pure (result job.decl job.config)) := by
  unfold execute result
  cases accepted : job.decl.targetFlaws.isEmpty with
  | false => simp [accepted, reportAll_eq, Run.fresh, Run.fail]
  | true =>
    have none : job.decl.targetFlaws = [] := List.isEmpty_iff.mp accepted
    simp only [none, reportAll_eq, List.isEmpty_nil, if_true]
    rcases step : tableStep job.decl job.config with ⟨found, generated, _ | table⟩
    · simp [buildTable, step, reportAll_eq, advance, GenerationState.canGoTo, Run.fresh, Run.fail]
    · simp [buildTable, step, reportAll_eq, advance, GenerationState.canGoTo, Run.fresh,
        assemble_eq, Artifacts.nothing]

end Steps

end Generation

open Generation

/-- The outcome of a run, by its result. -/
theorem generate_eq (decl : Declaration) (config : Configuration) :
    generate decl config =
      ⟨decl.name, (result decl config).state, (result decl config).artifacts,
        config.tableName decl.name, (result decl config).diagnostics⟩ := by
  unfold generate generateWith
  rw [Job.execute_eq]
  simp

/-- A run names the key table after the type. -/
theorem keyTableName_generate (decl : Declaration) (config : Configuration) :
    (generate decl config).keyTableName = config.tableName decl.name := by
  rw [generate_eq]

/-- A key table that a run leaves behind is one that was generated. -/
theorem exists_generate_of_keyTable {decl : Declaration} {config : Configuration}
    {table : KeyTable} (made : (generate decl config).artifacts.keyTable = some table) :
    ∃ found, KeyTable.generate decl config = .ok ⟨table, found⟩ := by
  rw [generate_eq] at made
  rcases result_cases decl config with
    ⟨-, eq⟩ | ⟨-, _, _, -, eq⟩ | ⟨-, found, generated, bound, step, eq⟩ <;> rw [eq] at made
  · cases made
  · cases made
  · rcases tableStep_some step with ⟨-, -, rfl, -⟩ | ⟨-, rfl, stands⟩
    · cases made
    · cases made
      exact ⟨found, stands⟩

/-- For every sink a run reports the diagnostics of its outcome, in their order and under the name
of the type, and the outcome does not depend on the sink. -/
theorem generateWith_eq {m : Type → Type} [Monad m] [LawfulMonad m] (sink : Sink m)
    (decl : Declaration) (config : Configuration) :
    generateWith sink decl config = (do
      (generate decl config).diagnostics.forM (sink decl.name)
      pure (generate decl config)) := by
  unfold generateWith
  rw [Job.execute_eq, generate_eq]
  simp

end RecordCoding
