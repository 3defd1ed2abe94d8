import RecordCoding.Proofs.Generation.HandWritten

/-!
# Advisories as errors

The severity of an advisory is a setting. Raising it to an error leaves every rule as it is: the
same keys are chosen, and the same things are found at the same fields. A key table that an
advisory belongs to no longer stands, and that is how the two runs come apart. The comparison is
made field by field, then for the table, and then for the run.
-/

namespace RecordCoding

/-- The same settings with another severity for advisories. -/
def Configuration.withAdvisories (config : Configuration) (severity : Severity) : Configuration :=
  { config with advisorySeverity := severity }

/-- The name reserved for the key table does not depend on the severity. -/
@[simp] theorem Configuration.tableName_withAdvisories (config : Configuration)
    (severity : Severity) (typeName : String) :
    (config.withAdvisories severity).tableName typeName = config.tableName typeName := rfl

namespace Diagnostic

/-- Whether a diagnostic is the advisory about a literal key that shadows a case style. -/
def isAdvisory (d : Diagnostic) : Bool := d.code == "K002"

/-- The same diagnostic, as an error if it is an advisory. -/
def escalated (d : Diagnostic) : Diagnostic := if d.isAdvisory then d.withSeverity .error else d

/-- The advisory is known by its cause. -/
theorem isAdvisory_iff {d : Diagnostic} : d.isAdvisory = true ↔ d.cause = .customKeyShadowsCase := by
  rcases d with ⟨cause, severity, target⟩
  cases cause <;> simp [isAdvisory, code, Cause.code]

/-- Only advisories are changed. -/
theorem escalated_of_not_isAdvisory {d : Diagnostic} (other : d.isAdvisory = false) :
    d.escalated = d := by
  unfold escalated
  simp [other]

/-- Where there is no advisory, nothing is changed. -/
theorem map_escalated {found : List Diagnostic} (none : found.any isAdvisory = false) :
    found.map escalated = found := by
  have others : ∀ d ∈ found, d.isAdvisory = false := by simpa using none
  have same : ∀ d ∈ found, d.escalated = id d :=
    fun d member => escalated_of_not_isAdvisory (others d member)
  rw [List.map_congr_left same, List.map_id]

end Diagnostic

/-- A default that lacks its value is not an advisory. -/
theorem Diagnostic.not_isAdvisory_of_missingDefaultValue {d : Diagnostic} {field : String}
    (about : d.cause = .missingDefaultValue field) : d.isAdvisory = false := by
  rw [← Bool.not_eq_true, isAdvisory_iff, about]
  nofun

/-- No complaint about a target is an advisory. -/
theorem Declaration.not_isAdvisory_of_mem_targetFlaws {decl : Declaration} {d : Diagnostic}
    (member : d ∈ decl.targetFlaws) : d.isAdvisory = false := by
  obtain ⟨_, ⟨_, rfl⟩ | ⟨_, rfl⟩ | rfl | rfl | rfl⟩ := mem_targetFlaws member <;> rfl

namespace KeyTable

/-- What a contribution becomes when advisories are errors: the entries stay, the advisories are
errors, and each of them prevents the table. -/
def Contribution.escalated (part : Contribution) : Contribution :=
  ⟨part.entries, part.diagnostics.map Diagnostic.escalated,
    part.isFatal || part.diagnostics.any Diagnostic.isAdvisory⟩

/-- One field, read under both severities. -/
theorem contribution_error (config : Configuration) (defaults : KeyDefaults) (field : Field) :
    contribution (config.withAdvisories .error) defaults field =
      (contribution (config.withAdvisories .warning) defaults field).escalated := by
  unfold contribution
  cases field.isComputed with
  | true => cases field.hasKeyDirective <;> rfl
  | false =>
    rcases field.wireKey_cases defaults with ⟨key, chosen⟩ | ⟨key, chosen⟩ | ⟨attr, chosen⟩ | chosen
    all_goals
      rw [chosen]
      rfl

/-- What is found at the fields when advisories are errors is what is found when they are not. -/
theorem diagnostics_error (decl : Declaration) (config : Configuration) :
    (decl.fields.flatMap fun field =>
        (contribution (config.withAdvisories .error) decl.keyDefaults field).diagnostics) =
      (decl.fields.flatMap fun field =>
        (contribution (config.withAdvisories .warning) decl.keyDefaults field).diagnostics).map
          Diagnostic.escalated := by
  rw [List.map_flatMap]
  refine List.flatMap_congr fun field _ => ?_
  rw [contribution_error]
  rfl

/-- A field prevents the table when advisories are errors if it did before or has an advisory. -/
theorem isFatal_error (config : Configuration) (defaults : KeyDefaults) (field : Field) :
    (contribution (config.withAdvisories .error) defaults field).isFatal =
      ((contribution (config.withAdvisories .warning) defaults field).isFatal ||
        (contribution (config.withAdvisories .warning) defaults field).diagnostics.any
          Diagnostic.isAdvisory) := by
  rw [contribution_error]
  rfl

/-- A table that stands with no advisory is generated whatever their severity. -/
theorem generate_error_of_unadvised {decl : Declaration} {config : Configuration}
    {report : KeyTableReport}
    (stands : generate decl (config.withAdvisories .warning) = .ok report)
    (none : report.diagnostics.any Diagnostic.isAdvisory = false) :
    generate decl (config.withAdvisories .error) = .ok report := by
  obtain ⟨undeclared, few, harmless, rfl⟩ := generate_eq_ok_iff.mp stands
  rw [List.any_flatMap, List.any_eq_false] at none
  refine generate_eq_ok_iff.mpr ⟨undeclared, few, fun field within => ?_, ?_⟩
  · rw [isFatal_error, harmless field within, Bool.false_or]
    simpa using none field within
  · have entries : ∀ field, (contribution (config.withAdvisories .error) decl.keyDefaults
        field).entries = (contribution (config.withAdvisories .warning) decl.keyDefaults
        field).entries := fun field => by rw [contribution_error]; rfl
    have unadvised : (decl.fields.flatMap fun field =>
        (contribution (config.withAdvisories .warning) decl.keyDefaults field).diagnostics).any
          Diagnostic.isAdvisory = false := by
      rw [List.any_flatMap, List.any_eq_false]
      exact none
    rw [diagnostics_error, Diagnostic.map_escalated unadvised]
    simp only [entries, Configuration.tableName_withAdvisories]

/-- Some field prevents the table, and all that was found at the fields is reported. -/
theorem generate_conflict {decl : Declaration} {config : Configuration}
    (undeclared : decl.handWritten.keyTable = false)
    (few : (decl.directives.filterMap Directive.caseStyle?).length ≤ 1) {field : Field}
    (within : field ∈ decl.fields)
    (fatal : (contribution config decl.keyDefaults field).isFatal = true) :
    generate decl config = .error (.conflict (decl.fields.flatMap fun field =>
      (contribution config decl.keyDefaults field).diagnostics)) := by
  cases outcome : generate decl config with
  | ok report =>
    obtain ⟨-, -, harmless, -⟩ := generate_eq_ok_iff.mp outcome
    rw [harmless field within] at fatal
    cases fatal
  | error failure =>
    cases failure with
    | alreadyExists name => exact absurd outcome (generate_ne_alreadyExists undeclared name)
    | conflict found =>
      rcases conflict_cases outcome with ⟨several, -⟩ | ⟨-, -, rfl⟩
      · omega
      · rfl

/-- A table with an advisory is in conflict when advisories are errors, and all that had been found
is reported. -/
theorem generate_error_of_advised {decl : Declaration} {config : Configuration}
    {report : KeyTableReport}
    (stands : generate decl (config.withAdvisories .warning) = .ok report)
    (some : report.diagnostics.any Diagnostic.isAdvisory = true) :
    generate decl (config.withAdvisories .error) =
      .error (.conflict (report.diagnostics.map Diagnostic.escalated)) := by
  obtain ⟨undeclared, few, -, rfl⟩ := generate_eq_ok_iff.mp stands
  rw [List.any_flatMap] at some
  obtain ⟨field, within, advised⟩ := List.any_eq_true.mp some
  have fatal : (contribution (config.withAdvisories .error) decl.keyDefaults field).isFatal =
      true := by rw [isFatal_error, advised, Bool.or_true]
  rw [generate_conflict undeclared few within fatal, diagnostics_error]

/-- A conflict remains one when advisories are errors. -/
theorem generate_error_of_conflict {decl : Declaration} {config : Configuration}
    {found : List Diagnostic}
    (conflict : generate decl (config.withAdvisories .warning) = .error (.conflict found))
    (undeclared : decl.handWritten.keyTable = false) :
    generate decl (config.withAdvisories .error) =
      .error (.conflict (found.map Diagnostic.escalated)) := by
  rcases conflict_cases conflict with ⟨several, rfl⟩ | ⟨few, ⟨field, within, fatal⟩, rfl⟩
  · unfold generate
    rw [undeclared, if_neg Bool.false_ne_true, if_pos several]
    rfl
  · have still : (contribution (config.withAdvisories .error) decl.keyDefaults field).isFatal =
        true := by rw [isFatal_error, fatal, Bool.true_or]
    rw [generate_conflict undeclared few within still, diagnostics_error]

end KeyTable

namespace Generation

/-- The key table step under both severities: the same if there is no advisory, and otherwise a
conflict with the same diagnostics, the advisories being errors. -/
theorem tableStep_error (decl : Declaration) (config : Configuration) :
    tableStep decl (config.withAdvisories .error) =
      if (tableStep decl (config.withAdvisories .warning)).1.any Diagnostic.isAdvisory then
        ((tableStep decl (config.withAdvisories .warning)).1.map Diagnostic.escalated, none, none)
      else tableStep decl (config.withAdvisories .warning) := by
  rcases step : tableStep decl (config.withAdvisories .warning) with ⟨found, generated, _ | table⟩
  · obtain ⟨undeclared, conflict⟩ := tableStep_none step
    have again := KeyTable.generate_error_of_conflict conflict undeclared
    have stepToo : tableStep decl (config.withAdvisories .error) =
        (found.map Diagnostic.escalated, none, none) := by
      unfold tableStep
      rw [undeclared, again]
      rfl
    have nothing : generated = none := by
      unfold tableStep at step
      rw [undeclared, conflict] at step
      exact (Prod.mk.inj (Prod.mk.inj step).2).1.symm
    rw [stepToo, nothing]
    by_cases advised : found.any Diagnostic.isAdvisory = true
    · rw [if_pos advised]
    · rw [if_neg advised, Diagnostic.map_escalated (by simpa using advised)]
  · rcases tableStep_some step with ⟨declared, rfl, rfl, rfl⟩ | ⟨undeclared, rfl, stands⟩
    · unfold tableStep
      rw [declared]
      rfl
    · unfold tableStep
      rw [undeclared, if_neg Bool.false_ne_true]
      by_cases advised : found.any Diagnostic.isAdvisory = true
      · rw [if_pos advised, KeyTable.generate_error_of_advised stands advised]
        rfl
      · rw [if_neg advised,
          KeyTable.generate_error_of_unadvised stands (by simpa using advised)]

/-- All that is found in the key table step is about naming. -/
theorem isNaming_of_mem_tableStep {decl : Declaration} {config : Configuration} {d : Diagnostic}
    (member : d ∈ (tableStep decl config).1) : d.IsNaming := by
  rcases step : tableStep decl config with ⟨found, generated, _ | table⟩
  · obtain ⟨-, conflict⟩ := tableStep_none step
    rw [step] at member
    exact KeyTable.isNaming_of_conflict conflict member
  · rw [step] at member
    exact (facts_of_tableStep step).1 d member

/-- A run whose target is accepted reports what the key table step found and then only defaults that
lack their value; an advisory is found in the key table step. -/
theorem diagnostics_of_accepted {decl : Declaration} (config : Configuration)
    (accepted : decl.targetFlaws = []) :
    (result decl config).diagnostics.filter (·.code != "E009") = (tableStep decl config).1 ∧
    (result decl config).diagnostics.any Diagnostic.isAdvisory =
      (tableStep decl config).1.any Diagnostic.isAdvisory := by
  have naming := fun d => @isNaming_of_mem_tableStep decl config d
  rcases result_cases decl config with
    ⟨refused, -⟩ | ⟨-, found, generated, step, eq⟩ | ⟨-, found, generated, table, step, eq⟩
  · exact absurd accepted refused
  · rw [step] at naming ⊢
    have parts := @partition_diagnostics _ [] naming nofun
    rw [List.append_nil] at parts
    rw [eq]
    exact ⟨parts.1, rfl⟩
  · rw [step] at naming ⊢
    have aboutValues := fun d =>
      @Assembly.cause_of_mem_build decl table (table_of_tableStep step).2 d
    have parts := partition_diagnostics naming aboutValues
    have none : (Assembly.build decl table).diagnostics.any Diagnostic.isAdvisory = false := by
      rw [List.any_eq_false]
      intro d member
      obtain ⟨field, about⟩ := aboutValues d member
      simp [Diagnostic.not_isAdvisory_of_missingDefaultValue about]
    rw [eq]
    refine ⟨parts.1, ?_⟩
    rw [List.any_append, none, Bool.or_false]

end Generation

open Generation

/-- How a run in which advisories are errors compares with one in which they are warnings; `found`
is what the latter reported about keys. -/
structure Outcome.Escalates (lenient strict : Outcome) (found : List Diagnostic) : Prop where
  /-- Without an advisory there is no difference. -/
  unadvised : (∀ d ∈ lenient.diagnostics, d.code ≠ "K002") → strict = lenient
  /-- With one the run fails and leaves nothing behind, -/
  failed : (∃ d ∈ lenient.diagnostics, d.code = "K002") →
    strict.state = .failed ∧ strict.artifacts = .nothing
  /-- after it has reported all that was found about keys, in order, the advisories as errors. -/
  reported : (∃ d ∈ lenient.diagnostics, d.code = "K002") →
    strict.diagnostics = found.map Diagnostic.escalated
  /-- The rest of what the lenient run reported is about defaults that lack their value. -/
  keys_first : (∃ d ∈ lenient.diagnostics, d.code = "K002") →
    found = lenient.diagnostics.filter (·.code != "E009")
  /-- A run that is done although advisories are errors is done in the same way without. -/
  done : strict.state = .done → lenient = strict

/-- The severity of advisories only decides whether the run fails at them: for every declaration
and configuration, the run in which they are errors escalates the run in which they are not. -/
theorem generate_escalates (decl : Declaration) (config : Configuration) :
    (generate decl (config.withAdvisories .warning)).Escalates
      (generate decl (config.withAdvisories .error))
      (tableStep decl (config.withAdvisories .warning)).1 := by
  have raised (outcome : Outcome) : (∃ d ∈ outcome.diagnostics, d.code = "K002") ↔
      outcome.diagnostics.any Diagnostic.isAdvisory = true := by
    simp [Diagnostic.isAdvisory]
  have unraised (outcome : Outcome) : (∀ d ∈ outcome.diagnostics, d.code ≠ "K002") ↔
      outcome.diagnostics.any Diagnostic.isAdvisory = false := by
    simp [Diagnostic.isAdvisory]
  by_cases accepted : decl.targetFlaws = []
  · obtain ⟨aboutKeys, advisories⟩ :=
      diagnostics_of_accepted (config.withAdvisories .warning) accepted
    have step := tableStep_error decl config
    by_cases advised :
        (tableStep decl (config.withAdvisories .warning)).1.any Diagnostic.isAdvisory = true
    · rw [if_pos advised] at step
      have strict : generate decl (config.withAdvisories .error) =
          ⟨decl.name, .failed, .nothing, config.tableName decl.name,
            (tableStep decl (config.withAdvisories .warning)).1.map Diagnostic.escalated⟩ := by
        rw [generate_eq, result, accepted, step]
        rfl
      refine ⟨fun none => ?_, fun _ => ?_, fun _ => ?_, fun _ => ?_, fun done => ?_⟩
      · rw [unraised, generate_eq, advisories, advised] at none
        cases none
      · rw [strict]
        exact ⟨rfl, rfl⟩
      · rw [strict]
      · rw [generate_eq, aboutKeys]
      · rw [strict] at done
        cases done
    · rw [if_neg advised] at step
      have same : generate decl (config.withAdvisories .error) =
          generate decl (config.withAdvisories .warning) := by
        rw [generate_eq, generate_eq, result, result, step]
        rfl
      have never : ¬ ∃ d ∈ (generate decl (config.withAdvisories .warning)).diagnostics,
          d.code = "K002" := by
        rw [raised, generate_eq, advisories]
        exact advised
      exact ⟨fun _ => same, fun some => absurd some never, fun some => absurd some never,
        fun some => absurd some never, fun _ => same.symm⟩
  · -- The target is refused before any key is looked at.
    have refused (severity : Severity) : generate decl (config.withAdvisories severity) =
        ⟨decl.name, .failed, .nothing, config.tableName decl.name, decl.targetFlaws⟩ := by
      rw [generate_eq, result, if_neg (by simpa using accepted)]
      rfl
    have never : ¬ ∃ d ∈ (generate decl (config.withAdvisories .warning)).diagnostics,
        d.code = "K002" := by
      rw [raised, refused, Bool.not_eq_true, List.any_eq_false]
      intro d member
      simp [decl.not_isAdvisory_of_mem_targetFlaws member]
    exact ⟨fun _ => by rw [refused, refused], fun some => absurd some never,
      fun some => absurd some never, fun some => absurd some never,
      fun _ => by rw [refused, refused]⟩

/-- An advisory between a key directive on a computed field and a default that lacks its value: the
default is no longer looked at. -/
def Declaration.shadowing : Declaration where
  name := "Card"
  shape := .record
  derives := true
  directives := []
  fields := [⟨"cache", .scalar "u8", none, true, [.keySuffix "_"]⟩,
    ⟨"front_side", .scalar "String", none, false, [.caseStyle .camel, .rename "front"]⟩,
    ⟨"back_side", .optional (.scalar "String"), none, false, [.default none]⟩]
  handWritten := .nothing

example :
    (generate .shadowing (Configuration.standard.withAdvisories .warning)).diagnostics.map
      (fun d => (d.code, d.severity)) =
        [("K003", .error), ("K002", .warning), ("E009", .error)] ∧
    (generate .shadowing (Configuration.standard.withAdvisories .error)).diagnostics.map
      (fun d => (d.code, d.severity)) = [("K003", .error), ("K002", .error)] := by decide

end RecordCoding
