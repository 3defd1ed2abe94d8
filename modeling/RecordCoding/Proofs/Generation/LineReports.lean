import RecordCoding.Proofs.Generation.KeyChoice
import RecordCoding.Proofs.Lines

/-!
# Reports of a run in one line

What a run reports repeats nothing of a declaration but its name and the names of its fields. If
these are lines, then so is every message.
-/

namespace RecordCoding

open Text

/-- The names in a declaration are lines. -/
structure Declaration.IsLine (decl : Declaration) : Prop where
  name : isLine decl.name = true
  fields : ∀ field ∈ decl.fields, isLine field.name = true

/-- Directives are called by lines. -/
theorem Directive.isLine_name (directive : Directive) : isLine directive.name = true := by
  cases directive <;> exact isLine_ofList rfl

section

variable {decl : Declaration} {config : Configuration} (lines : decl.IsLine) {d : Diagnostic}

include lines

/-- What a target is accused of is said in one line. -/
theorem Declaration.IsLine.of_mem_targetFlaws (member : d ∈ decl.targetFlaws) : d.IsLine := by
  unfold targetFlaws at member
  split at member
  · split at member
    · rw [List.mem_singleton.mp member]
      exact ⟨isLine_ofList rfl, Target.isLine_type⟩
    · rw [List.mem_singleton.mp member]
      exact ⟨isLine_ofList rfl, Target.isLine_type⟩
    · rw [List.mem_singleton.mp member]
      exact ⟨isLine_ofList rfl, Target.isLine_type⟩
    all_goals
      obtain ⟨directive, -, rfl⟩ := List.mem_map.mp member
      exact ⟨directive.isLine_name, Target.isLine_onType directive.isLine_name⟩
  · split at member
    · rw [List.mem_singleton.mp member]
      exact ⟨isLine_between (isLine_ofList rfl) lines.name (isLine_ofList rfl), Target.isLine_type⟩
    · rcases List.mem_append.mp member with onType | onField
      · obtain ⟨directive, -, rfl⟩ := List.mem_map.mp onType
        exact ⟨directive.isLine_name, Target.isLine_onType directive.isLine_name⟩
      · obtain ⟨field, declared, within⟩ := List.mem_flatMap.mp onField
        obtain ⟨directive, -, rfl⟩ := List.mem_map.mp within
        exact ⟨directive.isLine_name,
          Target.isLine_onField (lines.fields field declared) directive.isLine_name⟩

omit lines in
/-- So is what a field is told about its key. -/
theorem Field.isLine_of_complaint {field : Field} {advisory : Severity}
    (line : isLine field.name = true) (complaint : field.Complaint advisory d) : d.IsLine := by
  have nothing : isLine "" = true := rfl
  have rename : isLine "rename" = true := isLine_ofList rfl
  have case : isLine "case" = true := isLine_ofList rfl
  cases complaint with
  | computed => exact ⟨nothing, Target.isLine_field line⟩
  | shadowed => exact ⟨nothing, Target.isLine_onField line case⟩
  | empty => exact ⟨nothing, Target.isLine_onField line rename⟩
  | renamedAgain => exact ⟨rename, Target.isLine_onField line rename⟩
  | styledAgain => exact ⟨case, Target.isLine_onField line case⟩

/-- Everything that is found in the key table step is said in one line. -/
theorem Declaration.IsLine.of_mem_tableStep
    (member : d ∈ (Generation.tableStep decl config).1) : d.IsLine := by
  have ofFields (told : d ∈ decl.fields.flatMap fun field =>
      (KeyTable.contribution config decl.keyDefaults field).diagnostics) : d.IsLine := by
    obtain ⟨field, declared, raised⟩ := List.mem_flatMap.mp told
    exact Field.isLine_of_complaint (lines.fields field declared)
      (KeyTable.mem_diagnostics_contribution_iff.mp raised)
  rcases step : Generation.tableStep decl config with ⟨found, generated, _ | table⟩
  · rw [step] at member
    obtain ⟨-, conflict⟩ := Generation.tableStep_none step
    rcases KeyTable.conflict_cases conflict with ⟨-, rfl⟩ | ⟨-, -, rfl⟩
    · rw [List.mem_singleton.mp member]
      have case : isLine "case" = true := isLine_ofList rfl
      exact ⟨case, Target.isLine_onType case⟩
    · exact ofFields member
  · rw [step] at member
    rcases Generation.tableStep_some step with ⟨-, rfl, -, -⟩ | ⟨-, -, built⟩
    · cases member
    · obtain ⟨-, -, -, eq⟩ := KeyTable.generate_eq_ok_iff.mp built
      obtain ⟨-, rfl⟩ := KeyTableReport.mk.inj eq
      exact ofFields member

/-- A default without a value is reported in one line, and nothing else is where the routines are
put together. -/
theorem Declaration.IsLine.of_mem_build {table : KeyTable}
    (listed : table.entries.map (·.field) = decl.storedFields.map (·.name))
    (member : d ∈ (Assembly.build decl table).diagnostics) : d.IsLine := by
  obtain ⟨field, declared, rfl⟩ := Assembly.exists_of_mem_build listed member
  have line := lines.fields field declared
  exact ⟨line, Target.isLine_onField line (isLine_ofList rfl)⟩

/-- Whatever a run reports is said in one line. -/
theorem Declaration.IsLine.of_mem_generate (member : d ∈ (generate decl config).diagnostics) :
    d.IsLine := by
  rw [generate_eq] at member
  rcases Generation.result_cases decl config with
    ⟨-, eq⟩ | ⟨-, found, generated, step, eq⟩ | ⟨-, found, generated, table, step, eq⟩ <;>
    rw [eq] at member
  · exact lines.of_mem_targetFlaws member
  · have inside : d ∈ (Generation.tableStep decl config).1 := by rwa [step]
    exact lines.of_mem_tableStep inside
  · rcases List.mem_append.mp member with naming | missing
    · have inside : d ∈ (Generation.tableStep decl config).1 := by rwa [step]
      exact lines.of_mem_tableStep inside
    · exact lines.of_mem_build (Generation.table_of_tableStep step).2 missing

end

end RecordCoding
