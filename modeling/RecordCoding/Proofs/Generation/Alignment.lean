import Mathlib.Data.List.Forall2
import RecordCoding.Proofs.Generation.Verdict
import RecordCoding.Proofs.Lookup

/-!
# Alignment of tables and routines

The entries of the key table, the statements of the two routines and the reports about them are
computed apart from each other. For every finished run over fields that share no name they are
aligned: each of them is the list of stored fields again, in order, less what it leaves out.
-/

namespace RecordCoding

open Generation

/-- The key table that the routines of an outcome are bound to: the generated one, or the one
assumed for a type that declares its own. -/
def Outcome.boundTable (outcome : Outcome) (decl : Declaration) (config : Configuration) :
    KeyTable :=
  outcome.artifacts.keyTable.getD (.declared decl config)

/-- A decode statement is the one a field calls for. -/
def DecodeStatement.Reads (statement : DecodeStatement) (field : Field) : Prop :=
  statement.field = field.name ∧ field.readPlan = .ok statement.plan

/-- Key table, routines and reports belong together. -/
structure Outcome.Aligned (outcome : Outcome) (decl : Declaration) (config : Configuration) :
    Prop where
  /-- The table has one entry for each stored field, in order. -/
  entries : (outcome.boundTable decl config).entries.map (·.field) =
    decl.storedFields.map (·.name)
  /-- The routines are the ones assembled over that table. -/
  routines : outcome.artifacts.decode =
      (Assembly.build decl (outcome.boundTable decl config)).decode ∧
    outcome.artifacts.encode = (Assembly.build decl (outcome.boundTable decl config)).encode
  /-- Every stored field is written, and left out without a value exactly if it is optional. -/
  written : ∀ encode, outcome.artifacts.encode = some encode →
    encode.statements = decl.storedFields.map fun field =>
      ⟨field.name, if field.isOptional then .ifPresent else .always⟩
  /-- Every stored field is read by its plan, unless its default lacks a value. -/
  read : ∀ decode, outcome.artifacts.decode = some decode →
    List.Forall₂ DecodeStatement.Reads decode.statements
      (decl.storedFields.filter (!·.lacksDefault))
  /-- What a plan says about writing is what the encode statement does. -/
  rules : ∀ decode encode, outcome.artifacts.decode = some decode →
    outcome.artifacts.encode = some encode →
    ∀ reading ∈ decode.statements, ∀ writing ∈ encode.statements,
      reading.field = writing.field → reading.plan.writeRule = writing.rule
  /-- Both routines name the key table of the outcome. -/
  decode_keyTable : ∀ decode, outcome.artifacts.decode = some decode →
    decode.keyTable = outcome.keyTableName
  encode_keyTable : ∀ encode, outcome.artifacts.encode = some encode →
    encode.keyTable = outcome.keyTableName
  /-- Behind the reports of the key table step there is one for each field that is not read. -/
  diagnostics : outcome.diagnostics = (tableStep decl config).1 ++
    if decl.handWritten.decode then []
    else (decl.storedFields.filter (·.lacksDefault)).map fun field =>
      .of (.missingDefaultValue field.name) (.onField field.name "default")
  /-- None of those is about anything else. -/
  codes : ∀ d ∈ (Assembly.build decl (outcome.boundTable decl config)).diagnostics, d.code = "E009"

namespace Field

/-- The statements of fields are in the order of the fields that have a plan. -/
theorem reads_decodeStatements (fields : List Field) :
    List.Forall₂ DecodeStatement.Reads (fields.filterMap decodeStatement?)
      (fields.filter (!·.lacksDefault)) := by
  induction fields with
  | nil => exact .nil
  | cons field rest ih =>
    rcases field.readPlan_cases with ⟨lacks, refused⟩ | ⟨given, plan, found⟩
    · simpa [decodeStatement?, refused, lacks, Except.toOption] using ih
    · have reads : DecodeStatement.Reads ⟨field.name, plan⟩ field := ⟨rfl, found⟩
      simpa [decodeStatement?, found, given, Except.toOption] using And.intro reads ih

/-- A decode statement comes from a field with that name and plan. -/
theorem mem_decodeStatements {fields : List Field} {statement : DecodeStatement}
    (member : statement ∈ fields.filterMap decodeStatement?) :
    ∃ field ∈ fields, statement.Reads field := by
  obtain ⟨field, within, produced⟩ := List.mem_filterMap.mp member
  refine ⟨field, within, ?_⟩
  unfold decodeStatement? at produced
  obtain ⟨plan, found, rfl⟩ := Option.map_eq_some_iff.mp produced
  cases chosen : field.readPlan with
  | error d => simp [chosen, Except.toOption] at found
  | ok other =>
    rw [chosen] at found
    cases found
    exact ⟨rfl, chosen⟩

/-- The two statements of a field follow the same writing rule. -/
theorem writeRule_eq_rule {decl : Declaration} (names : (decl.fields.map (·.name)).Nodup)
    {reading : DecodeStatement} {writing : EncodeStatement}
    (read : reading ∈ decl.storedFields.filterMap decodeStatement?)
    (written : writing ∈ decl.storedFields.map encodeStatement)
    (same : reading.field = writing.field) : reading.plan.writeRule = writing.rule := by
  obtain ⟨field, stored, name, plan⟩ := mem_decodeStatements read
  obtain ⟨other, storedToo, rfl⟩ := List.mem_map.mp written
  -- Statements know fields by their names only, so the two fields are the same by injectivity.
  have sameField : field = other := List.inj_on_of_nodup_map names
    (Declaration.mem_storedFields.mp stored).1 (Declaration.mem_storedFields.mp storedToo).1
    (name.symm.trans same)
  subst sameField
  rw [ReadPlan.writeRule, isOptional_of_readPlan plan]
  rfl

/-- No two decode statements are for the same field. -/
theorem nodup_decodeStatements {decl : Declaration} (names : (decl.fields.map (·.name)).Nodup) :
    ((decl.storedFields.filterMap decodeStatement?).map (·.field)).Nodup := by
  have listed : (decl.storedFields.filterMap decodeStatement?).map (·.field) =
      (decl.storedFields.filter (!·.lacksDefault)).map (·.name) := by
    rw [← List.forall₂_eq_eq_eq, List.forall₂_map_left_iff, List.forall₂_map_right_iff]
    exact (reads_decodeStatements decl.storedFields).imp fun _ _ reads => reads.1
  rw [listed]
  exact ((List.filter_sublist.trans List.filter_sublist).map _).nodup names

/-- The decode statement that is found for a field is the one it calls for. -/
theorem find?_decodeStatements {decl : Declaration} (names : (decl.fields.map (·.name)).Nodup)
    {field : Field} (stored : field ∈ decl.storedFields) :
    (decl.storedFields.filterMap decodeStatement?).find? (·.field == field.name) =
      field.decodeStatement? := by
  rcases field.readPlan_cases with ⟨-, refused⟩ | ⟨-, plan, found⟩
  · have none : field.decodeStatement? = none := by
      simp [decodeStatement?, refused, Except.toOption]
    rw [none, List.find?_eq_none]
    intro statement member named
    obtain ⟨other, storedToo, name, reads⟩ := mem_decodeStatements member
    have same : other = field := List.inj_on_of_nodup_map names
      (Declaration.mem_storedFields.mp storedToo).1 (Declaration.mem_storedFields.mp stored).1
      (name.symm.trans (by simpa using named))
    rw [same, refused] at reads
    cases reads
  · have some : field.decodeStatement? = some ⟨field.name, plan⟩ := by
      simp [decodeStatement?, found, Except.toOption]
    have member : (⟨field.name, plan⟩ : DecodeStatement) ∈
        decl.storedFields.filterMap decodeStatement? :=
      List.mem_filterMap.mpr ⟨field, stored, some⟩
    rw [some]
    exact find?_key (nodup_decodeStatements names) member

end Field

namespace Generation

/-- A run that is done bound its routines to the table of its outcome. -/
theorem boundTable_of_tableStep {decl : Declaration} {config : Configuration}
    {found : List Diagnostic} {generated : Option KeyTable} {table : KeyTable}
    (step : tableStep decl config = (found, generated, some table)) :
    generated.getD (.declared decl config) = table := by
  rcases tableStep_some step with ⟨-, -, rfl, rfl⟩ | ⟨-, rfl, -⟩ <;> rfl

end Generation

/-- The outcome of a finished run, spelled out over the stored fields. -/
theorem generate_of_done {decl : Declaration} {config : Configuration}
    (names : (decl.fields.map (·.name)).Nodup) (done : (generate decl config).state = .done) :
    ∃ found generated table, tableStep decl config = (found, generated, some table) ∧
      generate decl config =
        { typeName := decl.name
          state := .done
          artifacts :=
            { keyTable := generated
              decode := if decl.handWritten.decode then none
                else some ⟨config.tableName decl.name,
                  decl.storedFields.filterMap Field.decodeStatement?⟩
              encode := if decl.handWritten.encode then none
                else some ⟨config.tableName decl.name,
                  decl.storedFields.map Field.encodeStatement⟩ }
          keyTableName := config.tableName decl.name
          diagnostics := found ++ if decl.handWritten.decode then []
            else (decl.storedFields.filter Field.lacksDefault).map Field.missingDefault } := by
  rw [generate_eq] at done ⊢
  rcases result_cases decl config with
    ⟨-, eq⟩ | ⟨-, found, generated, step, eq⟩ | ⟨-, found, generated, table, step, eq⟩
  · simp [eq] at done
  · simp [eq] at done
  · obtain ⟨name, listed⟩ := table_of_tableStep step
    refine ⟨found, generated, table, step, ?_⟩
    rw [eq, Assembly.build_eq names listed, name]

/-- A run that leaves anything behind is finished. -/
theorem done_of_artifacts {decl : Declaration} {config : Configuration}
    (produced : (generate decl config).artifacts ≠ .nothing) :
    (generate decl config).state = .done := by
  have verdict := Generation.verdict_generate decl config
  exact verdict.terminal.resolve_right fun failed => produced (verdict.failed_empty failed)

/-- A run that produces a key table is finished. -/
theorem done_of_keyTable {decl : Declaration} {config : Configuration} {table : KeyTable}
    (produced : (generate decl config).artifacts.keyTable = some table) :
    (generate decl config).state = .done := by
  refine done_of_artifacts fun nothing => ?_
  rw [nothing] at produced
  cases produced

/-- A run that produces a decode routine is finished. -/
theorem done_of_decode {decl : Declaration} {config : Configuration} {routine : DecodeRoutine}
    (decodes : (generate decl config).artifacts.decode = some routine) :
    (generate decl config).state = .done := by
  refine done_of_artifacts fun nothing => ?_
  rw [nothing] at decodes
  cases decodes

/-- A run that produces an encode routine is finished. -/
theorem done_of_encode {decl : Declaration} {config : Configuration} {routine : EncodeRoutine}
    (encodes : (generate decl config).artifacts.encode = some routine) :
    (generate decl config).state = .done := by
  refine done_of_artifacts fun nothing => ?_
  rw [nothing] at encodes
  cases encodes

/-- A decode routine that is produced reads the stored fields that have a plan. -/
theorem decode_of_done {decl : Declaration} {config : Configuration}
    (names : (decl.fields.map (·.name)).Nodup) (done : (generate decl config).state = .done)
    {decode : DecodeRoutine} (produced : (generate decl config).artifacts.decode = some decode) :
    decode = ⟨config.tableName decl.name, decl.storedFields.filterMap Field.decodeStatement?⟩ := by
  obtain ⟨found, generated, table, -, eq⟩ := generate_of_done names done
  rw [eq] at produced
  exact (Option.some.inj (Option.ite_none_left_eq_some.mp produced).2).symm

/-- An encode routine that is produced writes the stored fields. -/
theorem encode_of_done {decl : Declaration} {config : Configuration}
    (names : (decl.fields.map (·.name)).Nodup) (done : (generate decl config).state = .done)
    {encode : EncodeRoutine} (produced : (generate decl config).artifacts.encode = some encode) :
    encode = ⟨config.tableName decl.name, decl.storedFields.map Field.encodeStatement⟩ := by
  obtain ⟨found, generated, table, -, eq⟩ := generate_of_done names done
  rw [eq] at produced
  exact (Option.some.inj (Option.ite_none_left_eq_some.mp produced).2).symm

/-- Every finished run over fields with distinct names is aligned. -/
theorem aligned_generate {decl : Declaration} {config : Configuration}
    (names : (decl.fields.map (·.name)).Nodup) (done : (generate decl config).state = .done) :
    (generate decl config).Aligned decl config := by
  obtain ⟨found, generated, table, step, eq⟩ := generate_of_done names done
  obtain ⟨name, listed⟩ := table_of_tableStep step
  have bound : (generate decl config).boundTable decl config = table := by
    rw [eq]
    exact boundTable_of_tableStep step
  have built := Assembly.build_eq names listed
  have tableName : (generate decl config).keyTableName = config.tableName decl.name := by rw [eq]
  refine ⟨?_, ?_, ?_, ?_, ?_, ?_, ?_, ?_, ?_⟩
  · rw [bound, listed]
  · rw [bound, built, eq, name]
    exact ⟨rfl, rfl⟩
  · intro encode writes
    rw [encode_of_done names done writes]
    rfl
  · intro decode reads
    rw [decode_of_done names done reads]
    exact Field.reads_decodeStatements decl.storedFields
  · intro decode encode reads writes reading read writing written same
    rw [decode_of_done names done reads] at read
    rw [encode_of_done names done writes] at written
    exact Field.writeRule_eq_rule names read written same
  · intro decode reads
    rw [decode_of_done names done reads, tableName]
  · intro encode writes
    rw [encode_of_done names done writes, tableName]
  · rw [eq, step]
    rfl
  · rw [bound]
    intro d member
    obtain ⟨field, cause⟩ := Assembly.cause_of_mem_build listed member
    rw [Diagnostic.code, cause]
    rfl

/-- A type with a field of every kind: computed, renamed, lossless, optional with a default, and
two whose default lacks a value. -/
def Declaration.assorted : Declaration where
  name := "Post"
  shape := .record
  derives := true
  directives := []
  fields := [⟨"id", .scalar "String", none, false, [.rename "ID", .lossless]⟩,
    ⟨"cache", .array (.scalar "u8"), none, true, [.rename "c"]⟩,
    ⟨"title", .scalar "String", none, false, [.default none]⟩,
    ⟨"tags", .optional (.array (.scalar "String")), none, false, [.skipNull, .keyPrefix "x-"]⟩,
    ⟨"limit", .optional (.scalar "u32"), none, false, [.default (some "10")]⟩,
    ⟨"note", .optional (.scalar "String"), some "None", false, [.default none, .lossless]⟩]
  handWritten := .nothing

/-- The outcome for a field of every kind is aligned. -/
theorem aligned_generate_assorted :
    (Declaration.assorted.fields.map (·.name)).Nodup ∧
    (generate .assorted .standard).state = .done ∧
    (generate .assorted .standard).Aligned .assorted .standard :=
  ⟨by decide, by decide, aligned_generate (by decide) (by decide)⟩

end RecordCoding
