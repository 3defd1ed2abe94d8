import RecordCoding.Proofs.Generation.Assembled
import RecordCoding.Proofs.Generation.Result

/-!
# How a run ends

A run is done or it has failed, and which of the two is decided by the declaration alone: by what
it asks for, by its shape, by the directives on the type and by the keys of its fields. A failed
run has no artifacts and has named an error; a run that is done has exactly the artifacts that
are not written by hand.
-/

namespace RecordCoding

namespace Generation

/-- The cause raised for a step that the order of states does not allow. -/
def invalidStep (source target : GenerationState) : Cause :=
  .internal ("invalid generation transition " ++ source.text ++ " -> " ++ target.text)

/-- A message that begins with another character is not about a step. -/
theorem ne_invalidStep {detail : String} {first : Char} {rest : List Char}
    (begins : detail.toList = first :: rest) (apart : first ≠ 'i')
    (source target : GenerationState) : Cause.internal detail ≠ invalidStep source target := by
  intro same
  have text := congrArg String.toList (Cause.internal.inj same)
  rw [begins] at text
  simp only [String.toList_append, List.append_assoc] at text
  exact apart (List.cons.inj text).1

end Generation

open Generation

namespace Declaration

/-- A target is accepted if it asks for generation, is a struct without positions, and carries no
directive that belongs on a field. -/
theorem targetFlaws_eq_nil_iff (decl : Declaration) :
    decl.targetFlaws = [] ↔
      decl.derives = true ∧ decl.shape ∉ [.tuple, .enumeration, .union] ∧
      ∀ d ∈ decl.directives, d.fitsType = true := by
  unfold targetFlaws
  cases decl.derives with
  | false => cases flaws : decl.derivationFlaws <;> simp
  | true => cases decl.shape <;> simp

/-- A target that is refused gives one of three reasons. -/
theorem reason_of_targetFlaws {decl : Declaration} (flaws : decl.targetFlaws ≠ []) :
    decl.derives = false ∨ decl.shape ∈ [.tuple, .enumeration, .union] ∨
      ∃ d ∈ decl.directives, d.fitsType = false := by
  by_contra clear
  push Not at clear
  exact flaws (decl.targetFlaws_eq_nil_iff.mpr (by simpa using clear))

/-- What a target can be accused of. -/
theorem mem_targetFlaws {decl : Declaration} {d : Diagnostic} (member : d ∈ decl.targetFlaws) :
    ∃ target, (∃ attr, d = .of (.requiresDerive attr) target) ∨
      (∃ attr, d = .of (.fieldOnly attr) target) ∨
      d = .of .notAFlatRecord target ∨ d = .of .notAStruct target ∨
      d = .of (.internal ("`" ++ decl.name ++ "` does not request generation")) target := by
  have derivation : ∀ flaw ∈ decl.derivationFlaws,
      ∃ attr target, flaw = .of (.requiresDerive attr) target := by
    intro flaw raised
    unfold derivationFlaws at raised
    rcases List.mem_append.mp raised with onType | onField
    · obtain ⟨_, _, rfl⟩ := List.mem_map.mp onType
      exact ⟨_, _, rfl⟩
    · obtain ⟨_, _, within⟩ := List.mem_flatMap.mp onField
      obtain ⟨_, _, rfl⟩ := List.mem_map.mp within
      exact ⟨_, _, rfl⟩
  unfold targetFlaws at member
  split at member
  · split at member
    · exact ⟨_, .inr (.inr (.inl (List.mem_singleton.mp member)))⟩
    · exact ⟨_, .inr (.inr (.inr (.inl (List.mem_singleton.mp member))))⟩
    · exact ⟨_, .inr (.inr (.inr (.inl (List.mem_singleton.mp member))))⟩
    all_goals
      obtain ⟨_, _, rfl⟩ := List.mem_map.mp member
      exact ⟨_, .inr (.inl ⟨_, rfl⟩)⟩
  · split at member
    · exact ⟨_, .inr (.inr (.inr (.inr (List.mem_singleton.mp member))))⟩
    · obtain ⟨attr, target, rfl⟩ := derivation d member
      exact ⟨target, .inl ⟨attr, rfl⟩⟩

/-- Every complaint about a target is an error. -/
theorem severity_of_mem_targetFlaws {decl : Declaration} {d : Diagnostic}
    (member : d ∈ decl.targetFlaws) : d.severity = .error := by
  obtain ⟨_, ⟨_, rfl⟩ | ⟨_, rfl⟩ | rfl | rfl | rfl⟩ := mem_targetFlaws member <;> rfl

/-- No complaint about a target is about a step of the run. -/
theorem cause_of_mem_targetFlaws {decl : Declaration} {d : Diagnostic}
    (member : d ∈ decl.targetFlaws) (source target : GenerationState) :
    d.cause ≠ invalidStep source target := by
  obtain ⟨_, ⟨_, rfl⟩ | ⟨_, rfl⟩ | rfl | rfl | rfl⟩ := mem_targetFlaws member
  case inr.inr.inr.inr =>
    have begins : ("`" ++ decl.name ++ "` does not request generation").toList =
        '`' :: (decl.name.toList ++ "` does not request generation".toList) := by
      simp [String.toList_append]
    exact ne_invalidStep begins (by decide) source target
  all_goals nofun

end Declaration

/-- What a run leaves behind, decided by the declaration and the configuration. -/
structure Outcome.Verdict (outcome : Outcome) (decl : Declaration) (config : Configuration) :
    Prop where
  /-- A run ends in one of the two terminal states. -/
  terminal : outcome.state = .done ∨ outcome.state = .failed
  /-- No step was ever out of order. -/
  steps_valid : ∀ d ∈ outcome.diagnostics, ∀ source target, d.cause ≠ invalidStep source target
  /-- The four reasons to fail. -/
  failed_iff : outcome.state = .failed ↔
    decl.derives = false ∨ decl.shape ∈ [.tuple, .enumeration, .union] ∨
    (∃ d ∈ decl.directives, d.fitsType = false) ∨
    (decl.handWritten.keyTable = false ∧
      ∃ found, KeyTable.generate decl config = .error (.conflict found))
  /-- Whatever had been stored before a failure is dropped. -/
  failed_empty : outcome.state = .failed → outcome.artifacts = .nothing
  /-- A failure is never silent. -/
  failed_error : outcome.state = .failed → ∃ d ∈ outcome.diagnostics, d.severity = .error
  /-- The artifacts of a finished run are those that are not written by hand. -/
  done_keyTable : outcome.state = .done →
    outcome.artifacts.keyTable.isSome = !decl.handWritten.keyTable
  done_decode : outcome.state = .done → outcome.artifacts.decode.isSome = !decl.handWritten.decode
  done_encode : outcome.state = .done → outcome.artifacts.encode.isSome = !decl.handWritten.encode

namespace Generation

/-- A table that routines are bound to lists the stored fields and carries the reserved name. -/
theorem table_of_tableStep {decl : Declaration} {config : Configuration}
    {found : List Diagnostic} {generated : Option KeyTable} {table : KeyTable}
    (step : tableStep decl config = (found, generated, some table)) :
    table.name = config.tableName decl.name ∧
      table.entries.map (·.field) = decl.storedFields.map (·.name) := by
  rcases tableStep_some step with ⟨-, -, -, rfl⟩ | ⟨-, -, built⟩
  · exact ⟨rfl, KeyTable.fields_declared decl config⟩
  · exact ⟨KeyTable.name_of_generate built, KeyTable.fields_of_generate built⟩

/-- A key table step that succeeds speaks of naming only, produces a table unless one is declared,
and excludes a conflict. -/
theorem facts_of_tableStep {decl : Declaration} {config : Configuration}
    {found : List Diagnostic} {generated : Option KeyTable} {table : KeyTable}
    (step : tableStep decl config = (found, generated, some table)) :
    (∀ d ∈ found, d.IsNaming) ∧ generated.isSome = !decl.handWritten.keyTable ∧
      ∀ found, KeyTable.generate decl config ≠ .error (.conflict found) := by
  rcases tableStep_some step with ⟨declared, rfl, rfl, -⟩ | ⟨undeclared, rfl, built⟩
  · have exists? : KeyTable.generate decl config =
        .error (.alreadyExists (config.tableName decl.name)) := by
      simp [KeyTable.generate, declared]
    exact ⟨nofun, by simp [declared], fun found => by simp [exists?]⟩
  · exact ⟨fun d member => KeyTable.isNaming_of_generate built member, by simp [undeclared],
      fun found => by simp [built]⟩

/-- The verdict on a run that refuses its target. -/
theorem verdict_of_refused {decl : Declaration} {config : Configuration}
    (flaws : decl.targetFlaws ≠ []) :
    Outcome.Verdict ⟨decl.name, .failed, .nothing, config.tableName decl.name, decl.targetFlaws⟩
      decl config := by
  obtain ⟨flaw, member⟩ := List.exists_mem_of_ne_nil _ flaws
  refine ⟨.inr rfl, fun d => Declaration.cause_of_mem_targetFlaws, ⟨fun _ => ?_, fun _ => rfl⟩,
    fun _ => rfl, fun _ => ⟨flaw, member, Declaration.severity_of_mem_targetFlaws member⟩,
    nofun, nofun, nofun⟩
  rcases Declaration.reason_of_targetFlaws flaws with derives | shape | foreign
  · exact .inl derives
  · exact .inr (.inl shape)
  · exact .inr (.inr (.inl foreign))

/-- The verdict on a run whose key table is in conflict. -/
theorem verdict_of_conflict {decl : Declaration} {config : Configuration}
    {found : List Diagnostic} {generated : Option KeyTable}
    (step : tableStep decl config = (found, generated, none)) :
    Outcome.Verdict ⟨decl.name, .failed, .nothing, config.tableName decl.name, found⟩
      decl config := by
  obtain ⟨undeclared, conflict⟩ := tableStep_none step
  exact ⟨.inr rfl,
    fun d member _ _ => (KeyTable.isNaming_of_conflict conflict member).cause_ne_internal _,
    ⟨fun _ => .inr (.inr (.inr ⟨undeclared, found, conflict⟩)), fun _ => rfl⟩,
    fun _ => rfl, fun _ => KeyTable.exists_error_of_conflict conflict, nofun, nofun, nofun⟩

/-- The verdict on a run that nothing is in the way of. -/
theorem verdict_of_done {decl : Declaration} {config : Configuration}
    {found : List Diagnostic} {generated : Option KeyTable} {table : KeyTable}
    (none : decl.targetFlaws = [])
    (step : tableStep decl config = (found, generated, some table)) :
    Outcome.Verdict ⟨decl.name, .done,
      ⟨generated, (Assembly.build decl table).decode, (Assembly.build decl table).encode⟩,
      config.tableName decl.name, found ++ (Assembly.build decl table).diagnostics⟩
      decl config := by
  obtain ⟨-, listed⟩ := table_of_tableStep step
  obtain ⟨derives, shape, fits⟩ := decl.targetFlaws_eq_nil_iff.mp none
  obtain ⟨naming, isSome, clear⟩ := facts_of_tableStep step
  refine ⟨.inl rfl, fun d member => ?_, ⟨nofun, ?_⟩, nofun, nofun, fun _ => isSome,
    fun _ => Assembly.isSome_decode_build decl table,
    fun _ => Assembly.isSome_encode_build decl table⟩
  · rcases List.mem_append.mp member with early | late
    · exact fun _ _ => (naming d early).cause_ne_internal _
    · obtain ⟨name, cause⟩ := Assembly.cause_of_mem_build listed late
      rw [cause]
      nofun
  · rintro (h | h | ⟨d, member, h⟩ | ⟨-, found, h⟩)
    · simp [derives] at h
    · exact absurd h shape
    · simp [fits d member] at h
    · exact absurd h (clear found)

/-- A run has the verdict that its declaration calls for. -/
theorem verdict_generate (decl : Declaration) (config : Configuration) :
    (generate decl config).Verdict decl config := by
  rw [generate_eq]
  rcases result_cases decl config with
    ⟨flaws, eq⟩ | ⟨none, found, generated, step, eq⟩ | ⟨none, found, generated, table, step, eq⟩
  · rw [eq]
    exact verdict_of_refused flaws
  · rw [eq]
    exact verdict_of_conflict step
  · rw [eq]
    exact verdict_of_done none step

end Generation

/-- For every declaration, configuration and sink: a run has its verdict, and the sink receives
the diagnostics of the outcome, all of them, in their order and under the name of the type. -/
theorem generateWith_verdict {m : Type → Type} [Monad m] [LawfulMonad m] (sink : Sink m)
    (decl : Declaration) (config : Configuration) :
    (generate decl config).Verdict decl config ∧
    generateWith sink decl config = (do
      (generate decl config).diagnostics.forM (sink decl.name)
      pure (generate decl config)) :=
  ⟨Generation.verdict_generate decl config, generateWith_eq sink decl config⟩

/-- A type that is refused at its last field only, for an empty literal key. -/
def Declaration.lateConflict : Declaration where
  name := "Draft"
  shape := .record
  derives := true
  directives := [.keyPrefix "x-"]
  fields := [⟨"id", .scalar "u64", none, false, []⟩,
    ⟨"cache", .scalar "u8", none, true, [.keySuffix "_"]⟩,
    ⟨"title", .optional (.scalar "String"), none, false, [.rename "", .default none]⟩]
  handWritten := .nothing

/-- The collecting sink holds the reports of a failed run, in order. -/
theorem generateWith_verdict_collecting :
    (generate .lateConflict .standard).state = .failed ∧
    (generate .lateConflict .standard).Verdict .lateConflict .standard ∧
    generateWith Sink.collecting .lateConflict .standard = (do
      (generate .lateConflict .standard).diagnostics.forM (Sink.collecting "Draft")
      pure (generate .lateConflict .standard)) :=
  ⟨by decide, generateWith_verdict Sink.collecting .lateConflict .standard⟩

end RecordCoding
