import RecordCoding.Proofs.Expansion.AllOrNothing

/-!
# What keeps code from being written

Whatever the names of the fields, code for what a run produced is kept back by one of two things:
a text that cannot be read, which is reported, or the name of a declared field for which there is
no identifier, which is not.
-/

namespace RecordCoding

namespace Assembly

/-- Every statement that writes is for a field of the declaration. -/
theorem mem_fields_of_encode {decl : Declaration} {table : KeyTable} {routine : EncodeRoutine}
    (made : (build decl table).encode = some routine) {statement : EncodeStatement}
    (member : statement ∈ routine.statements) : statement.field ∈ decl.fields.map (·.name) := by
  obtain ⟨-, same⟩ := Option.ite_none_left_eq_some.mp made
  cases same
  obtain ⟨one, inside, contributed⟩ := List.mem_flatMap.mp member
  obtain ⟨entry, -, rfl⟩ := List.mem_map.mp inside
  unfold part at contributed
  split at contributed
  · cases contributed
  · rename_i field found
    rw [List.mem_singleton.mp contributed]
    exact List.mem_map_of_mem (List.mem_of_find?_eq_some found)

end Assembly

/-- Every statement of an encode routine that a run produced is for a field of the declaration. -/
theorem mem_fields_of_encode {decl : Declaration} {config : Configuration}
    {routine : EncodeRoutine}
    (produced : (generate decl config).artifacts.encode = some routine)
    {statement : EncodeStatement} (member : statement ∈ routine.statements) :
    statement.field ∈ decl.fields.map (·.name) := by
  rw [generate_eq] at produced
  rcases Generation.result_cases decl config with
    ⟨-, eq⟩ | ⟨-, _, _, -, eq⟩ | ⟨-, _, _, _, -, eq⟩ <;> rw [eq] at produced
  · cases produced
  · cases produced
  · exact Assembly.mem_fields_of_encode produced member

namespace Expansion

open Source

/-- Something that the code for an outcome needs is a text that cannot be read: the name of the key
table, or what the plan of a field's statement holds. -/
def Illegible (decl : Declaration) (outcome : Outcome) : Prop :=
  (∃ cause, readName outcome.keyTableName = .error cause) ∨
    ∃ routine, outcome.artifacts.decode = some routine ∧
      ∃ field ∈ decl.fields, field.isComputed = false ∧
        ∃ statement, routine.statement? field.name = some statement ∧ statement.plan.Unreadable

/-- A name without an identifier is the only thing that is wrong with a name. -/
theorem obstacle_of_fieldIdentifier {name : String} {obstacle : Obstacle}
    (failed : fieldIdentifier name = .error obstacle) : obstacle = .unwritable ⟨name⟩ := by
  unfold fieldIdentifier at failed
  split at failed
  · split at failed
    · cases failed
    · split at failed
      · cases failed
        rfl
      · cases failed
  · cases failed
    rfl

/-- A field is given no value if its name has no identifier, or if what the plan of its statement
holds cannot be read. -/
theorem obstacle_of_initializer {table : String} {routine : DecodeRoutine} {field : Field}
    {obstacle : Obstacle} (failed : initializer table routine field = .error obstacle) :
    fieldIdentifier field.name = .error obstacle ∨
      (∃ defect, obstacle = .defect defect) ∧ field.isComputed = false ∧
        ∃ statement, routine.statement? field.name = some statement ∧
          statement.plan.Unreadable := by
  unfold initializer at failed
  cases named : fieldIdentifier field.name with
  | error other =>
    rw [named] at failed
    cases failed
    exact Or.inl rfl
  | ok identifier =>
    rw [named] at failed
    dsimp only [bind, Except.bind] at failed
    split at failed
    · rename_i statement stored found
      rcases readValue_cases field.name (keyOf table identifier) statement.plan with
        ⟨-, value, reads, -⟩ | ⟨unreadable, defect, refused⟩
      · rw [reads] at failed
        cases failed
      · rw [refused] at failed
        cases failed
        exact Or.inr ⟨⟨defect, rfl⟩, stored, statement, found, unreadable⟩
    · cases failed

/-- What the plan of the statement of a field holds can be read if the field is given a value. -/
theorem readable_of_initializer {table : String} {routine : DecodeRoutine} {field : Field}
    {made : Initializer} (succeeds : initializer table routine field = .ok made)
    (stored : field.isComputed = false) {statement : DecodeStatement}
    (found : routine.statement? field.name = some statement) : ¬ statement.plan.Unreadable := by
  unfold initializer at succeeds
  obtain ⟨identifier, -, rest⟩ := bind_eq_ok_iff.mp succeeds
  rw [stored, found] at rest
  obtain ⟨value, reads, -⟩ := bind_eq_ok_iff.mp rest
  rcases readValue_cases field.name (keyOf table identifier) statement.plan with
    ⟨readable, -⟩ | ⟨-, defect, refused⟩
  · exact readable
  · rw [reads] at refused
    cases refused

section

variable {decl : Declaration} {config : Configuration} {hasBridge : Bool}

/-- Where code is written, everything it needs can be read. -/
theorem not_illegible_of_code {code : Code}
    (made : Code.ofOutcome decl (generate decl config) hasBridge = .ok code) :
    ¬ Illegible decl (generate decl config) := by
  unfold Code.ofOutcome at made
  obtain ⟨identifier, named, rest⟩ := bind_eq_ok_iff.mp made
  obtain ⟨table, -, rest⟩ := bind_eq_ok_iff.mp rest
  obtain ⟨decode, decodes, -⟩ := bind_eq_ok_iff.mp rest
  rintro (⟨cause, unread⟩ |
    ⟨routine, produced, field, member, stored, statement, found, unreadable⟩)
  · rw [tableIdentifier, unread] at named
    cases named
  · rw [produced, Option.mapM_some] at decodes
    obtain ⟨code, written, -⟩ := map_eq_ok_iff.mp decodes
    obtain ⟨initializers, each, -⟩ := map_eq_ok_iff.mp written
    obtain ⟨_, -, succeeds⟩ := exists_of_mem_left (mapM_eq_ok_iff.mp each) member
    exact readable_of_initializer succeeds stored found unreadable

/-- The variants of a key table that was produced fail to be named only as a declared field does. -/
theorem obstacle_of_table {identifier : String} {obstacle : Obstacle} {table : KeyTable}
    (produced : (generate decl config).artifacts.keyTable = some table)
    (failed : TableCode.ofTable identifier table = .error obstacle) :
    ∃ field ∈ decl.fields, fieldIdentifier field.name = .error obstacle := by
  obtain ⟨entry, member, refused⟩ := exists_of_mapM_eq_error (map_eq_error_iff.mp failed)
  obtain ⟨_, stands⟩ := exists_generate_of_keyTable produced
  have listed : entry.field ∈ decl.storedFields.map (·.name) :=
    KeyTable.fields_of_generate stands ▸ List.mem_map_of_mem member
  obtain ⟨field, stored, name⟩ := List.mem_map.mp listed
  refine ⟨field, (Declaration.mem_storedFields.mp stored).1, ?_⟩
  rw [name]
  exact map_eq_error_iff.mp refused

/-- So do the calls of an encode routine. -/
theorem obstacle_of_encode {identifier : String} {obstacle : Obstacle} {routine : EncodeRoutine}
    (produced : (generate decl config).artifacts.encode = some routine)
    (failed : EncodeCode.ofRoutine identifier routine = .error obstacle) :
    ∃ field ∈ decl.fields, fieldIdentifier field.name = .error obstacle := by
  obtain ⟨statement, member, refused⟩ := exists_of_mapM_eq_error (map_eq_error_iff.mp failed)
  obtain ⟨field, declared, name⟩ := List.mem_map.mp (mem_fields_of_encode produced member)
  refine ⟨field, declared, ?_⟩
  rw [name]
  exact map_eq_error_iff.mp refused

/-- The values of a decode routine also fail where what a plan holds cannot be read. -/
theorem obstacle_of_decode {identifier : String} {obstacle : Obstacle} {routine : DecodeRoutine}
    (produced : (generate decl config).artifacts.decode = some routine)
    (failed : DecodeCode.ofRoutine identifier decl routine = .error obstacle) :
    ((∃ defect, obstacle = .defect defect) ∧ Illegible decl (generate decl config)) ∨
      ∃ field ∈ decl.fields, fieldIdentifier field.name = .error obstacle := by
  obtain ⟨field, member, refused⟩ := exists_of_mapM_eq_error (map_eq_error_iff.mp failed)
  rcases obstacle_of_initializer refused with
    unnamed | ⟨defect, stored, statement, found, unreadable⟩
  · exact Or.inr ⟨field, member, unnamed⟩
  · exact Or.inl ⟨defect,
      Or.inr ⟨routine, produced, field, member, stored, statement, found, unreadable⟩⟩

/-- Where none is written, something cannot be read, or a declared name has no identifier. -/
theorem obstacle_of_code {obstacle : Obstacle}
    (failed : Code.ofOutcome decl (generate decl config) hasBridge = .error obstacle) :
    ((∃ defect, obstacle = .defect defect) ∧ Illegible decl (generate decl config)) ∨
      ∃ field ∈ decl.fields, fieldIdentifier field.name = .error obstacle := by
  unfold Code.ofOutcome at failed
  rcases bind_eq_error_iff.mp failed with unnamed | ⟨identifier, -, failed⟩
  · left
    unfold tableIdentifier at unnamed
    cases read : readName (generate decl config).keyTableName with
    | ok _ =>
      rw [read] at unnamed
      cases unnamed
    | error cause =>
      rw [read] at unnamed
      cases unnamed
      exact ⟨⟨_, rfl⟩, Or.inl ⟨cause, read⟩⟩
  rcases bind_eq_error_iff.mp failed with untabled | ⟨_, -, failed⟩
  · obtain ⟨table, produced, refused⟩ := option_mapM_eq_error_iff.mp untabled
    exact Or.inr (obstacle_of_table produced refused)
  rcases bind_eq_error_iff.mp failed with undecoded | ⟨_, -, failed⟩
  · obtain ⟨routine, produced, refused⟩ := option_mapM_eq_error_iff.mp undecoded
    exact obstacle_of_decode produced refused
  rcases bind_eq_error_iff.mp failed with unencoded | ⟨_, -, finished⟩
  · obtain ⟨routine, produced, refused⟩ := option_mapM_eq_error_iff.mp unencoded
    exact Or.inr (obstacle_of_encode produced refused)
  · cases finished

end

/-- What is rendered for the run of a lowered type. -/
inductive Rendering (item : TypeItem) (lowered : Lowered) (config : Configuration) : Prop
  /-- Nothing but notices: the run failed. -/
  | failed (state : (generate lowered.decl config).state = .failed)
    (tokens : render item lowered (generate lowered.decl config) config =
      .ok (notices (lowered.flaws ++ (generate lowered.decl config).diagnostics)))
  /-- Code behind the notices. -/
  | code (code : Code) (state : (generate lowered.decl config).state = .done)
    (legible : ¬ Illegible lowered.decl (generate lowered.decl config))
    (tokens : render item lowered (generate lowered.decl config) config =
      .ok (notices (lowered.flaws ++ (generate lowered.decl config).diagnostics) ++
        code.tokens item))
  /-- One more notice in place of code. -/
  | defect (defect : Defect) (state : (generate lowered.decl config).state = .done)
    (illegible : Illegible lowered.decl (generate lowered.decl config))
    (tokens : render item lowered (generate lowered.decl config) config =
      .ok (notices (lowered.flaws ++ (generate lowered.decl config).diagnostics ++
        [defect.diagnostic])))
  /-- Nothing at all. -/
  | unwritable (name : UnwritableName) {field : Field} (declared : field ∈ lowered.decl.fields)
    (refused : fieldIdentifier field.name = .error (.unwritable name))
    (nothing : render item lowered (generate lowered.decl config) config = .error name)

/-- A run that is rendered comes to one of these. -/
theorem rendering (item : TypeItem) (lowered : Lowered) (config : Configuration) :
    Rendering item lowered config := by
  rcases (Generation.verdict_generate lowered.decl config).terminal with done | failed
  · cases made : Code.ofOutcome lowered.decl (generate lowered.decl config)
      (config.serdeBridge && !lowered.skipsBridge) with
    | ok code => exact .code code done (not_illegible_of_code made) (render_of_code done made)
    | error obstacle =>
      cases obstacle with
      | defect defect =>
        rcases obstacle_of_code made with ⟨-, illegible⟩ | ⟨field, -, refused⟩
        · exact .defect defect done illegible (render_of_defect done made)
        · cases obstacle_of_fieldIdentifier refused
      | unwritable name =>
        have nothing : artifactTokens item lowered (generate lowered.decl config) config =
            .error name := by
          delta artifactTokens
          rw [made]
        have rendered := render_of_done item lowered config done
        rw [nothing] at rendered
        rcases obstacle_of_code made with ⟨⟨defect, impossible⟩, -⟩ | ⟨field, declared, refused⟩
        · cases impossible
        · exact .unwritable name declared refused rendered
  · have gaveUp : (generate lowered.decl config).isFailed = true := by
      rw [Outcome.isFailed, failed]
      rfl
    exact .failed failed (render_of_isFailed item lowered config gaveUp)

end Expansion

end RecordCoding
