import RecordCoding.Proofs.Expansion.Wording
import RecordCoding.Proofs.Generation.Alignment
import RecordCoding.Proofs.Traversal

/-!
# Code of artifacts

Where field names are identifiers, code is written for everything a run produced, unless the name
of the key table is none or a plan of the decode routine holds a text that cannot be read. Of such
texts one is reported, and nothing is written.
-/

namespace RecordCoding

open Source

namespace Expansion

/-- What the construction of a value gives to a field: what the plan of the statement for it reads
under the key of the field, or the default of its type if there is no statement. -/
inductive Initializes (table : String) (routine : DecodeRoutine) (field : Field) :
    Initializer → Prop
  | read {statement : DecodeStatement} {value : List Token}
    (member : statement ∈ routine.statements) (name : statement.field = field.name)
    (reads : Reads ([.ident table] ++ phrase "::" ++ [.ident (spelling field.name)])
      statement.plan value) :
    Initializes table routine field ⟨spelling field.name, value⟩
  | standard (unread : ∀ statement ∈ routine.statements, statement.field ≠ field.name) :
    Initializes table routine field
      ⟨spelling field.name, phrase ":: core :: default :: Default :: default" ++ [parens []]⟩

/-- A field is given its value, unless the plan of its statement holds a text that cannot be
read. -/
theorem initializer_cases {table : String} {routine : DecodeRoutine} {field : Field}
    (identifier : IsIdentifier field.name)
    (stored : ∀ statement ∈ routine.statements, statement.field = field.name →
      field.isComputed = false) :
    (∃ made, initializer table routine field = .ok made ∧
      Initializes table routine field made ∧
      ∀ statement, routine.statement? field.name = some statement → ¬ statement.plan.Unreadable) ∨
    ∃ statement ∈ routine.statements, statement.plan.Unreadable ∧
      ∃ defect, initializer table routine field = .error (.defect defect) := by
  unfold initializer
  rw [fieldIdentifier_eq identifier]
  dsimp only [bind, Except.bind]
  cases found : routine.statement? field.name with
  | none =>
    have unread : ∀ statement ∈ routine.statements, statement.field ≠ field.name := by
      intro statement member
      simpa using List.find?_eq_none.mp found statement member
    refine Or.inl ⟨_, ?_, .standard unread, nofun⟩
    cases field.isComputed <;> rfl
  | some statement =>
    have member : statement ∈ routine.statements := List.mem_of_find?_eq_some found
    have name : statement.field = field.name := by simpa using List.find?_some found
    rw [stored statement member name]
    rcases readValue_cases field.name (keyOf table (spelling field.name)) statement.plan with
      ⟨readable, value, made, reads⟩ | ⟨unreadable, defect, failed⟩
    · refine Or.inl ⟨_, ?_, .read member name reads, ?_⟩
      · dsimp only
        rw [made]
      · rintro _ ⟨⟩
        exact readable
    · refine Or.inr ⟨statement, member, unreadable, defect, ?_⟩
      dsimp only
      rw [failed]

/-- Code is written for all artifacts of an outcome and nothing else. -/
structure Code.Covers (code : Code) (decl : Declaration) (outcome : Outcome) (identifier : String)
    (hasBridge : Bool) : Prop where
  /-- The variants are the entries of the key table, in order. -/
  table : code.table = outcome.artifacts.keyTable.map fun table =>
    ⟨identifier, table.entries.map fun entry => ⟨spelling entry.field, entry.key⟩⟩
  /-- Every field of the declaration is given its value, in order. -/
  decode : ∀ routine, outcome.artifacts.decode = some routine →
    ∃ initializers, code.decode = some ⟨identifier, initializers⟩ ∧
      List.Forall₂ (Initializes identifier routine) decl.fields initializers
  noDecode : outcome.artifacts.decode = none → code.decode = none
  /-- The calls are the statements of the encode routine, in order. -/
  encode : code.encode = outcome.artifacts.encode.map fun routine =>
    ⟨identifier, routine.statements.map fun statement =>
      ⟨spelling statement.field, statement.rule⟩⟩
  bridge : code.hasBridge = hasBridge

/-- The variants of a key table are its entries, in order. -/
theorem TableCode.ofTable_eq {identifier : String} {table : KeyTable}
    (identifiers : ∀ entry ∈ table.entries, IsIdentifier entry.field) :
    TableCode.ofTable identifier table =
      .ok ⟨identifier, table.entries.map fun entry => ⟨spelling entry.field, entry.key⟩⟩ := by
  have variants : table.entries.mapM keyVariant =
      .ok (table.entries.map fun entry => ⟨spelling entry.field, entry.key⟩) := by
    refine mapM_eq_ok_map fun entry member => ?_
    rw [keyVariant, fieldIdentifier_eq (identifiers entry member)]
    rfl
  rw [TableCode.ofTable, variants]
  rfl

/-- The calls of an encode routine are its statements, in order. -/
theorem EncodeCode.ofRoutine_eq {table : String} {routine : EncodeRoutine}
    (identifiers : ∀ statement ∈ routine.statements, IsIdentifier statement.field) :
    EncodeCode.ofRoutine table routine =
      .ok ⟨table, routine.statements.map fun statement =>
        ⟨spelling statement.field, statement.rule⟩⟩ := by
  have calls : routine.statements.mapM writeCall =
      .ok (routine.statements.map fun statement =>
        ⟨spelling statement.field, statement.rule⟩) := by
    refine mapM_eq_ok_map fun statement member => ?_
    rw [writeCall, fieldIdentifier_eq (identifiers statement member)]
    rfl
  rw [EncodeCode.ofRoutine, calls]
  rfl

section

variable {decl : Declaration} (names : (decl.fields.map (·.name)).Nodup)
  (identifiers : ∀ field ∈ decl.fields, IsIdentifier field.name)

include names identifiers

/-- Every field is given its value in order, unless a plan holds a text that cannot be read. -/
theorem DecodeCode.ofRoutine_cases {table : String} {routine : DecodeRoutine}
    (statements : routine.statements = decl.storedFields.filterMap Field.decodeStatement?) :
    ((∀ statement ∈ routine.statements, ¬ statement.plan.Unreadable) ∧
      ∃ initializers, DecodeCode.ofRoutine table decl routine = .ok ⟨table, initializers⟩ ∧
        List.Forall₂ (Initializes table routine) decl.fields initializers) ∨
    (∃ statement ∈ routine.statements, statement.plan.Unreadable) ∧
      ∃ defect, DecodeCode.ofRoutine table decl routine = .error (.defect defect) := by
  have stored : ∀ field ∈ decl.fields, ∀ statement ∈ routine.statements,
      statement.field = field.name → field.isComputed = false := by
    intro field within statement member name
    rw [statements] at member
    obtain ⟨other, kept, nameToo, -⟩ := Field.mem_decodeStatements member
    obtain ⟨inside, computed⟩ := Declaration.mem_storedFields.mp kept
    rwa [List.inj_on_of_nodup_map names within inside (name.symm.trans nameToo)]
  have each (field : Field) (within : field ∈ decl.fields) :=
    @initializer_cases table routine field (identifiers field within) (stored field within)
  unfold DecodeCode.ofRoutine
  cases made : decl.fields.mapM (initializer table routine) with
  | error obstacle =>
    obtain ⟨before, field, after, split, -, failed⟩ := mapM_eq_error_iff.mp made
    have within : field ∈ decl.fields := by simp [split]
    rcases each field within with
      ⟨_, succeeds, -⟩ | ⟨statement, member, unreadable, defect, refused⟩
    · rw [failed] at succeeds
      cases succeeds
    · rw [failed] at refused
      cases refused
      exact Or.inr ⟨⟨statement, member, unreadable⟩, defect, rfl⟩
  | ok initializers =>
    have related := mapM_eq_ok_iff.mp made
    have fine : ∀ field found, field ∈ decl.fields → initializer table routine field = .ok found →
        Initializes table routine field found ∧
        ∀ statement, routine.statement? field.name = some statement →
          ¬ statement.plan.Unreadable := by
      intro field found within succeeds
      rcases each field within with ⟨_, same, initializes, readable⟩ | ⟨_, _, _, _, refused⟩
      · rw [succeeds] at same
        cases same
        exact ⟨initializes, readable⟩
      · rw [succeeds] at refused
        cases refused
    refine Or.inl ⟨?_, initializers, rfl, ?_⟩
    · intro statement member
      rw [statements] at member
      obtain ⟨field, kept, produced⟩ := List.mem_filterMap.mp member
      have within := (Declaration.mem_storedFields.mp kept).1
      obtain ⟨found, -, succeeds⟩ := exists_of_mem_left related within
      refine (fine field found within succeeds).2 statement ?_
      rw [DecodeRoutine.statement?, statements, Field.find?_decodeStatements names kept, produced]
    · exact forall₂_imp_of_mem (fun field found within succeeds =>
        (fine field found within succeeds).1) related

omit names in
/-- The entries of a key table that a run produced are under identifiers. -/
theorem isIdentifier_of_keyTable {config : Configuration} {table : KeyTable}
    (produced : (generate decl config).artifacts.keyTable = some table) :
    ∀ entry ∈ table.entries, IsIdentifier entry.field := by
  obtain ⟨found, stands⟩ := exists_generate_of_keyTable produced
  intro entry member
  have listed : entry.field ∈ decl.storedFields.map (·.name) :=
    KeyTable.fields_of_generate stands ▸ List.mem_map_of_mem member
  obtain ⟨field, stored, name⟩ := List.mem_map.mp listed
  exact name ▸ identifiers field (Declaration.mem_storedFields.mp stored).1

/-- The statements of an encode routine that a run produced are for identifiers. -/
theorem isIdentifier_of_encode {config : Configuration} {routine : EncodeRoutine}
    (produced : (generate decl config).artifacts.encode = some routine) :
    ∀ statement ∈ routine.statements, IsIdentifier statement.field := by
  rw [encode_of_done names (done_of_encode produced) produced]
  intro statement member
  obtain ⟨field, stored, rfl⟩ := List.mem_map.mp member
  exact identifiers field (Declaration.mem_storedFields.mp stored).1

/-- The code for what a run produced, or what is wrong with it. -/
theorem Code.ofOutcome_cases (config : Configuration) (hasBridge : Bool) :
    (∃ identifier code, readName (config.tableName decl.name) = .ok identifier ∧
      Code.ofOutcome decl (generate decl config) hasBridge = .ok code ∧
      code.Covers decl (generate decl config) identifier hasBridge ∧
      ∀ routine, (generate decl config).artifacts.decode = some routine →
        ∀ statement ∈ routine.statements, ¬ statement.plan.Unreadable) ∨
    ((∃ cause, readName (config.tableName decl.name) = .error cause) ∨
      ∃ routine, (generate decl config).artifacts.decode = some routine ∧
        ∃ statement ∈ routine.statements, statement.plan.Unreadable) ∧
      ∃ defect, Code.ofOutcome decl (generate decl config) hasBridge =
        .error (.defect defect) := by
  unfold Code.ofOutcome tableIdentifier
  rw [keyTableName_generate]
  cases read : readName (config.tableName decl.name) with
  | error cause => exact Or.inr ⟨Or.inl ⟨cause, rfl⟩, _, rfl⟩
  | ok identifier =>
    have table : (generate decl config).artifacts.keyTable.mapM (TableCode.ofTable identifier) =
        .ok _ := option_mapM_eq_ok_map fun table produced =>
      TableCode.ofTable_eq (isIdentifier_of_keyTable identifiers produced)
    have encode : (generate decl config).artifacts.encode.mapM (EncodeCode.ofRoutine identifier) =
        .ok _ := option_mapM_eq_ok_map fun routine produced =>
      EncodeCode.ofRoutine_eq (isIdentifier_of_encode names identifiers produced)
    dsimp only [Except.mapError, bind, Except.bind]
    rw [table, encode]
    cases produced : (generate decl config).artifacts.decode with
    | none =>
      refine Or.inl ⟨identifier, _, rfl, rfl, ⟨rfl, ?_, fun _ => rfl, rfl, rfl⟩, nofun⟩
      intro routine found
      rw [produced] at found
      cases found
    | some routine =>
      have statements : routine.statements =
          decl.storedFields.filterMap Field.decodeStatement? := by
        rw [decode_of_done names (done_of_decode produced) produced]
      rcases @DecodeCode.ofRoutine_cases _ names identifiers identifier routine statements with
        ⟨readable, initializers, made, related⟩ | ⟨unreadable, defect, failed⟩
      · rw [Option.mapM_some, made]
        refine Or.inl ⟨identifier, _, rfl, rfl, ⟨rfl, ?_, ?_, rfl, rfl⟩, ?_⟩
        · intro other found
          rw [produced] at found
          cases found
          exact ⟨initializers, rfl, related⟩
        · intro none
          rw [produced] at none
          cases none
        · rintro _ ⟨⟩
          exact readable
      · rw [Option.mapM_some, failed]
        exact Or.inr ⟨Or.inr ⟨routine, rfl, unreadable⟩, defect, rfl⟩

end

end Expansion

end RecordCoding
