import RecordCoding.Proofs.Expansion.Obstruction

/-!
# Where defects come from

A defect in the code for a type is about the name of its key table, about the text of a default or
about the text of a type, and each time it is that text that could not be read.
-/

namespace RecordCoding.Expansion

open Source

/-- A defect in the code of a declaration, with what could not be read. -/
inductive Arises (decl : Declaration) (tableName : String) : Defect → Prop
  | tableName {cause : SyntaxError} (unread : readName tableName = .error cause) :
    Arises decl tableName (.tableName tableName)
  | expression {field : Field} (declared : field ∈ decl.fields) {text : String}
    {cause : SyntaxError} (unread : readExpression text = .error cause) :
    Arises decl tableName (.expression field.name cause)
  | type {type : FieldType} {cause : SyntaxError} (unread : readType type.text = .error cause) :
    Arises decl tableName (.type type.text cause)

variable {decl : Declaration} {tableName : String}

/-- The tokens of a type fail to be written only where its text cannot be read. -/
theorem arises_of_typeTokens {type : FieldType} {defect : Defect}
    (failed : typeTokens type = .error (.defect defect)) : Arises decl tableName defect := by
  unfold typeTokens at failed
  split at failed
  · cases failed
  · rename_i cause unread
    cases failed
    exact .type unread

/-- Those of a default do where the text of the expression cannot be read. -/
theorem arises_of_fallbackTokens {field : Field} (declared : field ∈ decl.fields) {text : String}
    {defect : Defect} (failed : fallbackTokens field.name text = .error (.defect defect)) :
    Arises decl tableName defect := by
  unfold fallbackTokens at failed
  split at failed
  · rename_i cause unread
    cases failed
    exact .expression declared unread
  · split at failed <;> cases failed
  · cases failed

/-- A plan holds a text that cannot be read where it gives no value. -/
theorem arises_of_readValue {field : Field} (declared : field ∈ decl.fields) {key : List Token}
    {plan : ReadPlan} {defect : Defect}
    (failed : readValue field.name key plan = .error (.defect defect)) :
    Arises decl tableName defect := by
  cases plan with
  | direct | optional | lossless => cases failed
  | defaulted text optional =>
    rcases bind_eq_error_iff.mp failed with unread | ⟨_, -, finished⟩
    · exact arises_of_fallbackTokens declared unread
    · cases finished
  | compactArray element optional | compactSet element optional =>
    rcases bind_eq_error_iff.mp failed with unread | ⟨_, -, finished⟩
    · exact arises_of_typeTokens unread
    · cases finished
  | compactMap name value optional =>
    rcases bind_eq_error_iff.mp failed with unread | ⟨_, -, failed⟩
    · exact arises_of_typeTokens unread
    rcases bind_eq_error_iff.mp failed with unread | ⟨_, -, finished⟩
    · exact arises_of_typeTokens unread
    · cases finished

/-- A declared field that is given no value has such a plan, or its name has no identifier. -/
theorem arises_of_initializer {table : String} {routine : DecodeRoutine} {field : Field}
    (declared : field ∈ decl.fields) {defect : Defect}
    (failed : initializer table routine field = .error (.defect defect)) :
    Arises decl tableName defect := by
  unfold initializer at failed
  rcases bind_eq_error_iff.mp failed with unnamed | ⟨identifier, -, failed⟩
  · cases obstacle_of_fieldIdentifier unnamed
  split at failed
  · rcases bind_eq_error_iff.mp failed with unread | ⟨_, -, finished⟩
    · exact arises_of_readValue declared unread
    · cases finished
  · cases failed

/-- The name of a key table fails to be written only where it cannot be read. -/
theorem arises_of_tableIdentifier {defect : Defect}
    (failed : tableIdentifier tableName = .error (.defect defect)) :
    Arises decl tableName defect := by
  obtain ⟨cause, unread, same⟩ := mapError_eq_error_iff.mp failed
  cases same
  exact .tableName unread

/-- Every defect in the code for what a run produced comes from a text that could not be read. -/
theorem arises_of_code {config : Configuration} {hasBridge : Bool} {defect : Defect}
    (failed : Code.ofOutcome decl (generate decl config) hasBridge = .error (.defect defect)) :
    Arises decl (config.tableName decl.name) defect := by
  unfold Code.ofOutcome at failed
  rw [keyTableName_generate] at failed
  rcases bind_eq_error_iff.mp failed with unnamed | ⟨identifier, -, failed⟩
  · exact arises_of_tableIdentifier unnamed
  rcases bind_eq_error_iff.mp failed with untabled | ⟨_, -, failed⟩
  · obtain ⟨table, produced, refused⟩ := option_mapM_eq_error_iff.mp untabled
    obtain ⟨field, -, unnamed⟩ := obstacle_of_table produced refused
    cases obstacle_of_fieldIdentifier unnamed
  rcases bind_eq_error_iff.mp failed with undecoded | ⟨_, -, failed⟩
  · obtain ⟨routine, produced, refused⟩ := option_mapM_eq_error_iff.mp undecoded
    obtain ⟨field, declared, unread⟩ := exists_of_mapM_eq_error (map_eq_error_iff.mp refused)
    exact arises_of_initializer declared unread
  rcases bind_eq_error_iff.mp failed with unencoded | ⟨_, -, finished⟩
  · obtain ⟨routine, produced, refused⟩ := option_mapM_eq_error_iff.mp unencoded
    obtain ⟨field, -, unnamed⟩ := obstacle_of_encode produced refused
    cases obstacle_of_fieldIdentifier unnamed
  · cases finished

end RecordCoding.Expansion
