import RecordCoding.Proofs.Commands.Agreement
import RecordCoding.Proofs.Expansion.AttributeFold
import RecordCoding.Proofs.Source.SourceNames

/-!
# Fields that are named by an underscore

For every type that can be read off a text there is code, or a report of why there is none, as long
as no field is named by an underscore. All other names have an identifier, wherever the code has
one for a field: in the key table, in the statements of the routines and in the value that is
constructed. An underscore has none, not even with the mark of raw identifiers, and then nothing is
written and nothing reported.
-/

namespace RecordCoding

/-- Every statement that reads is for a field of the declaration. -/
theorem Assembly.mem_fields_of_decode {decl : Declaration} {table : KeyTable}
    {routine : DecodeRoutine} (made : (build decl table).decode = some routine)
    {statement : DecodeStatement} (member : statement ∈ routine.statements) :
    statement.field ∈ decl.fields.map (·.name) := by
  obtain ⟨-, same⟩ := Option.ite_none_left_eq_some.mp made
  cases same
  obtain ⟨one, inside, contributed⟩ := List.mem_flatMap.mp member
  obtain ⟨entry, -, rfl⟩ := List.mem_map.mp inside
  unfold part at contributed
  split at contributed
  · cases contributed
  · rename_i field found
    dsimp only [decodePart] at contributed
    split at contributed
    · cases contributed
    · split at contributed
      · rw [List.mem_singleton.mp contributed]
        exact List.mem_map_of_mem (List.mem_of_find?_eq_some found)
      · cases contributed

/-- Every statement of a decode routine that a run produced is for a field of the declaration. -/
theorem mem_fields_of_decode {decl : Declaration} {config : Configuration}
    {routine : DecodeRoutine}
    (produced : (generate decl config).artifacts.decode = some routine)
    {statement : DecodeStatement} (member : statement ∈ routine.statements) :
    statement.field ∈ decl.fields.map (·.name) := by
  rw [generate_eq] at produced
  rcases Generation.result_cases decl config with
    ⟨-, eq⟩ | ⟨-, _, _, -, eq⟩ | ⟨-, _, _, _, -, eq⟩ <;> rw [eq] at produced
  · cases produced
  · cases produced
  · exact Assembly.mem_fields_of_decode produced member

/-- So is every entry of a key table that a run produced. -/
theorem mem_fields_of_keyTable {decl : Declaration} {config : Configuration} {table : KeyTable}
    (produced : (generate decl config).artifacts.keyTable = some table) {entry : KeyEntry}
    (member : entry ∈ table.entries) : entry.field ∈ decl.fields.map (·.name) := by
  obtain ⟨found, stands⟩ := exists_generate_of_keyTable produced
  have listed : entry.field ∈ decl.storedFields.map (·.name) :=
    KeyTable.fields_of_generate stands ▸ List.mem_map_of_mem member
  obtain ⟨field, stored, name⟩ := List.mem_map.mp listed
  exact name ▸ List.mem_map_of_mem (Declaration.mem_storedFields.mp stored).1

namespace Expansion

open Source

/-! ## Names of the fields of a declaration -/

/-- A type whose run is done has no fields without names. -/
theorem shape_of_done {item : TypeItem} {config : Configuration}
    (done : (outcomeOf item config).state = .done) :
    item.body.shape ∉ [.tuple, .enumeration, .union] := by
  have shape : item.lower.decl.shape = item.body.shape := by
    unfold TypeItem.lower
    dsimp only
    split
    · rfl
    · rfl
  intro refused
  have verdict := Generation.verdict_generate item.lower.decl config
  have failed := verdict.failed_iff.mpr (.inr (.inl (shape.symm ▸ refused)))
  rw [done] at failed
  cases failed

/-- The fields of a declaration are those of the type. -/
theorem exists_of_mem_fields {item : TypeItem} {field : Field}
    (member : field ∈ item.lower.decl.fields) :
    ∃ position, ∃ source ∈ item.body.fields, field.name = fieldName position source := by
  cases isStruct : item.body.shape.isStruct with
  | false =>
    have none : item.lower.decl.fields = [] := by rw [TypeItem.lower, isStruct]; rfl
    rw [none] at member
    cases member
  | true =>
    rw [lower_of_isStruct isStruct, structOfEffects, lowerFields_eq] at member
    obtain ⟨_, lowered, rfl⟩ := List.mem_map.mp member
    obtain ⟨⟨source, position⟩, inside, rfl⟩ := List.mem_map.mp lowered
    exact ⟨position, source, (List.mem_zipIdx inside).2.2 ▸ List.getElem_mem _, rfl⟩

section

variable {item : TypeItem} {config : Configuration} (named : item.body.IsNamed)

include named

/-- A declared field of a run that is done has an identifier, unless it is named by an underscore
in the source. -/
theorem name_of_mem_fields (done : (outcomeOf item config).state = .done) {field : Field}
    (member : field ∈ item.lower.decl.fields) :
    IsIdentifier field.name ∨
      field.name = "_" ∧ ∃ source ∈ item.body.fields, source.name = some "_" := by
  obtain ⟨position, source, inside, same⟩ := exists_of_mem_fields member
  have flat := shape_of_done done
  cases body : item.body with
  | named fields =>
    rw [body] at inside
    obtain ⟨name, own, found⟩ := named fields body source inside
    have spelt : field.name = unraw name := by rw [same, fieldName, own]
    rcases found with rfl | ⟨free, written⟩
    · exact .inr ⟨spelt, source, inside, own⟩
    · exact .inl (spelt ▸ isIdentifier_unraw written free)
  | tuple fields => rw [body] at flat; simp [TypeBody.shape] at flat
  | unit => rw [body] at inside; cases inside
  | enumeration variants => rw [body] at inside; cases inside
  | union => rw [body] at inside; cases inside

/-- A run whose code cannot be written is done, and a field is named by an underscore. -/
theorem underscore_of_render {name : UnwritableName}
    (stopped : render item item.lower (outcomeOf item config) config = .error name) :
    name = ⟨"_"⟩ ∧ ∃ source ∈ item.body.fields, source.name = some "_" := by
  cases rendering item item.lower config with
  | failed _ tokens | code _ _ _ tokens | defect _ _ _ tokens =>
    rw [tokens] at stopped
    cases stopped
  | unwritable other declared refused nothing =>
    obtain rfl := Except.error.inj (nothing.symm.trans stopped)
    have done : (outcomeOf item config).state = .done := by
      refine (Generation.verdict_generate item.lower.decl config).terminal.resolve_right ?_
      intro failed
      rw [render_of_isFailed item item.lower config (by rw [Outcome.isFailed, failed]; rfl)]
        at nothing
      cases nothing
    rcases name_of_mem_fields named done declared with identifier | ⟨underscore, source⟩
    · rw [fieldIdentifier_eq identifier] at refused
      cases refused
    · rw [underscore] at refused
      cases refused
      exact ⟨rfl, source⟩

/-- The code for a run is not written if a variant of its key table is named by an underscore. -/
theorem render_of_underscore {table : KeyTable} {identifier : String}
    (produced : (outcomeOf item config).artifacts.keyTable = some table)
    (read : readName (config.tableName item.lower.decl.name) = .ok identifier)
    {entry : KeyEntry} (member : entry ∈ table.entries) (underscore : entry.field = "_") :
    render item item.lower (outcomeOf item config) config = .error ⟨"_"⟩ := by
  have refused : ∃ obstacle, keyVariant entry = .error obstacle := by
    rw [keyVariant, underscore]
    exact ⟨_, rfl⟩
  obtain ⟨obstacle, failed⟩ := exists_mapM_eq_error_iff.mpr ⟨entry, member, refused⟩
  have untabled : TableCode.ofTable identifier table = .error obstacle :=
    map_eq_error_iff.mpr failed
  have done : (outcomeOf item config).state = .done := done_of_keyTable produced
  -- Another name may come first in the table, but only an underscore stops its code.
  have unwritable : obstacle = .unwritable ⟨"_"⟩ := by
    obtain ⟨field, declared, unnamed⟩ := obstacle_of_table produced untabled
    rcases name_of_mem_fields named done declared with identifier | ⟨underscore, -⟩
    · rw [fieldIdentifier_eq identifier] at unnamed
      cases unnamed
    · rw [underscore] at unnamed
      exact obstacle_of_fieldIdentifier unnamed
  have tableName : tableIdentifier (outcomeOf item config).keyTableName = .ok identifier := by
    rw [tableIdentifier, outcomeOf, generate_eq]
    dsimp only
    rw [read]
    rfl
  -- The table is written before the routines, so nothing in these comes first.
  have code : Code.ofOutcome item.lower.decl (outcomeOf item config)
      (config.serdeBridge && !item.lower.skipsBridge) = .error (.unwritable ⟨"_"⟩) := by
    refine bind_eq_error_iff.mpr (.inr ⟨identifier, tableName, bind_eq_error_iff.mpr (.inl ?_)⟩)
    exact option_mapM_eq_error_iff.mpr ⟨table, produced, unwritable ▸ untabled⟩
  have nothing : artifactTokens item item.lower (outcomeOf item config) config = .error ⟨"_"⟩ := by
    delta artifactTokens
    rw [code]
  rw [render_of_done item item.lower config done, nothing]
  rfl

end

/-! ## Types -/

/-- A name of a field that has an identifier, or an underscore. -/
def IsFieldName (name : String) : Prop := IsIdentifier name ∨ name = "_"

/-- Every name in the code for a type has an identifier or is an underscore, and an underscore is
all that keeps the type from having code or a report. -/
structure StopsAtUnderscores (item : TypeItem) (config : Configuration) : Prop where
  fields : (outcomeOf item config).state = .done →
    ∀ field ∈ item.lower.decl.fields, IsFieldName field.name
  variants : ∀ table, (outcomeOf item config).artifacts.keyTable = some table →
    ∀ entry ∈ table.entries, IsFieldName entry.field
  reads : ∀ routine, (outcomeOf item config).artifacts.decode = some routine →
    ∀ statement ∈ routine.statements, IsFieldName statement.field
  writes : ∀ routine, (outcomeOf item config).artifacts.encode = some routine →
    ∀ statement ∈ routine.statements, IsFieldName statement.field
  /-- There are tokens for the type, unless a field is named by an underscore. -/
  tokens : (∃ tokens, expand item config = .ok tokens) ∨
    expand item config = .error ⟨"_"⟩ ∧ ∃ source ∈ item.body.fields, source.name = some "_"
  /-- An underscore keeps the code from being written wherever it is a variant of a key table. -/
  stops : item.lower.isFatal = false → ∀ table identifier,
    (outcomeOf item config).artifacts.keyTable = some table →
    readName (config.tableName item.lower.decl.name) = .ok identifier →
    (∃ entry ∈ table.entries, entry.field = "_") → expand item config = .error ⟨"_"⟩

/-- So it is for every type whose fields are named that should be. -/
theorem stopsAtUnderscores_of_isNamed {item : TypeItem} (named : item.body.IsNamed)
    (config : Configuration) : StopsAtUnderscores item config := by
  have fields (done : (outcomeOf item config).state = .done) {name : String}
      (member : name ∈ item.lower.decl.fields.map (·.name)) : IsFieldName name := by
    obtain ⟨field, declared, rfl⟩ := List.mem_map.mp member
    exact (name_of_mem_fields named done declared).imp_right And.left
  constructor
  case fields => exact fun done field declared => fields done (List.mem_map_of_mem declared)
  case variants =>
    exact fun table produced entry member =>
      fields (done_of_keyTable produced) (mem_fields_of_keyTable produced member)
  case reads =>
    exact fun routine produced statement member =>
      fields (done_of_decode produced) (mem_fields_of_decode produced member)
  case writes =>
    exact fun routine produced statement member =>
      fields (done_of_encode produced) (mem_fields_of_encode produced member)
  case tokens =>
    cases expanded : expand item config with
    | ok tokens => exact .inl ⟨tokens, rfl⟩
    | error name =>
      rw [expand_eq] at expanded
      split at expanded
      · cases expanded
      · obtain ⟨rfl, source⟩ := underscore_of_render named expanded
        exact .inr ⟨rfl, source⟩
  case stops =>
    rintro started table identifier produced read ⟨entry, member, underscore⟩
    rw [expand_eq, started, if_neg Bool.false_ne_true]
    exact render_of_underscore named produced read member underscore

end Expansion

/-! ## Files -/

namespace Commands

open Source Expansion

/-- The items of a file that was read are named as they should be. -/
theorem exists_of_ofText {path text : String} {file : SourceFile}
    (opened : SourceFile.ofText path text = .ok file) :
    ∃ items, file = ⟨path, survey items⟩ ∧ ∀ item ∈ openedItems items, item.DeclaresSpelt := by
  unfold SourceFile.ofText at opened
  split at opened
  · rename_i items read
    cases opened
    exact ⟨items, rfl, isSpelt_of_readFile read⟩
  · cases opened

/-- So are the types among items, with their parts. -/
theorem isSpelt_of_mem_survey {items : List Item}
    (spelt : ∀ item ∈ openedItems items, item.DeclaresSpelt) {type : SurveyedType}
    (member : type ∈ (survey items).types) : type.item.IsSpelt := by
  rw [survey_eq] at member
  obtain ⟨declared, concerned, rfl⟩ := List.mem_map.mp member
  obtain ⟨item, inside, is⟩ := List.mem_filterMap.mp (List.mem_filter.mp concerned).1
  cases item with
  | type _ =>
    cases is
    exact spelt (.type _) inside
  | function _ | implementation _ | module _ | other => cases is

/-- The types of a file that was read are among its items. -/
theorem isSpelt_of_mem_types {path text : String} {file : SourceFile}
    (opened : SourceFile.ofText path text = .ok file) {type : SurveyedType}
    (member : type ∈ file.survey.types) : type.item.IsSpelt := by
  obtain ⟨items, rfl, spelt⟩ := exists_of_ofText opened
  exact isSpelt_of_mem_survey spelt member

/-- So are their fields. -/
theorem isNamed_of_mem_types {path text : String} {file : SourceFile}
    (opened : SourceFile.ofText path text = .ok file) {type : SurveyedType}
    (member : type ∈ file.survey.types) : type.item.body.IsNamed :=
  (isSpelt_of_mem_types opened member).isNamed

/-- The code for a type within its file is not written only if a field of the type is named by an
underscore. -/
theorem underscore_of_codeWithin {survey : Survey} {type : SurveyedType} {config : Configuration}
    {name : UnwritableName} (named : type.item.body.IsNamed) (derives : type.derives = true)
    (stopped : codeWithin survey type config = .error name) :
    name = ⟨"_"⟩ ∧ ∃ source ∈ type.item.body.fields, source.name = some "_" := by
  rw [codeWithin_eq] at stopped
  split at stopped
  · cases stopped
  · rw [survey.lowered_situate config derives] at stopped
    exact underscore_of_render named stopped

/-- An expansion that stops at a name does so at the code of a type that is wanted. -/
theorem mapM_of_expansions {file : SourceFile} {wanted : Option String} {config : Configuration}
    {name : UnwritableName} (stopped : expansions file wanted config = .error (.unwritable name)) :
    (wantedTypes file.survey wanted).mapM (expansionOf file.survey config) = .error name := by
  cases wanted with
  | none =>
    rw [expansions_none, mapError_eq_error_iff] at stopped
    obtain ⟨_, failed, same⟩ := stopped
    cases same
    rwa [wantedTypes_none]
  | some wanted =>
    rw [expansions_some] at stopped
    split at stopped
    · cases stopped
    · obtain ⟨_, failed, same⟩ := mapError_eq_error_iff.mp stopped
      cases same
      exact failed

/-- A file is expanded, or it is reported why not, unless a field of a type that is wanted is named
by an underscore. -/
structure StopsAtUnderscores (file : SourceFile) (config : Configuration) (wanted : Option String) :
    Prop where
  types : ∀ type ∈ file.survey.types, Expansion.StopsAtUnderscores type.item config
  expanded : (∃ all, expansions file wanted config = .ok all) ∨
    (∃ failure, expansions file wanted config = .error (.failure failure)) ∨
    expansions file wanted config = .error (.unwritable ⟨"_"⟩) ∧
      ∃ type ∈ wantedTypes file.survey wanted,
        ∃ source ∈ type.item.body.fields, source.name = some "_"
  /-- It makes no difference who is reported to. -/
  reported : ∀ (m : Type → Type) [Monad m] [LawfulMonad m] (sink : Sink m),
    expandFile sink file wanted config = (do
      (reportsOf file.survey config (wantedTypes file.survey wanted)).forM fun report =>
        sink report.1 report.2
      pure (expansions file wanted config))

/-- So it is for every file whose types have fields that are named as they should be. -/
theorem stopsAtUnderscores_of_isNamed {file : SourceFile}
    (named : ∀ type ∈ file.survey.types, type.item.body.IsNamed) (config : Configuration)
    (wanted : Option String) : StopsAtUnderscores file config wanted where
  types type member := Expansion.stopsAtUnderscores_of_isNamed (named type member) config
  expanded := by
    cases expanded : expansions file wanted config with
    | ok all => exact .inl ⟨all, rfl⟩
    | error error =>
      cases error with
      | failure failure => exact .inr (.inl ⟨failure, rfl⟩)
      | unwritable name =>
        obtain ⟨type, member, refused⟩ := exists_of_mapM_eq_error (mapM_of_expansions expanded)
        obtain ⟨found, derives⟩ := List.mem_filter.mp (List.mem_filter.mp member).1
        obtain ⟨rfl, source⟩ :=
          underscore_of_codeWithin (named type found) derives (map_eq_error_iff.mp refused)
        exact .inr (.inr ⟨rfl, type, member, source⟩)
  reported _ _ _ sink := expandFile_eq sink file wanted config

/-- Every type and every file that is read off a text has code, or a report of why it has none,
unless a field is named by an underscore. -/
theorem stopsAtUnderscores (text : String) (config : Configuration) :
    (∀ item, readTypeItem text = .ok item → Expansion.StopsAtUnderscores item config) ∧
      ∀ path file, SourceFile.ofText path text = .ok file →
        ∀ wanted, StopsAtUnderscores file config wanted :=
  ⟨fun _ read => Expansion.stopsAtUnderscores_of_isNamed (isNamed_of_readTypeItem read) config,
    fun _ _ opened wanted =>
      stopsAtUnderscores_of_isNamed (fun _ => isNamed_of_mem_types opened) config wanted⟩

/-- A struct with a field whose name is a reserved word. -/
def keyworded : String := "#[derive(Codify)] struct Entry \x7b r#type: u8, count: u32 \x7d"

/-- There is code for that struct. -/
theorem stopsAtUnderscores_keyworded : ∃ item file, readTypeItem keyworded = .ok item ∧
    SourceFile.ofText "models.rs" keyworded = .ok file ∧
    Expansion.StopsAtUnderscores item .standard ∧ StopsAtUnderscores file .standard none ∧
    ∃ tokens, expand item .standard = .ok tokens := by
  have names : (readTypeItem keyworded).map (fun item => item.body.fields.map (·.name)) =
      .ok [some "r#type", some "count"] := by
    decide +kernel
  have derived : (SourceFile.ofText "models.rs" keyworded).map (·.survey.derived.map (·.name)) =
      .ok ["Entry"] := by
    decide +kernel
  obtain ⟨item, read, fields⟩ := map_eq_ok_iff.mp names
  obtain ⟨file, opened, -⟩ := map_eq_ok_iff.mp derived
  obtain ⟨ofTypes, ofFiles⟩ := stopsAtUnderscores keyworded .standard
  refine ⟨item, file, read, opened, ofTypes item read, ofFiles _ file opened none, ?_⟩
  refine (ofTypes item read).tokens.resolve_right ?_
  rintro ⟨-, source, inside, underscore⟩
  have listed : some "_" ∈ item.body.fields.map (·.name) :=
    underscore ▸ List.mem_map_of_mem inside
  rw [fields] at listed
  simp at listed

/-- A struct with a field that is named by an underscore. -/
def placeholder : String := "#[derive(Codify)] struct Placeholder \x7b _: u8 \x7d"

/-- It can be read, on its own and as a file, but neither has code or a report. -/
theorem placeholder_stops :
    (readTypeItem placeholder).map (fun item => (expand item .standard).map fun _ => ()) =
        .ok (.error ⟨"_"⟩) ∧
      (SourceFile.ofText "models.rs" placeholder).map
        (fun file => (expansions file none .standard).map fun _ => ()) =
        .ok (.error (.unwritable ⟨"_"⟩)) := by
  decide +kernel

end Commands

end RecordCoding
