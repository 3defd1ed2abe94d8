import RecordCoding.Proofs.Commands.Occurrence

/-!
# Agreement of the commands

Checking a file, expanding it and listing its keys come to the same for each type in it, and
expanding agrees with deriving the type on its own. A name without an identifier keeps the code of
its type from being written at all: there an expansion stops, with everything about that type
reported and nothing about the types behind it.
-/

namespace RecordCoding.Commands

open Source Expansion

section

variable (survey : Survey) (config : Configuration)

/-- The expansion of one type. -/
def expansionOf (type : SurveyedType) : Except UnwritableName TypeExpansion :=
  (⟨type.name, ·⟩) <$> codeWithin survey type config

/-- The types that an expansion comes to: all of them, or those up to the first whose code cannot
be written. -/
def reached : List SurveyedType → List SurveyedType
  | [] => []
  | type :: rest => type ::
    match codeWithin survey type config with
    | .error _ => []
    | .ok _ => reached rest

/-- An expansion comes to all types if there are identifiers for all names in them. -/
theorem reached_of_identifiers {types : List SurveyedType}
    (named : ∀ type ∈ types, ∀ field ∈ type.item.lower.decl.fields,
      ∃ identifier, fieldIdentifier field.name = .ok identifier) :
    reached survey config types = types := by
  induction types with
  | nil => rfl
  | cons type rest ih =>
    obtain ⟨first, others⟩ := List.forall_mem_cons.mp named
    obtain ⟨tokens, code⟩ := @codeWithin_of_identifiers survey type config first
    rw [reached, code]
    exact congrArg (type :: ·) (ih others)

/-- Everything that an expansion of types has to report, in order and under the names as they are
written. -/
def reportsOf (types : List SurveyedType) : List Report :=
  (reached survey config types).flatMap fun type =>
    (survey.situate type config).reports config type.name

variable {m : Type → Type} [Monad m] [LawfulMonad m] (sink : Sink m)

/-- Expanding types reports everything about them and gives the code of each, whoever is reported
to. -/
theorem expandTypes_eq (types : List SurveyedType) :
    expandTypes sink survey config types = (do
      (reportsOf survey config types).forM fun report => sink report.1 report.2
      pure (types.mapM (expansionOf survey config))) := by
  induction types with
  | nil => simp [expandTypes, reportsOf, reached, List.forM_eq_forM, pure, Except.pure]
  | cons type rest ih =>
    rw [expandTypes, expandType_eq, ih]
    cases code : codeWithin survey type config with
    | error name =>
      have stops : (type :: rest).mapM (expansionOf survey config) = .error name := by
        rw [List.mapM_cons, expansionOf, code]
        rfl
      have only : reportsOf survey config (type :: rest) =
          (survey.situate type config).reports config type.name := by
        rw [reportsOf, reached, code]
        exact List.flatMap_singleton _ _
      rw [stops, only]
      simp
    | ok tokens =>
      have goesOn : (type :: rest).mapM (expansionOf survey config) =
          (rest.mapM (expansionOf survey config)).map (⟨type.name, tokens⟩ :: ·) := by
        rw [List.mapM_cons, expansionOf, code]
        cases rest.mapM (expansionOf survey config) <;> rfl
      have both : reportsOf survey config (type :: rest) =
          (survey.situate type config).reports config type.name ++
            reportsOf survey config rest := by
        rw [reportsOf, reached, code]
        rfl
      rw [goesOn, both]
      simp [List.forM_eq_forM]

end

/-- The expansion of a file. -/
def expansions (file : SourceFile) (wanted : Option String) (config : Configuration) :
    Except ExpandError (List TypeExpansion) :=
  Id.run (expandFile Sink.silent file wanted config)

/-- The expansion of a file is made of those of the types that ask for it. -/
theorem expansions_none (file : SourceFile) (config : Configuration) :
    expansions file none config =
      (file.survey.derived.mapM (expansionOf file.survey config)).mapError .unwritable := by
  simp only [expansions, expandFile, expandTypes_eq, wantedTypes_none]
  cases file.survey.derived.mapM (expansionOf file.survey config) with
  | error name => simp [Except.mapError]
  | ok all => simp [Except.mapError]

/-- Where a name is wanted it is made of those of the types of that name, and it is an error if
there are none. -/
theorem expansions_some (file : SourceFile) (name : String) (config : Configuration) :
    expansions file (some name) config =
      if file.survey.derived.filter (name == ·.name) = [] then
        .error (.failure (.noSuchType name file.path))
      else ((file.survey.derived.filter (name == ·.name)).mapM
        (expansionOf file.survey config)).mapError .unwritable := by
  have wanted : wantedTypes file.survey (some name) =
      file.survey.derived.filter (name == ·.name) := rfl
  simp only [expansions, expandFile, expandTypes_eq, wanted]
  cases file.survey.derived.filter (name == ·.name) with
  | nil => rfl
  | cons type rest =>
    rw [if_neg (List.cons_ne_nil type rest)]
    cases made : (type :: rest).mapM (expansionOf file.survey config) with
    | error unwritable => simp [Except.mapError]
    | ok all =>
      obtain ⟨_, _, -, -, rfl⟩ := List.forall₂_cons_left_iff.mp (mapM_eq_ok_iff.mp made)
      simp [Except.mapError]

/-- Expanding a file reports everything about the types that are wanted, as far as it comes to
them, and gives the expansion of the file, whoever is reported to. -/
theorem expandFile_eq {m : Type → Type} [Monad m] [LawfulMonad m] (sink : Sink m)
    (file : SourceFile) (wanted : Option String) (config : Configuration) :
    expandFile sink file wanted config = (do
      (reportsOf file.survey config (wantedTypes file.survey wanted)).forM fun report =>
        sink report.1 report.2
      pure (expansions file wanted config)) := by
  simp only [expansions, expandFile, expandTypes_eq]
  cases wanted with
  | none => cases (wantedTypes file.survey none).mapM (expansionOf file.survey config) <;> simp
  | some name =>
    cases (wantedTypes file.survey (some name)).mapM (expansionOf file.survey config) with
    | error name => simp
    | ok all => cases all <;> simp

/-- Of the expansions of some types those of one name are the expansions of the types of that
name. -/
theorem mapM_expansionOf_filter {survey : Survey} {config : Configuration}
    {types : List SurveyedType} {all : List TypeExpansion}
    (made : types.mapM (expansionOf survey config) = .ok all) (name : String) :
    (types.filter (name == ·.name)).mapM (expansionOf survey config) =
      .ok (all.filter (name == ·.typeName)) := by
  have related := mapM_eq_ok_iff.mp made
  clear made
  induction related with
  | nil => rfl
  | @cons type expansion rest others first _ ih =>
    obtain ⟨tokens, -, rfl⟩ := map_eq_ok_iff.mp first
    simp only [List.filter_cons]
    by_cases named : (name == type.name) = true
    · rw [if_pos named, if_pos named, List.mapM_cons, first, ih]
      rfl
    · rw [if_neg named, if_neg named]
      exact ih

/-- A type of a name is among those that were expanded exactly if it is there to be. -/
theorem filter_expansions_eq_nil_iff {survey : Survey} {config : Configuration}
    {types : List SurveyedType} {all : List TypeExpansion}
    (made : types.mapM (expansionOf survey config) = .ok all) (name : String) :
    all.filter (name == ·.typeName) = [] ↔ types.filter (name == ·.name) = [] := by
  have related := mapM_eq_ok_iff.mp (mapM_expansionOf_filter made name)
  rw [← List.length_eq_zero_iff, ← List.length_eq_zero_iff, related.length_eq]

/-- Acting on what each element stands for is acting on all of that. -/
theorem forM_flatMap {m : Type → Type} [Monad m] [LawfulMonad m] {α β : Type} (xs : List α)
    (f : α → List β) (act : β → m Unit) :
    (xs.flatMap f).forM act = xs.forM fun x => (f x).forM act := by
  induction xs with
  | nil => rfl
  | cons x rest ih =>
    rw [List.flatMap_cons, List.forM_eq_forM, List.forM_append, List.forM_eq_forM, List.forM_cons,
      ← List.forM_eq_forM, ← List.forM_eq_forM, ih]

/-- Whoever collects reports has them in order behind what was there. -/
theorem run_collector (reports : List Report) (collector : Collector) :
    (reports.forM fun report => Collector.sink report.1 report.2).run collector =
      ((), ⟨collector.entries ++ reports⟩) := by
  induction reports generalizing collector with
  | nil => simp; rfl
  | cons report rest ih =>
    have next := ih (collector.report report)
    simp only [Collector.report, List.append_assoc, List.singleton_append] at next
    exact next

/-- What is found about a type that asks for generation, or is annotated all the same. -/
def typeFindings (file : SourceFile) (config : Configuration) (type : SurveyedType) :
    List Finding :=
  ((file.survey.situate type config).found config).map (⟨file.path, unraw type.name, ·⟩)

/-- A check has what is found about each type, in the order of the file, and behind it the
directives on items that cannot take them. -/
theorem check_eq (file : SourceFile) (config : Configuration) :
    check file config = file.survey.types.flatMap (typeFindings file config) ++
      file.survey.misplaced.map fun misplaced =>
        ⟨file.path, misplaced.owner, misplaced.diagnostic⟩ := by
  have reported : checkWith Collector.sink file.survey config =
      ((file.survey.types.flatMap fun type =>
          (file.survey.situate type config).reports config
            (file.survey.situate type config).lowered.decl.name) ++
        file.survey.misplaced.map fun misplaced => (misplaced.owner, misplaced.diagnostic)).forM
        fun report => Collector.sink report.1 report.2 := by
    rw [List.forM_eq_forM, List.forM_append, ← List.forM_eq_forM, forM_flatMap]
    simp [checkWith, examineAll, examine_eq]
  have names (type : SurveyedType) : ((file.survey.situate type config).reports config
      (file.survey.situate type config).lowered.decl.name).map (fun report =>
        (⟨file.path, report.1, report.2⟩ : Finding)) = typeFindings file config type := by
    rw [Situated.reports_name, List.map_map, Survey.name_situate]
    rfl
  unfold check
  rw [reported, run_collector]
  simp only [Collector.drain, Collector.empty, List.nil_append, List.map_append, List.map_flatMap,
    List.map_map, names, Function.comp_def]

/-- Only structs get as far as being listed. -/
theorem isStruct_of_done {type : SurveyedType} {survey : Survey} {config : Configuration}
    (done : (generate (survey.situate type config).lowered.decl config).state = .done) :
    type.item.body.shape.isStruct = true := by
  have shape : (survey.situate type config).lowered.decl.shape = type.item.body.shape := by
    have lowered : type.item.lower.decl.shape = type.item.body.shape := by
      unfold TypeItem.lower
      dsimp only
      split
      · rfl
      · rfl
    exact lowered
  have verdict := Generation.verdict_generate (survey.situate type config).lowered.decl config
  by_contra other
  have refused : (survey.situate type config).lowered.decl.shape ∈
      [Shape.tuple, .enumeration, .union] := by
    rw [shape]
    cases found : type.item.body.shape with
    | enumeration => decide
    | union => decide
    | record => rw [found] at other; exact absurd rfl other
    | tuple => rw [found] at other; exact absurd rfl other
    | unit => rw [found] at other; exact absurd rfl other
  have failed := verdict.failed_iff.mpr (Or.inr (Or.inl refused))
  rw [done] at failed
  cases failed

/-- What a listing of keys says about the type and the outcome it is for. -/
structure KeyListing.Matches (listing : KeyListing) (type : SurveyedType) (outcome : Outcome) :
    Prop where
  typeName : listing.typeName = unraw type.name
  table : listing.table = outcome.keyTableName
  /-- Nothing but that option makes a type declare its table. -/
  declared : listing.isGenerated = false ↔ .option .manualKeys ∈ nodeEffects .type type.item.attrs
  generated : listing.isGenerated = outcome.artifacts.keyTable.isSome
  keys : ∀ table, outcome.artifacts.keyTable = some table → listing.keys = table.entries

/-- A listing says what it should. -/
theorem matches_of_listed {type : SurveyedType} {survey : Survey} {config : Configuration}
    {listing : KeyListing} (listed : listKeys? (survey.situate type config) config = some listing) :
    listing.Matches type (generate (survey.situate type config).lowered.decl config) := by
  rw [listKeys?_eq] at listed
  obtain ⟨⟨-, -, done⟩, same⟩ := Option.ite_none_right_eq_some.mp listed
  cases same
  have present := (Generation.verdict_generate _ config).done_keyTable done
  have option := TypeItem.keyTable_lower (isStruct_of_done done)
  refine ⟨survey.name_situate type config, ?_, ?_, present.symm, ?_⟩
  · rw [generate_eq]
  · rw [← option, Bool.not_eq_false']
    rfl
  · intro table produced
    simp [produced]

/-- The commands agree about the types in a file that ask for generation. -/
structure CommandsAgree (file : SourceFile) (config : Configuration) : Prop where
  /-- The code for a type without a conflict is that for the type on its own. -/
  derivation : ∀ type ∈ file.survey.derived, (file.survey.situate type config).conflict = none →
    codeWithin file.survey type config = expand type.item config
  /-- Wherever a run is started, the code is that of its outcome. -/
  outcome : ∀ type ∈ file.survey.derived,
    (file.survey.situate type config).conflict = none →
    (file.survey.situate type config).lowered.isFatal = false →
    codeWithin file.survey type config =
      render type.item (file.survey.situate type config).lowered
        (generate (file.survey.situate type config).lowered.decl config) config
  /-- A file is expanded to the code for each of its types in order. -/
  all : expansions file none config =
    (file.survey.derived.mapM (expansionOf file.survey config)).mapError .unwritable
  /-- A check has what is found about each type in order, and misplaced directives behind it. -/
  checked : check file config = file.survey.types.flatMap (typeFindings file config) ++
    file.survey.misplaced.map fun misplaced =>
      ⟨file.path, misplaced.owner, misplaced.diagnostic⟩
  /-- Expanding a file reports what is found about each type it comes to in order, whoever is
  reported to. -/
  reported : ∀ (m : Type → Type) [Monad m] [LawfulMonad m] (sink : Sink m)
    (wanted : Option String), expandFile sink file wanted config = (do
      (reportsOf file.survey config (wantedTypes file.survey wanted)).forM fun report =>
        sink report.1 report.2
      pure (expansions file wanted config))
  /-- These are the same diagnostics for each type. -/
  same : ∀ type ∈ file.survey.derived,
    ((file.survey.situate type config).reports config type.name).map (·.2) =
      (typeFindings file config type).map (·.diagnostic)
  /-- An expansion comes to every type if there is an identifier for every name of a field. -/
  complete : ∀ wanted, (∀ type ∈ wantedTypes file.survey wanted,
      ∀ field ∈ type.item.lower.decl.fields,
        ∃ identifier, fieldIdentifier field.name = .ok identifier) →
    reached file.survey config (wantedTypes file.survey wanted) = wantedTypes file.survey wanted
  /-- Keys are listed type by type in order. -/
  listed : listKeys file config = file.survey.derived.filterMap fun type =>
    listKeys? (file.survey.situate type config) config
  /-- A type is left out if there is a conflict, if its attributes cannot be made sense of, or if
  the run fails, and for no other reason. -/
  listed_iff : ∀ type ∈ file.survey.derived,
    (listKeys? (file.survey.situate type config) config).isSome = true ↔
      (file.survey.situate type config).conflict = none ∧
      (file.survey.situate type config).lowered.isFatal = false ∧
      (generate (file.survey.situate type config).lowered.decl config).state = .done
  /-- What is listed is the key table of the outcome that the code is made from. -/
  listing : ∀ type ∈ file.survey.derived, ∀ listing,
    listKeys? (file.survey.situate type config) config = some listing →
    listing.Matches type (generate (file.survey.situate type config).lowered.decl config)
  /-- Of the expansions of a file those of one name are the expansion for that name, which is an
  error exactly if there are none. -/
  restricted : ∀ all, expansions file none config = .ok all → ∀ name,
    expansions file (some name) config =
      if all.filter (name == ·.typeName) = [] then .error (.failure (.noSuchType name file.path))
      else .ok (all.filter (name == ·.typeName))
  /-- This does not depend on the code for the types of other names. -/
  alone : ∀ name, expansions file (some name) config =
    if file.survey.derived.filter (name == ·.name) = [] then
      .error (.failure (.noSuchType name file.path))
    else ((file.survey.derived.filter (name == ·.name)).mapM
      (expansionOf file.survey config)).mapError .unwritable

/-- For every file and every configuration the commands agree. -/
theorem commands_agree (file : SourceFile) (config : Configuration) :
    CommandsAgree file config where
  derivation type member free :=
    codeWithin_of_conflict_eq_none (List.mem_filter.mp member).2 free
  outcome type _ free sound := by
    have started := (Situated.isBlocked_eq_false_iff _).mpr ⟨free, sound⟩
    rw [codeWithin_eq, started, if_neg Bool.false_ne_true]
  all := expansions_none file config
  checked := check_eq file config
  reported _ _ _ sink wanted := expandFile_eq sink file wanted config
  same type _ := by
    rw [Situated.map_snd_reports, typeFindings, List.map_map]
    exact (List.map_id _).symm
  complete _ named := reached_of_identifiers file.survey config named
  listed := rfl
  listed_iff type _ := by
    rw [listKeys?_eq]
    exact Option.isSome_ite
  listing _ _ _ listed := matches_of_listed listed
  restricted all made name := by
    rw [expansions_none, mapError_eq_ok_iff] at made
    rw [expansions_some, mapM_expansionOf_filter made name]
    simp only [filter_expansions_eq_nil_iff made]
    rfl
  alone name := expansions_some file name config

end RecordCoding.Commands
