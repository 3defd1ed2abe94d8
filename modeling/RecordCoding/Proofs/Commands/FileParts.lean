import RecordCoding.Proofs.Commands.Agreement
import RecordCoding.Proofs.Generation.Escalation
import RecordCoding.Proofs.Source.AttributeFlaws
import RecordCoding.Proofs.Source.DirectiveKeys
import RecordCoding.Proofs.Source.FileParts

/-!
# Commands on the parts of a file

Surveys, checks and listings are put together from the parts of a file in their order, and it makes
no difference which of them stand in modules of their own. Directives that are misplaced are the
only ones that a check reports under their code, once for every key and behind everything else.
-/

namespace RecordCoding

/-- No cause that is found while directives are read has the code of misplaced ones. -/
theorem Cause.IsOfDirective.code_ne {cause : Cause} (about : cause.IsOfDirective) :
    cause.code ≠ "E007" := by
  cases cause with
  | fieldOrStructOnly _ => exact about.elim
  | _ => simp [code]

/-- Neither has anything that a run reports. -/
theorem code_ne_of_mem_generate {decl : Declaration} {config : Configuration} {d : Diagnostic}
    (member : d ∈ (generate decl config).diagnostics) : d.code ≠ "E007" := by
  rw [generate_eq] at member
  rcases Generation.result_cases decl config with
    ⟨-, eq⟩ | ⟨-, found, generated, step, eq⟩ | ⟨-, found, generated, table, step, eq⟩ <;>
    rw [eq] at member
  · obtain ⟨_, ⟨_, rfl⟩ | ⟨_, rfl⟩ | rfl | rfl | rfl⟩ := Declaration.mem_targetFlaws member <;>
      simp [Diagnostic.code, Diagnostic.of, Cause.code]
  · have inside : d ∈ (Generation.tableStep decl config).1 := by rwa [step]
    rcases Generation.isNaming_of_mem_tableStep inside with h | h | h | ⟨_, h⟩ <;>
      simp [Diagnostic.code, Cause.code, h]
  · rcases List.mem_append.mp member with naming | missing
    · have inside : d ∈ (Generation.tableStep decl config).1 := by rwa [step]
      rcases Generation.isNaming_of_mem_tableStep inside with h | h | h | ⟨_, h⟩ <;>
        simp [Diagnostic.code, Cause.code, h]
    · obtain ⟨_, h⟩ :=
        Assembly.cause_of_mem_build (Generation.table_of_tableStep step).2 missing
      simp [Diagnostic.code, Cause.code, h]

namespace Commands

open Source

/-- What is found about a type in a file does not have the code of misplaced directives. -/
theorem code_ne_of_mem_typeFindings {file : SourceFile} {config : Configuration}
    {type : SurveyedType} {finding : Finding}
    (member : finding ∈ typeFindings file config type) : finding.diagnostic.code ≠ "E007" := by
  obtain ⟨d, found, rfl⟩ := List.mem_map.mp member
  rcases List.mem_append.mp found with flaw | generated
  · rcases List.mem_append.mp flaw with lowered | conflict
    · exact (isOfDirective_of_mem_flaws lowered).code_ne
    · unfold Survey.situate at conflict
      dsimp only at conflict
      split at conflict
      · rw [List.mem_singleton.mp conflict]
        simp [Diagnostic.code, Diagnostic.onType, Diagnostic.of, Cause.code]
      · cases conflict
  · split at generated
    · cases generated
    · exact code_ne_of_mem_generate generated

/-- The finding for a key that is misplaced on an item. -/
def misplacedFinding (path owner key : String) : Finding :=
  ⟨path, owner, .of (.fieldOrStructOnly key) (.onType key)⟩

/-- The findings for the directives that are misplaced in a file: one for every key that can be
read on a carrier. -/
def misplacedFindings (path : String) (items : List Item) : List Finding :=
  ((openedItems items).flatMap Item.carriers).flatMap fun carrier =>
    (directiveKeys carrier.attrs).map (misplacedFinding path carrier.owner)

variable (path : String) (config : Configuration) (items : List Item)

/-- The misplaced directives of a survey make these findings. -/
theorem map_misplaced :
    (survey items).misplaced.map (fun misplaced =>
        (⟨path, misplaced.owner, misplaced.diagnostic⟩ : Finding)) =
      misplacedFindings path items := by
  rw [survey_eq, foundIn, List.map_flatMap]
  simp only [Carrier.misplaced, misplacements, List.map_map]
  rfl

/-- A check has the findings of all types and then those of the misplaced directives. -/
theorem check_survey : check ⟨path, survey items⟩ config =
    (survey items).types.flatMap (typeFindings ⟨path, survey items⟩ config) ++
      misplacedFindings path items := by
  rw [check_eq, ← map_misplaced]

/-- Under their code a check reports the misplaced directives and nothing else. -/
theorem filter_check : (check ⟨path, survey items⟩ config).filter (·.diagnostic.code == "E007") =
    misplacedFindings path items := by
  have none : ((survey items).types.flatMap
      (typeFindings ⟨path, survey items⟩ config)).filter (·.diagnostic.code == "E007") = [] := by
    rw [List.filter_eq_nil_iff]
    intro finding member same
    obtain ⟨type, -, found⟩ := List.mem_flatMap.mp member
    exact code_ne_of_mem_typeFindings found (eq_of_beq same)
  have all : (misplacedFindings path items).filter (·.diagnostic.code == "E007") =
      misplacedFindings path items := by
    rw [List.filter_eq_self]
    intro finding member
    obtain ⟨carrier, -, within⟩ := List.mem_flatMap.mp member
    obtain ⟨key, -, rfl⟩ := List.mem_map.mp within
    rfl
  rw [check_survey, List.filter_append, none, all, List.nil_append]

/-- A file is surveyed, checked and listed part by part. -/
structure ByParts : Prop where
  /-- Of two parts in a row the first is surveyed first. -/
  types_append : ∀ behind, (survey (items ++ behind)).types =
    (survey items).types ++ (survey behind).types
  misplaced_append : ∀ behind, (survey (items ++ behind)).misplaced =
    (survey items).misplaced ++ (survey behind).misplaced
  enumerations_append : ∀ behind, (survey (items ++ behind)).enumerations =
    (survey items).enumerations ++ (survey behind).enumerations
  /-- Nothing that is found depends on which items stand in a module of their own. -/
  types_wrapped : ∀ items', Wrapped items items' → (survey items').types = (survey items).types
  misplaced_wrapped : ∀ items', Wrapped items items' →
    (survey items').misplaced = (survey items).misplaced
  check_wrapped : ∀ items', Wrapped items items' →
    check ⟨path, survey items'⟩ config = check ⟨path, survey items⟩ config
  listKeys_wrapped : ∀ items', Wrapped items items' →
    listKeys ⟨path, survey items'⟩ config = listKeys ⟨path, survey items⟩ config
  /-- The types are those among the items that have to do with generation, each of them once, in
  their order. -/
  types : (survey items).types =
    (((openedItems items).filterMap Item.declared?).filter TypeItem.isConcerned).map
      TypeItem.surveyed
  /-- Every key on a carrier makes one finding behind the findings of all types. -/
  findings : check ⟨path, survey items⟩ config =
    (survey items).types.flatMap (typeFindings ⟨path, survey items⟩ config) ++
      misplacedFindings path items
  /-- There are no others under their code. -/
  misplaced : (check ⟨path, survey items⟩ config).filter (·.diagnostic.code == "E007") =
    misplacedFindings path items
  /-- The keys on a carrier are those of the items of its directives, in each of them up to the first
  item that cannot be read. -/
  keys : ∀ carrier ∈ (openedItems items).flatMap Item.carriers,
    ∃ each, List.Forall₂ Attribute.HasKeys (carrier.attrs.filter (·.name == some "codify")) each ∧
      each.flatten = directiveKeys carrier.attrs

/-- Every list of items is surveyed, checked and listed part by part. -/
theorem byParts : ByParts path config items where
  types_append behind := by rw [survey_append, Survey.types_append]
  misplaced_append behind := by rw [survey_append, Survey.misplaced_append]
  enumerations_append behind := by rw [survey_append, Survey.enumerations_append]
  types_wrapped _ wrapped := by rw [wrapped.survey_eq]
  misplaced_wrapped _ wrapped := by rw [wrapped.survey_eq]
  check_wrapped _ wrapped := by rw [wrapped.survey_eq]
  listKeys_wrapped _ wrapped := by rw [wrapped.survey_eq]
  types := by rw [survey_eq]; rfl
  findings := check_survey path config items
  misplaced := filter_check path config items
  keys _ _ := directiveKeys_iff.mp rfl

end Commands

end RecordCoding
