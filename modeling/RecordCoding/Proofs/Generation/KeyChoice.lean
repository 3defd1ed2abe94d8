import Mathlib.Data.List.Basic
import RecordCoding.Proofs.Generation.Alignment

/-!
# The choice of wire keys

When a key table stands, what it assigns and what is reported on the way, stated over the
directives alone: every stored field has to be free of contradictions, each field is reported at
most once, and the reports are in the order of the fields. Several case styles on the type end the
step before any field is looked at.
-/

namespace RecordCoding

/-- A list of at most one element is given by its head. -/
theorem toList_head? {α : Type} {xs : List α} (short : xs.length ≤ 1) : xs.head?.toList = xs := by
  match xs with
  | [] | [_] => rfl
  | _ :: _ :: _ => simp at short

namespace Field

/-- The naming directives of a field leave one key: at most one literal key, which is not empty and
shadows a case style only where this is no more than a warning, or else at most one case style. -/
structure Resolvable (field : Field) (advisory : Severity) : Prop where
  renames : field.renames.length ≤ 1
  literal : ∀ key ∈ field.renames, key ≠ "" ∧ (field.caseStyles = [] ∨ advisory = .warning)
  styles : field.renames = [] → field.caseStyles.length ≤ 1

/-- What is to be reported about the naming directives of a field. -/
inductive Complaint (field : Field) (advisory : Severity) : Diagnostic → Prop
  | computed (skipped : field.isComputed = true) (named : field.hasKeyDirective = true) :
    Complaint field advisory ⟨.keyOnComputedField, .error, .field field.name⟩
  | shadowed {key : String} (stored : field.isComputed = false) (single : field.renames = [key])
    (full : key ≠ "") (styled : field.caseStyles ≠ []) :
    Complaint field advisory ⟨.customKeyShadowsCase, advisory, .onField field.name "case"⟩
  | empty (stored : field.isComputed = false) (single : field.renames = [""]) :
    Complaint field advisory ⟨.emptyCustomKey, .error, .onField field.name "rename"⟩
  | renamedAgain (stored : field.isComputed = false) (several : 1 < field.renames.length) :
    Complaint field advisory
      ⟨.multipleKeyAttributes "rename", .error, .onField field.name "rename"⟩
  | styledAgain (stored : field.isComputed = false) (unnamed : field.renames = [])
    (several : 1 < field.caseStyles.length) :
    Complaint field advisory ⟨.multipleKeyAttributes "case", .error, .onField field.name "case"⟩

variable {field : Field} {advisory : Severity}

/-- Without a literal key there may be one case style. -/
theorem resolvable_iff_of_unnamed (unnamed : field.renames = []) :
    field.Resolvable advisory ↔ field.caseStyles.length ≤ 1 := by
  constructor
  · exact fun resolvable => resolvable.styles unnamed
  · exact fun few => ⟨by simp [unnamed], by simp [unnamed], fun _ => few⟩

/-- A literal key has to be there and must not shadow a case style against the settings. -/
theorem resolvable_iff_of_named {key : String} (single : field.renames = [key]) :
    field.Resolvable advisory ↔ key ≠ "" ∧ (field.caseStyles = [] ∨ advisory = .warning) := by
  constructor
  · exact fun resolvable => resolvable.literal key (by simp [single])
  · exact fun literal => ⟨by simp [single], by simpa [single] using literal, by simp [single]⟩

/-- Several literal keys leave none. -/
theorem not_resolvable_of_several (several : 1 < field.renames.length) :
    ¬ field.Resolvable advisory :=
  fun resolvable => absurd resolvable.renames (Nat.not_le.mpr several)

end Field

/-- The reports about the fields of a declaration, in the order of the fields. -/
def Declaration.Complaints (decl : Declaration) (advisory : Severity)
    (found : List Diagnostic) : Prop :=
  ∃ complaint? : Field → Option Diagnostic,
    (∀ field ∈ decl.fields, ∀ d, complaint? field = some d ↔ field.Complaint advisory d) ∧
    found = decl.fields.filterMap complaint?

namespace KeyTable

/-- What a field is told about its key is its complaint. -/
theorem mem_diagnostics_contribution_iff {config : Configuration} {defaults : KeyDefaults}
    {field : Field} {d : Diagnostic} :
    d ∈ (contribution config defaults field).diagnostics ↔
      field.Complaint config.advisorySeverity d := by
  constructor
  · intro member
    unfold contribution Field.wireKey at member
    cases computed : field.isComputed with
    | true =>
      cases named : field.hasKeyDirective with
      | true =>
        have same : d = .of .keyOnComputedField (.field field.name) := by
          simpa [computed, named] using member
        exact same ▸ .computed computed named
      | false => simp [computed, named] at member
    | false =>
      match renamed : field.renames with
      | [] =>
        by_cases several : 1 < field.caseStyles.length
        · have same : d = field.repeatedAttribute "case" := by
            simpa [computed, renamed, several] using member
          exact same ▸ .styledAgain computed renamed several
        · simp [computed, renamed, several] at member
      | [key] =>
        by_cases empty : key = ""
        · subst empty
          have same : d = .of .emptyCustomKey (.onField field.name "rename") := by
            simpa [computed, renamed] using member
          exact same ▸ .empty computed renamed
        · by_cases plain : field.caseStyles = []
          · simp [computed, renamed, empty, plain] at member
          · have same : d = (Diagnostic.of .customKeyShadowsCase
                (.onField field.name "case")).withSeverity config.advisorySeverity := by
              simpa [computed, renamed, empty, plain] using member
            exact same ▸ .shadowed computed renamed empty plain
      | first :: second :: rest =>
        have same : d = field.repeatedAttribute "rename" := by
          simpa [computed, renamed] using member
        exact same ▸ .renamedAgain computed (by simp [renamed])
  · rintro (⟨computed, named⟩ | ⟨stored, single, full, styled⟩ | ⟨stored, single⟩ |
      ⟨stored, several⟩ | ⟨stored, unnamed, several⟩)
    · simp [contribution, computed, named, Diagnostic.of, Cause.severity]
    · simp [contribution, Field.wireKey, stored, single, full, styled, Diagnostic.of,
        Diagnostic.withSeverity]
    · simp [contribution, Field.wireKey, stored, single, Diagnostic.of, Cause.severity]
    · obtain ⟨first, second, rest, renamed⟩ : ∃ first second rest,
          field.renames = first :: second :: rest := by
        match renamed : field.renames with
        | [] | [_] => simp [renamed] at several
        | first :: second :: rest => exact ⟨first, second, rest, rfl⟩
      simp [contribution, Field.wireKey, stored, renamed, Field.repeatedAttribute, Diagnostic.of,
        Cause.severity]
    · simp [contribution, Field.wireKey, stored, unnamed, several, Field.repeatedAttribute,
        Diagnostic.of, Cause.severity]

/-- A field is told at most one thing. -/
theorem length_diagnostics_contribution_le (config : Configuration) (defaults : KeyDefaults)
    (field : Field) : (contribution config defaults field).diagnostics.length ≤ 1 := by
  unfold contribution
  split
  · split <;> simp
  · rcases field.wireKey_cases defaults with ⟨_, h⟩ | ⟨_, h⟩ | ⟨_, h⟩ | h <;> simp [h]

/-- A field prevents the table exactly if it is stored and does not leave one key. -/
theorem isFatal_contribution_eq_false_iff {config : Configuration} {defaults : KeyDefaults}
    {field : Field} : (contribution config defaults field).isFatal = false ↔
      (field.isComputed = false → field.Resolvable config.advisorySeverity) := by
  unfold contribution Field.wireKey
  cases computed : field.isComputed with
  | true => simp
  | false =>
    match renamed : field.renames with
    | [] =>
      rw [Field.resolvable_iff_of_unnamed renamed]
      by_cases several : 1 < field.caseStyles.length
      · simp [several]
      · simp [several, Nat.not_lt.mp several]
    | [key] =>
      rw [Field.resolvable_iff_of_named renamed]
      by_cases empty : key = ""
      · simp [empty]
      · by_cases plain : field.caseStyles = []
        · simp [empty, plain]
        · cases config.advisorySeverity <;>
            simp [empty, plain, Diagnostic.withSeverity, Diagnostic.isError]
    | first :: second :: rest =>
      have several : 1 < field.renames.length := by simp [renamed]
      simp [Field.not_resolvable_of_several several]

/-- How the key table of a declaration is generated. -/
structure Decided (decl : Declaration) (config : Configuration)
    (result : Except KeyTableFailure KeyTableReport) : Prop where
  /-- A table stands exactly if the type has at most one case style and all stored fields have a
  key. -/
  stands : (∃ report, result = .ok report) ↔
    (decl.directives.filterMap Directive.caseStyle?).length ≤ 1 ∧
      ∀ field ∈ decl.storedFields, field.Resolvable config.advisorySeverity
  /-- It assigns to the stored fields the keys they call for, in order. -/
  table : ∀ report, result = .ok report → report.table = ⟨config.tableName decl.name,
    decl.storedFields.map fun field => ⟨field.name, field.chosenKey decl⟩⟩
  /-- Beside a table there are the reports about all fields, none of which is about a key that could
  not be chosen. -/
  reports : ∀ report, result = .ok report →
    decl.Complaints config.advisorySeverity report.diagnostics ∧
    ∀ d ∈ report.diagnostics, d.cause = .keyOnComputedField ∨
      d.cause = .customKeyShadowsCase ∧ d.severity = .warning
  /-- In place of a table there are the reports about all fields as well, unless the type has
  several case styles: then this is all that is reported. -/
  conflict : ∀ failure, result = .error failure → ∃ found, failure = .conflict found ∧
    if (decl.directives.filterMap Directive.caseStyle?).length ≤ 1 then
      decl.Complaints config.advisorySeverity found
    else found = [⟨.multipleKeyAttributes "case", .error, .onType "case"⟩]

/-- What the fields contribute are their complaints. -/
theorem complaints_flatMap (decl : Declaration) (config : Configuration) :
    decl.Complaints config.advisorySeverity (decl.fields.flatMap fun field =>
      (contribution config decl.keyDefaults field).diagnostics) := by
  have single (field : Field) :=
    toList_head? (length_diagnostics_contribution_le config decl.keyDefaults field)
  refine ⟨fun field => (contribution config decl.keyDefaults field).diagnostics.head?, ?_, ?_⟩
  · intro field _ d
    rw [← mem_diagnostics_contribution_iff, ← Option.mem_toList, single]
  · rw [List.filterMap_eq_flatMap_toList]
    exact congrArg decl.fields.flatMap (funext fun field => (single field).symm)

/-- A table stands exactly if the type has at most one case style and all stored fields have a
key. -/
theorem exists_generate_eq_ok_iff {decl : Declaration} {config : Configuration}
    (undeclared : decl.handWritten.keyTable = false) :
    (∃ report, generate decl config = .ok report) ↔
      (decl.directives.filterMap Directive.caseStyle?).length ≤ 1 ∧
        ∀ field ∈ decl.storedFields, field.Resolvable config.advisorySeverity := by
  have stored : (∀ field ∈ decl.storedFields, field.Resolvable config.advisorySeverity) ↔
      ∀ field ∈ decl.fields, (contribution config decl.keyDefaults field).isFatal = false := by
    simp only [Declaration.mem_storedFields, isFatal_contribution_eq_false_iff, and_imp]
  rw [stored]
  constructor
  · rintro ⟨report, made⟩
    obtain ⟨-, few, harmless, -⟩ := generate_eq_ok_iff.mp made
    exact ⟨few, harmless⟩
  · rintro ⟨few, harmless⟩
    exact ⟨_, generate_eq_ok_iff.mpr ⟨undeclared, few, harmless, rfl⟩⟩

/-- A report beside a table is about a computed field, or a warning about a shadowed case style. -/
theorem advisory_of_mem {decl : Declaration} {config : Configuration} {report : KeyTableReport}
    (made : generate decl config = .ok report) {d : Diagnostic} (member : d ∈ report.diagnostics) :
    d.cause = .keyOnComputedField ∨ d.cause = .customKeyShadowsCase ∧ d.severity = .warning := by
  obtain ⟨-, -, harmless, rfl⟩ := generate_eq_ok_iff.mp made
  obtain ⟨field, within, raised⟩ := List.mem_flatMap.mp member
  have resolvable := isFatal_contribution_eq_false_iff.mp (harmless field within)
  cases mem_diagnostics_contribution_iff.mp raised with
  | computed => exact Or.inl rfl
  | shadowed stored single full styled =>
    have literal := (Field.resolvable_iff_of_named single).mp (resolvable stored)
    exact Or.inr ⟨rfl, literal.2.resolve_left styled⟩
  | empty stored single =>
    exact absurd rfl ((Field.resolvable_iff_of_named single).mp (resolvable stored)).1
  | renamedAgain stored several =>
    exact absurd (resolvable stored) (Field.not_resolvable_of_several several)
  | styledAgain stored unnamed several =>
    have few := (Field.resolvable_iff_of_unnamed unnamed).mp (resolvable stored)
    exact absurd few (Nat.not_le.mpr several)

/-- A table that is not declared is generated from the directives. -/
theorem decided_generate {decl : Declaration} {config : Configuration}
    (undeclared : decl.handWritten.keyTable = false) :
    Decided decl config (generate decl config) where
  stands := exists_generate_eq_ok_iff undeclared
  table := by
    intro report made
    have name := name_of_generate made
    have entries := entries_of_generate made
    cases made : report.table
    rw [made] at name entries
    rw [← name, ← entries]
  reports := by
    intro report made
    refine ⟨?_, fun d member => advisory_of_mem made member⟩
    obtain ⟨-, -, -, rfl⟩ := generate_eq_ok_iff.mp made
    exact complaints_flatMap decl config
  conflict := by
    intro failure failed
    cases failure with
    | alreadyExists name => exact absurd failed (generate_ne_alreadyExists undeclared name)
    | conflict found =>
      refine ⟨found, rfl, ?_⟩
      rcases conflict_cases failed with ⟨several, rfl⟩ | ⟨few, -, rfl⟩
      · rw [if_neg (Nat.not_le.mpr several)]
        rfl
      · rw [if_pos few]
        exact complaints_flatMap decl config

/-- The table for a field of every kind is generated from its directives. -/
theorem decided_generate_assorted :
    Declaration.assorted.handWritten.keyTable = false ∧
    Decided .assorted .standard (generate .assorted .standard) :=
  ⟨rfl, decided_generate rfl⟩

end KeyTable

/-- A type with two case styles, and a computed field with a literal key. -/
def Declaration.restyled : Declaration :=
  { name := "Post"
    shape := .record
    derives := true
    directives := [.caseStyle .camel, .caseStyle .kebab]
    fields := [⟨"cache", .scalar "u8", none, true, [.rename "c"]⟩]
    handWritten := .nothing }

namespace KeyTable

/-- A conflict does not always report the computed fields that have naming directives: several case
styles on the type keep all fields from being looked at. -/
theorem conflict_without_computed : ¬ ∀ (decl : Declaration) (config : Configuration)
    (found : List Diagnostic), decl.handWritten.keyTable = false →
    generate decl config = .error (.conflict found) →
    ∀ field ∈ decl.fields, field.isComputed = true → field.hasKeyDirective = true →
      ∃ d ∈ found, d.code = "K003" ∧ d.target = .field field.name := by
  intro always
  have conflict : generate .restyled .standard =
    .error (.conflict [⟨.multipleKeyAttributes "case", .error, .onType "case"⟩]) := rfl
  obtain ⟨d, member, code, -⟩ := always .restyled .standard _ rfl conflict
    _ List.mem_cons_self rfl rfl
  rw [List.mem_singleton.mp member] at code
  revert code
  decide

end KeyTable

end RecordCoding
