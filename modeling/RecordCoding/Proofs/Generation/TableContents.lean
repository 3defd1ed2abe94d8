import RecordCoding.KeyTable

/-!
# Contents of key tables

What one field contributes to a key table, and what a table that stands is made of. A field that
prevents the table always leaves an error behind, and no diagnostic of this step is an internal
one.
-/

namespace RecordCoding

namespace Field

/-- The first directive of a kind on a field, or else on its type. -/
def inherited? {α : Type} (field : Field) (decl : Declaration) (pick : Directive → Option α) :
    Option α :=
  (field.directives ++ decl.directives).findSome? pick

/-- What is written on a field goes before what is written on its type. -/
theorem inherited?_eq {α : Type} (field : Field) (decl : Declaration)
    (pick : Directive → Option α) :
    field.inherited? decl pick =
      (field.directives.findSome? pick).or (decl.directives.findSome? pick) :=
  List.findSome?_append

/-- The name of a field in the case style that applies to it, if one does. -/
def styledName (field : Field) (decl : Declaration) : String :=
  match field.inherited? decl Directive.caseStyle? with
  | some style => style.apply field.name
  | none => field.name

/-- The key a declaration calls for: a literal one as it is, and otherwise the name of the field in
its style between a prefix and a suffix. -/
def chosenKey (field : Field) (decl : Declaration) : String :=
  match field.renames with
  | key :: _ => key
  | [] => (field.inherited? decl Directive.keyPrefix?).getD "" ++ field.styledName decl ++
      (field.inherited? decl Directive.keySuffix?).getD ""

/-- The key of a field without a literal key is the one its declaration calls for. -/
theorem derivedKey_eq (field : Field) (decl : Declaration) :
    field.derivedKey decl.keyDefaults =
      (field.inherited? decl Directive.keyPrefix?).getD "" ++ field.styledName decl ++
        (field.inherited? decl Directive.keySuffix?).getD "" := by
  have style : field.caseStyles.head? = field.directives.findSome? Directive.caseStyle? :=
    List.head?_filterMap
  unfold derivedKey styledName
  rw [style, inherited?_eq, inherited?_eq, inherited?_eq]
  rfl

/-- A key that is chosen is the one its declaration calls for. -/
theorem key_of_wireKey {field : Field} {decl : Declaration} {found : WireKey}
    (chosen : field.wireKey decl.keyDefaults = .ok found) : found.key = field.chosenKey decl := by
  unfold wireKey at chosen
  unfold chosenKey
  split at chosen
  · rename_i none
    split at chosen
    · cases chosen
    · cases chosen
      rw [none]
      exact field.derivedKey_eq decl
  · rename_i key single
    split at chosen
    · cases chosen
    · cases chosen
      rw [single]
  · cases chosen

/-- Choosing a key gives at most the advisory about a shadowed case style, or one error. -/
theorem wireKey_cases (field : Field) (defaults : KeyDefaults) :
    (∃ key, field.wireKey defaults = .ok ⟨key, []⟩) ∨
    (∃ key, field.wireKey defaults =
      .ok ⟨key, [.of .customKeyShadowsCase (.onField field.name "case")]⟩) ∨
    (∃ attr, field.wireKey defaults = .error (field.repeatedAttribute attr)) ∨
    field.wireKey defaults = .error (.of .emptyCustomKey (.onField field.name "rename")) := by
  unfold wireKey
  split
  · split
    · exact .inr (.inr (.inl ⟨_, rfl⟩))
    · exact .inl ⟨_, rfl⟩
  · split
    · exact .inr (.inr (.inr rfl))
    · split
      · exact .inl ⟨_, rfl⟩
      · exact .inr (.inl ⟨_, rfl⟩)
  · exact .inr (.inr (.inl ⟨_, rfl⟩))

end Field

namespace Diagnostic

/-- A diagnostic of the naming rules, as opposed to one about the run itself. -/
def IsNaming (d : Diagnostic) : Prop :=
  d.cause = .keyOnComputedField ∨ d.cause = .customKeyShadowsCase ∨
    d.cause = .emptyCustomKey ∨ ∃ attr, d.cause = .multipleKeyAttributes attr

/-- No diagnostic of the naming rules is an internal one. -/
theorem IsNaming.cause_ne_internal {d : Diagnostic} (naming : d.IsNaming) (detail : String) :
    d.cause ≠ .internal detail := by
  rcases naming with h | h | h | ⟨_, h⟩ <;> simp [h]

end Diagnostic

namespace KeyTable

/-- A field is computed and contributes no entry, or it contributes the entry of its key, or it
prevents the table. -/
theorem contribution_cases (config : Configuration) (defaults : KeyDefaults) (field : Field) :
    (field.isComputed = true ∧ (contribution config defaults field).entries = [] ∧
      (contribution config defaults field).isFatal = false) ∨
    (field.isComputed = false ∧ ∃ found, field.wireKey defaults = .ok found ∧
      contribution config defaults field =
        ⟨[⟨field.name, found.key⟩], found.advisories.map (·.withSeverity config.advisorySeverity),
          (found.advisories.map (·.withSeverity config.advisorySeverity)).any
            Diagnostic.isError⟩) ∨
    (field.isComputed = false ∧ ∃ d, field.wireKey defaults = .error d ∧
      contribution config defaults field = ⟨[], [d], true⟩) := by
  unfold contribution
  cases computed : field.isComputed with
  | true => exact .inl ⟨rfl, rfl, rfl⟩
  | false =>
    cases chosen : field.wireKey defaults with
    | ok found => exact .inr (.inl ⟨rfl, found, rfl, rfl⟩)
    | error d => exact .inr (.inr ⟨rfl, d, rfl, rfl⟩)

/-- A field that does not prevent the table has an entry exactly when it is stored. -/
theorem entries_contribution {config : Configuration} {decl : Declaration} {field : Field}
    (harmless : (contribution config decl.keyDefaults field).isFatal = false) :
    (contribution config decl.keyDefaults field).entries =
      if field.isComputed then [] else [⟨field.name, field.chosenKey decl⟩] := by
  rcases contribution_cases config decl.keyDefaults field with
    ⟨computed, none, -⟩ | ⟨stored, found, chosen, eq⟩ | ⟨-, d, -, eq⟩
  · simp [computed, none]
  · simp [stored, eq, Field.key_of_wireKey chosen]
  · simp [eq] at harmless

/-- A field that prevents the table leaves an error behind. -/
theorem exists_error_of_isFatal {config : Configuration} {defaults : KeyDefaults} {field : Field}
    (fatal : (contribution config defaults field).isFatal = true) :
    ∃ d ∈ (contribution config defaults field).diagnostics, d.severity = .error := by
  rcases contribution_cases config defaults field with
    ⟨-, -, harmless⟩ | ⟨-, found, -, eq⟩ | ⟨-, d, chosen, eq⟩
  · simp [harmless] at fatal
  · rw [eq] at fatal ⊢
    obtain ⟨d, member, isError⟩ := List.any_eq_true.mp fatal
    exact ⟨d, member, by simpa [Diagnostic.isError] using isError⟩
  · refine ⟨d, by simp [eq], ?_⟩
    rcases field.wireKey_cases defaults with ⟨_, h⟩ | ⟨_, h⟩ | ⟨_, h⟩ | h <;>
      simp only [h, reduceCtorEq, Except.error.injEq] at chosen <;> subst chosen <;> rfl

/-- Everything a field is told about its key is about naming. -/
theorem isNaming_of_mem_contribution {config : Configuration} {defaults : KeyDefaults}
    {field : Field} {d : Diagnostic}
    (member : d ∈ (contribution config defaults field).diagnostics) : d.IsNaming := by
  unfold contribution at member
  split at member
  · split at member <;> simp_all [Diagnostic.IsNaming, Diagnostic.of]
  · rcases field.wireKey_cases defaults with ⟨_, h⟩ | ⟨_, h⟩ | ⟨_, h⟩ | h <;>
      simp only [h, List.map_nil, List.map_cons, List.not_mem_nil, List.mem_singleton] at member <;>
      subst member <;>
      simp [Diagnostic.IsNaming, Diagnostic.withSeverity, Diagnostic.of, Field.repeatedAttribute]

/-- A table stands exactly when it is not declared, the type has at most one case style, and no
field prevents it; it then consists of what the fields contribute. -/
theorem generate_eq_ok_iff {decl : Declaration} {config : Configuration}
    {report : KeyTableReport} :
    generate decl config = .ok report ↔
      decl.handWritten.keyTable = false ∧
      (decl.directives.filterMap Directive.caseStyle?).length ≤ 1 ∧
      (∀ field ∈ decl.fields, (contribution config decl.keyDefaults field).isFatal = false) ∧
      report = ⟨⟨config.tableName decl.name,
          decl.fields.flatMap fun field => (contribution config decl.keyDefaults field).entries⟩,
        decl.fields.flatMap fun field =>
          (contribution config decl.keyDefaults field).diagnostics⟩ := by
  unfold generate
  cases decl.handWritten.keyTable with
  | true => simp
  | false =>
    simp only [Bool.false_eq_true, if_false, true_and]
    split
    · rename_i several
      exact ⟨nofun, fun ⟨few, _⟩ => absurd several (Nat.not_lt.mpr few)⟩
    · rename_i few
      split
      · rename_i fatal
        refine ⟨nofun, fun ⟨_, harmless, _⟩ => ?_⟩
        obtain ⟨part, member, isFatal⟩ := List.any_eq_true.mp fatal
        obtain ⟨field, within, rfl⟩ := List.mem_map.mp member
        simp [harmless field within] at isFatal
      · rename_i harmless
        have none : ∀ field ∈ decl.fields,
            (contribution config decl.keyDefaults field).isFatal = false := by
          simpa using harmless
        simp only [List.flatMap_map, Except.ok.injEq]
        exact ⟨fun eq => ⟨Nat.not_lt.mp few, none, eq.symm⟩, fun ⟨_, _, eq⟩ => eq.symm⟩

/-- A generated table has the stored fields with the keys they call for, in order. -/
theorem entries_of_generate {decl : Declaration} {config : Configuration}
    {report : KeyTableReport} (h : generate decl config = .ok report) :
    report.table.entries =
      decl.storedFields.map fun field => ⟨field.name, field.chosenKey decl⟩ := by
  obtain ⟨-, -, harmless, rfl⟩ := generate_eq_ok_iff.mp h
  simp only [Declaration.storedFields]
  generalize decl.fields = fields at harmless
  induction fields with
  | nil => rfl
  | cons field rest ih =>
    have head := entries_contribution (harmless field List.mem_cons_self)
    have tail := ih fun f member => harmless f (List.mem_cons_of_mem _ member)
    rw [List.flatMap_cons, head, tail, List.filter_cons]
    cases field.isComputed <;> rfl

/-- The entries of a generated table are those of the stored fields, in order. -/
theorem fields_of_generate {decl : Declaration} {config : Configuration} {report : KeyTableReport}
    (h : generate decl config = .ok report) :
    report.table.entries.map (·.field) = decl.storedFields.map (·.name) := by
  rw [entries_of_generate h, List.map_map]
  rfl

/-- Only a declared table is in the way of a generated one. -/
theorem generate_ne_alreadyExists {decl : Declaration} {config : Configuration}
    (undeclared : decl.handWritten.keyTable = false) (name : String) :
    generate decl config ≠ .error (.alreadyExists name) := by
  unfold generate
  rw [undeclared]
  dsimp only
  split
  · contradiction
  · split
    · nofun
    · split <;> nofun

/-- A conflict is about several case styles on the type, or some field prevents the table and
everything found at the fields is reported. -/
theorem conflict_cases {decl : Declaration} {config : Configuration} {found : List Diagnostic}
    (h : generate decl config = .error (.conflict found)) :
    (1 < (decl.directives.filterMap Directive.caseStyle?).length ∧
      found = [.of (.multipleKeyAttributes "case") (.onType "case")]) ∨
    ((decl.directives.filterMap Directive.caseStyle?).length ≤ 1 ∧
      (∃ field ∈ decl.fields, (contribution config decl.keyDefaults field).isFatal = true) ∧
      found = decl.fields.flatMap fun field =>
        (contribution config decl.keyDefaults field).diagnostics) := by
  unfold generate at h
  split at h
  · cases h
  · split at h
    · rename_i several
      cases h
      exact .inl ⟨several, rfl⟩
    · rename_i few
      dsimp only at h
      split at h
      · rename_i fatal
        cases h
        obtain ⟨part, member, isFatal⟩ := List.any_eq_true.mp fatal
        obtain ⟨field, within, rfl⟩ := List.mem_map.mp member
        exact .inr ⟨Nat.not_lt.mp few, ⟨field, within, isFatal⟩, List.flatMap_map ..⟩
      · cases h

/-- A conflict is never reported without an error. -/
theorem exists_error_of_conflict {decl : Declaration} {config : Configuration}
    {found : List Diagnostic} (h : generate decl config = .error (.conflict found)) :
    ∃ d ∈ found, d.severity = .error := by
  rcases conflict_cases h with ⟨-, rfl⟩ | ⟨-, ⟨field, within, fatal⟩, rfl⟩
  · exact ⟨_, List.mem_singleton_self _, rfl⟩
  · obtain ⟨d, raised, isError⟩ := exists_error_of_isFatal fatal
    exact ⟨d, List.mem_flatMap.mpr ⟨field, within, raised⟩, isError⟩

private theorem isNaming_of_mem_fields {decl : Declaration} {config : Configuration}
    {d : Diagnostic} (member : d ∈ decl.fields.flatMap fun field =>
      (contribution config decl.keyDefaults field).diagnostics) : d.IsNaming := by
  obtain ⟨_, _, raised⟩ := List.mem_flatMap.mp member
  exact isNaming_of_mem_contribution raised

/-- All diagnostics of a table that stands are about naming. -/
theorem isNaming_of_generate {decl : Declaration} {config : Configuration}
    {report : KeyTableReport} (h : generate decl config = .ok report) {d : Diagnostic}
    (member : d ∈ report.diagnostics) : d.IsNaming := by
  obtain ⟨-, -, -, rfl⟩ := generate_eq_ok_iff.mp h
  exact isNaming_of_mem_fields member

/-- All diagnostics of a conflict are about naming. -/
theorem isNaming_of_conflict {decl : Declaration} {config : Configuration}
    {found : List Diagnostic} (h : generate decl config = .error (.conflict found))
    {d : Diagnostic} (member : d ∈ found) : d.IsNaming := by
  rcases conflict_cases h with ⟨-, rfl⟩ | ⟨-, -, rfl⟩
  · rw [List.mem_singleton.mp member]
    exact .inr (.inr (.inr ⟨_, rfl⟩))
  · exact isNaming_of_mem_fields member

end KeyTable

end RecordCoding
