import Mathlib.Data.List.Forall2
import RecordCoding.Proofs.Generation.Result

/-!
# The order of directives

Choosing a key, choosing a plan and looking for naming directives each go through the directives of
a node in their own way: for the first of a kind, for their number, or for any at all. None of them
sees more than the directives of one kind at a time, and of prefixes and suffixes none sees more
than the first. Nodes that agree in this much are therefore interchangeable in every run.
-/

namespace RecordCoding

namespace Directive

/-- The directives of one kind, in order. -/
def ofKind (kind : String) (directives : List Directive) : List Directive :=
  directives.filter (·.name == kind)

/-- The kinds of directives that may be written several times on a node, the first one counting. -/
def affixes : List String := ["prefix", "suffix"]

/-- The same directives, those of one kind in the same order. -/
def Reordered (directives others : List Directive) : Prop :=
  ∀ kind, ofKind kind directives = ofKind kind others

/-- Some prefixes and suffixes are left out, but never the first of either. -/
structure Thinned (directives others : List Directive) : Prop where
  sublist : others.Sublist directives
  affixes : ∀ kind ∈ affixes, (ofKind kind directives).head? = (ofKind kind others).head?
  others : ∀ kind ∉ Directive.affixes, ofKind kind directives = ofKind kind others

/-- The same directives of each kind, as far as any rule looks at them. -/
structure Agree (directives others : List Directive) : Prop where
  affixes : ∀ kind ∈ affixes, (ofKind kind directives).head? = (ofKind kind others).head?
  others : ∀ kind ∉ Directive.affixes, ofKind kind directives = ofKind kind others

namespace Reordered

/-- Neighbours of different kinds may be exchanged. -/
theorem swap (before : List Directive) {first second : Directive} (after : List Directive)
    (apart : first.name ≠ second.name) :
    Reordered (before ++ first :: second :: after) (before ++ second :: first :: after) := by
  intro kind
  unfold ofKind
  by_cases here : first.name = kind
  · have other : second.name ≠ kind := fun same => apart (here.trans same.symm)
    simp [here, other]
  · simp [here, List.filter_cons]

theorem agree {directives others : List Directive} (same : Reordered directives others) :
    Agree directives others :=
  ⟨fun kind _ => congrArg List.head? (same kind), fun kind _ => same kind⟩

end Reordered

/-- An affix may be left out behind one of its kind. -/
theorem Thinned.leaveOut (before middle : List Directive) {first later : Directive}
    (after : List Directive) (affix : first.name ∈ Directive.affixes)
    (same : later.name = first.name) :
    Thinned (before ++ first :: (middle ++ later :: after))
      (before ++ first :: (middle ++ after)) where
  sublist := by simp
  affixes := by
    intro kind _
    by_cases here : first.name = kind
    · simp [ofKind, List.filter_cons, List.head?_append, here]
    · simp [ofKind, here, same]
  others := by
    intro kind other
    have here : first.name ≠ kind := fun eq => other (eq ▸ affix)
    simp [ofKind, here, same]

theorem Thinned.agree {directives others : List Directive} (thinned : Thinned directives others) :
    Agree directives others :=
  ⟨thinned.affixes, thinned.others⟩

/-- What is picked from directives of one kind is picked from these alone. -/
theorem filterMap_ofKind {α : Type} {pick : Directive → Option α} {kind : String}
    (single : ∀ d, d.name ≠ kind → pick d = none) (directives : List Directive) :
    (ofKind kind directives).filterMap pick = directives.filterMap pick := by
  unfold ofKind
  rw [List.filterMap_filter]
  have same : (fun d => if (d.name == kind) = true then pick d else none) = pick := by
    funext d
    by_cases here : d.name = kind
    · simp [here]
    · simp [here, single d here]
  rw [same]

/-- A directive is found among those of its kind. -/
theorem contains_ofKind (d : Directive) (directives : List Directive) :
    (ofKind d.name directives).contains d = directives.contains d := by
  rw [Bool.eq_iff_iff]
  simp [ofKind]

/-- The first affix of a kind is all that is picked from them. -/
theorem findSome?_eq_head? {α : Type} {pick : Directive → Option α} {kind : String}
    (exact : ∀ d, (pick d).isSome = true ↔ d.name = kind) (directives : List Directive) :
    directives.findSome? pick = (ofKind kind directives).head?.bind pick := by
  induction directives with
  | nil => rfl
  | cons d rest ih =>
    by_cases here : d.name = kind
    · obtain ⟨value, found⟩ := Option.isSome_iff_exists.mp ((exact d).mpr here)
      simp [ofKind, here, found]
    · have none : pick d = none := by
        rw [← Option.not_isSome_iff_eq_none]
        exact fun isSome => here ((exact d).mp isSome)
      have skipped : ofKind kind (d :: rest) = ofKind kind rest := by simp [ofKind, here]
      rw [List.findSome?_cons, none, skipped]
      exact ih

/-- The kinds of directives that take part in choosing the key. -/
def namingKinds : List String := ["rename", "prefix", "suffix", "case"]

theorem shapesKey_eq (d : Directive) : d.shapesKey = namingKinds.contains d.name := by
  cases d <;> simp [shapesKey, name, namingKinds]

/-- A directive takes part in choosing the key exactly if there is a first one of such a kind. -/
theorem any_shapesKey (directives : List Directive) :
    directives.any shapesKey =
      namingKinds.any fun kind => (ofKind kind directives).head?.isSome := by
  rw [Bool.eq_iff_iff]
  simp only [List.any_eq_true, List.isSome_head?, shapesKey_eq, List.contains_iff_mem]
  constructor
  · rintro ⟨d, member, naming⟩
    exact ⟨d.name, naming, by simpa [ofKind] using ⟨d, member, rfl⟩⟩
  · rintro ⟨kind, naming, some⟩
    obtain ⟨d, member⟩ := List.exists_mem_of_ne_nil _ (by simpa using some)
    obtain ⟨within, same⟩ := List.mem_filter.mp member
    exact ⟨d, within, by simpa [eq_of_beq same] using naming⟩

namespace Agree

variable {directives others : List Directive}

/-- The first directives of every kind are the same. -/
theorem head? (agree : Agree directives others) (kind : String) :
    (ofKind kind directives).head? = (ofKind kind others).head? := by
  by_cases affix : kind ∈ Directive.affixes
  · exact agree.affixes kind affix
  · rw [agree.others kind affix]

theorem filterMap {α : Type} {pick : Directive → Option α} (agree : Agree directives others)
    (kind : String) (exact : kind ∉ Directive.affixes)
    (single : ∀ d, d.name ≠ kind → pick d = none) :
    directives.filterMap pick = others.filterMap pick := by
  rw [← filterMap_ofKind single directives, agree.others kind exact, filterMap_ofKind single]

theorem findSome? {α : Type} {pick : Directive → Option α} (agree : Agree directives others)
    (kind : String) (exact : ∀ d, (pick d).isSome = true ↔ d.name = kind) :
    directives.findSome? pick = others.findSome? pick := by
  rw [findSome?_eq_head? exact, findSome?_eq_head? exact, agree.head? kind]

theorem contains (agree : Agree directives others) {d : Directive}
    (exact : d.name ∉ Directive.affixes) : directives.contains d = others.contains d := by
  rw [← contains_ofKind, agree.others d.name exact, contains_ofKind]

theorem any_shapesKey (agree : Agree directives others) :
    directives.any shapesKey = others.any shapesKey := by
  rw [Directive.any_shapesKey, Directive.any_shapesKey]
  exact congrArg namingKinds.any (funext fun kind => congrArg Option.isSome (agree.head? kind))

/-- What may stand on a type is the same, since affixes always may. -/
theorem fitsType (agree : Agree directives others) (fits : ∀ d ∈ directives, d.fitsType = true) :
    ∀ d ∈ others, d.fitsType = true := by
  intro d member
  by_cases affix : d.name ∈ Directive.affixes
  · cases d <;> simp_all [Directive.affixes, name, Directive.fitsType]
  · have within : d ∈ ofKind d.name others := by simp [ofKind, member]
    rw [← agree.others d.name affix] at within
    exact fits d (List.mem_of_mem_filter within)

/-- The case styles are the same, in the same order. -/
theorem caseStyles (agree : Agree directives others) :
    directives.filterMap caseStyle? = others.filterMap caseStyle? :=
  agree.filterMap "case" (by decide) fun d other => by
    cases d <;> simp_all [caseStyle?, name]

/-- The first prefix is the same. -/
theorem keyPrefix (agree : Agree directives others) :
    directives.findSome? keyPrefix? = others.findSome? keyPrefix? :=
  agree.findSome? "prefix" fun d => by cases d <;> simp [keyPrefix?, name]

/-- The first suffix is the same. -/
theorem keySuffix (agree : Agree directives others) :
    directives.findSome? keySuffix? = others.findSome? keySuffix? :=
  agree.findSome? "suffix" fun d => by cases d <;> simp [keySuffix?, name]

end Agree

end Directive

namespace Field

/-- A field with other directives. -/
def withDirectives (field : Field) (directives : List Directive) : Field := { field with directives }

variable {field : Field} {others : List Directive}

/-- The key of a field does not depend on the order of its directives. -/
theorem wireKey_withDirectives (agree : Directive.Agree field.directives others)
    (defaults : KeyDefaults) :
    (field.withDirectives others).wireKey defaults = field.wireKey defaults := by
  have renames : (field.withDirectives others).renames = field.renames :=
    (agree.filterMap "rename" (by decide) fun d other => by
      cases d <;> simp_all [Directive.renameKey?, Directive.name]).symm
  have styles : (field.withDirectives others).caseStyles = field.caseStyles :=
    agree.caseStyles.symm
  have derived : (field.withDirectives others).derivedKey defaults = field.derivedKey defaults := by
    unfold derivedKey
    rw [styles]
    change _ ++ _ ++ _ = _
    rw [agree.keyPrefix, agree.keySuffix]
    rfl
  unfold wireKey
  rw [renames, styles, derived]
  rfl

/-- Nor does its plan. -/
theorem readPlan_withDirectives (agree : Directive.Agree field.directives others) :
    (field.withDirectives others).readPlan = field.readPlan := by
  have bare := agree.contains (d := .default none) (by decide)
  have lossless := agree.contains (d := .lossless) (by decide)
  have skipNull := agree.contains (d := .skipNull) (by decide)
  have fallback : others.findSome? Directive.fallback? =
      field.directives.findSome? Directive.fallback? := by
    rw [← List.head?_filterMap, ← List.head?_filterMap]
    refine congrArg List.head? (agree.filterMap "default" (by decide) ?_).symm
    intro d other
    cases d <;> simp_all [Directive.fallback?, Directive.name]
  have plain : (field.withDirectives others).plainPlan = field.plainPlan := by
    unfold plainPlan
    dsimp only [withDirectives]
    rw [fallback]
    rfl
  unfold readPlan
  rw [plain]
  change (if others.contains _ = true then _ else if others.contains _ = true then _
    else if others.contains _ = true then _ else _) = _
  rw [bare, lossless, skipNull]
  rfl

end Field

/-- A field that has other directives, in the given relation to those it has, and is the same
otherwise. -/
def Field.Varies (relation : List Directive → List Directive → Prop) (field other : Field) : Prop :=
  other = field.withDirectives other.directives ∧ relation field.directives other.directives

/-- A declaration whose nodes have other directives, in the given relation to those they have, and
that is the same otherwise. -/
structure Declaration.Varies (relation : List Directive → List Directive → Prop)
    (decl other : Declaration) : Prop where
  directives : relation decl.directives other.directives
  fields : List.Forall₂ (Field.Varies relation) decl.fields other.fields
  name : other.name = decl.name
  shape : other.shape = decl.shape
  derives : other.derives = decl.derives
  handWritten : other.handWritten = decl.handWritten

section Fields

variable {fields others : List Field}

/-- What depends on the directives of a field as far as they agree is the same for all fields. -/
theorem map_eq_of_varies {α : Type} {f : Field → α}
    (same : ∀ field directives, Directive.Agree field.directives directives →
      f (field.withDirectives directives) = f field)
    (varies : List.Forall₂ (Field.Varies Directive.Agree) fields others) :
    others.map f = fields.map f := by
  induction varies with
  | nil => rfl
  | @cons field other rest varied first _ ih =>
    obtain ⟨eq, agree⟩ := first
    have here : f other = f field := eq ▸ same field other.directives agree
    rw [List.map_cons, List.map_cons, here, ih]

/-- Names are not directives, so a field is found at the same place. -/
theorem find?_eq_of_varies {relation : List Directive → List Directive → Prop}
    (varies : List.Forall₂ (Field.Varies relation) fields others) (name : String) :
    (fields.find? (·.name == name) = none ∧ others.find? (·.name == name) = none) ∨
    ∃ field other, fields.find? (·.name == name) = some field ∧
      others.find? (·.name == name) = some other ∧ field.Varies relation other := by
  induction varies with
  | nil => exact Or.inl ⟨rfl, rfl⟩
  | @cons field other rest varied first _ ih =>
    have sameName : other.name = field.name := by
      rw [first.1]
      rfl
    by_cases here : field.name = name
    · refine Or.inr ⟨field, other, ?_, ?_, first⟩ <;> simp [sameName, here]
    · simpa [sameName, here] using ih

end Fields

namespace Declaration.Varies

variable {decl other : Declaration}

theorem imp {weak strong : List Directive → List Directive → Prop}
    (weaker : ∀ directives others, strong directives others → weak directives others)
    (varies : decl.Varies strong other) : decl.Varies weak other where
  directives := weaker _ _ varies.directives
  fields := varies.fields.imp fun _ _ each => ⟨each.1, weaker _ _ each.2⟩
  name := varies.name
  shape := varies.shape
  derives := varies.derives
  handWritten := varies.handWritten

variable (varies : decl.Varies Directive.Agree other)

include varies

/-- The type hands the same naming defaults to its fields. -/
theorem keyDefaults : other.keyDefaults = decl.keyDefaults := by
  have style : other.directives.findSome? Directive.caseStyle? =
      decl.directives.findSome? Directive.caseStyle? := by
    rw [← List.head?_filterMap, ← List.head?_filterMap, varies.directives.caseStyles]
  unfold Declaration.keyDefaults
  rw [varies.directives.keyPrefix, varies.directives.keySuffix, style]

/-- The same key table is generated, with the same diagnostics. -/
theorem generate_keyTable (config : Configuration) :
    KeyTable.generate other config = KeyTable.generate decl config := by
  have parts := map_eq_of_varies (f := KeyTable.contribution config decl.keyDefaults)
    (fun field directives agree => by
      unfold KeyTable.contribution
      rw [Field.wireKey_withDirectives agree]
      have named : (field.withDirectives directives).hasKeyDirective = field.hasKeyDirective :=
        agree.any_shapesKey.symm
      rw [named]
      rfl)
    varies.fields
  unfold KeyTable.generate
  rw [varies.name, varies.handWritten, varies.keyDefaults, ← varies.directives.caseStyles, parts]

/-- The same routines are assembled over a key table. -/
theorem build (table : KeyTable) : Assembly.build other table = Assembly.build decl table := by
  have part : Assembly.part other table = Assembly.part decl table := by
    funext entry
    unfold Assembly.part
    rcases find?_eq_of_varies varies.fields entry.field with
      ⟨missing, missingToo⟩ | ⟨field, varied, found, foundToo, eq, agree⟩
    · rw [missing, missingToo]
    · have plan : varied.readPlan = field.readPlan := by
        rw [eq]
        exact Field.readPlan_withDirectives agree
      have name : varied.name = field.name := by
        rw [eq]
        rfl
      have type : varied.type = field.type := by
        rw [eq]
        rfl
      rw [found, foundToo]
      dsimp only
      unfold Assembly.decodePart Field.isOptional
      rw [varies.handWritten, plan, name, type]
  unfold Assembly.build
  rw [part, varies.handWritten]

/-- The table assumed for a type that declares its own is the same. -/
theorem declared (config : Configuration) :
    KeyTable.declared other config = KeyTable.declared decl config := by
  have entry (d : Declaration) : (d.storedFields.map fun field => KeyEntry.mk field.name field.name) =
      ((d.fields.map fun field => (field.isComputed, field.name)).filter (!·.1)).map
        fun pair => ⟨pair.2, pair.2⟩ := by
    simp [Declaration.storedFields, List.filter_map, Function.comp_def]
  have same := map_eq_of_varies (f := fun field => (field.isComputed, field.name))
    (fun _ _ _ => rfl) varies.fields
  unfold KeyTable.declared
  rw [varies.name, entry other, entry decl, same]

/-- A target that is refused is refused for the same reasons, as long as no directive on the type is
among them. -/
theorem targetFlaws (derives : decl.derives = true)
    (fits : ∀ d ∈ decl.directives, d.fitsType = true) :
    other.targetFlaws = decl.targetFlaws := by
  have fitsToo := varies.directives.fitsType fits
  have none : decl.directives.filter (!·.fitsType) = [] :=
    List.filter_eq_nil_iff.mpr (by simpa using fits)
  have noneToo : other.directives.filter (!·.fitsType) = [] :=
    List.filter_eq_nil_iff.mpr (by simpa using fitsToo)
  unfold Declaration.targetFlaws
  rw [varies.derives, derives, varies.shape, none, noneToo, if_pos rfl, if_pos rfl]

/-- Nodes whose directives agree are interchangeable in every run. -/
theorem generate_eq (config : Configuration) (derives : decl.derives = true)
    (fits : ∀ d ∈ decl.directives, d.fitsType = true) :
    generate other config = generate decl config := by
  have step : Generation.tableStep other config = Generation.tableStep decl config := by
    unfold Generation.tableStep
    rw [varies.handWritten, varies.declared config, varies.generate_keyTable config]
  have result : Generation.result other config = Generation.result decl config := by
    unfold Generation.result
    rw [varies.targetFlaws derives fits, step]
    simp only [varies.build]
  rw [RecordCoding.generate_eq, RecordCoding.generate_eq, result, varies.name]

end Declaration.Varies

/-- Directives may be reordered across kinds, and affixes left out behind the first of their kind:
for a declaration that asks for generation, with nothing but naming defaults on its type, the
outcome stays the same in every part. -/
theorem generate_rearranged {decl other : Declaration} (config : Configuration)
    (derives : decl.derives = true) (fits : ∀ d ∈ decl.directives, d.fitsType = true) :
    (decl.Varies Directive.Reordered other → generate other config = generate decl config) ∧
    (decl.Varies Directive.Thinned other → generate other config = generate decl config) := by
  constructor
  · intro reordered
    have varies := reordered.imp fun _ _ => Directive.Reordered.agree
    exact varies.generate_eq config derives fits
  · intro thinned
    have varies := thinned.imp fun _ _ => Directive.Thinned.agree
    exact varies.generate_eq config derives fits

/-- A type and two fields with naming directives of several kinds, one of them twice. -/
def Declaration.affixed : Declaration where
  name := "Post"
  shape := .record
  derives := true
  directives := [.keyPrefix "a-", .caseStyle .camel, .keyPrefix "b-"]
  fields := [⟨"post_id", .scalar "u64", none, false, [.rename "ID", .caseStyle .kebab]⟩,
    ⟨"sub_title", .optional (.scalar "String"), none, false,
      [.keySuffix "_", .default none, .keySuffix "-"]⟩]
  handWritten := .nothing

/-- A declaration with a shadowed case style and a default that lacks its value, once with
directives of different kinds exchanged, and once without the affixes that do not count. -/
theorem generate_rearranged_affixed :
    Declaration.affixed.derives = true ∧
    (∀ d ∈ Declaration.affixed.directives, d.fitsType = true) ∧
    generate { Declaration.affixed with
        directives := [.keyPrefix "a-", .keyPrefix "b-", .caseStyle .camel]
        fields := [⟨"post_id", .scalar "u64", none, false, [.caseStyle .kebab, .rename "ID"]⟩,
          ⟨"sub_title", .optional (.scalar "String"), none, false,
            [.default none, .keySuffix "_", .keySuffix "-"]⟩] } .standard =
      generate .affixed .standard ∧
    generate { Declaration.affixed with
        directives := [.keyPrefix "a-", .caseStyle .camel]
        fields := [⟨"post_id", .scalar "u64", none, false, [.rename "ID", .caseStyle .kebab]⟩,
          ⟨"sub_title", .optional (.scalar "String"), none, false,
            [.keySuffix "_", .default none]⟩] } .standard =
      generate .affixed .standard ∧
    (generate .affixed .standard).diagnostics.map (·.code) = ["K002", "E009"] := by
  refine ⟨rfl, by decide, ?_, ?_, by decide⟩
  · refine (generate_rearranged .standard rfl (by decide)).1 ⟨?_, ?_, rfl, rfl, rfl, rfl⟩
    · exact .swap [.keyPrefix "a-"] [] (by decide)
    · exact .cons ⟨rfl, .swap [] [] (by decide)⟩ (.cons ⟨rfl, .swap [] _ (by decide)⟩ .nil)
  · refine (generate_rearranged .standard rfl (by decide)).2 ⟨?_, ?_, rfl, rfl, rfl, rfl⟩
    · exact .leaveOut [] [.caseStyle .camel] [] (by decide) rfl
    · have id : Directive.Thinned [.rename "ID", .caseStyle .kebab]
          [.rename "ID", .caseStyle .kebab] := ⟨.refl _, fun _ _ => rfl, fun _ _ => rfl⟩
      exact .cons ⟨rfl, id⟩
        (.cons ⟨rfl, .leaveOut [] [.default none] [] (by decide) rfl⟩ .nil)

end RecordCoding
