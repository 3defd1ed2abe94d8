import RecordCoding.Proofs.Source.AttributeEffects

/-!
# Flaws of attributes

What can be found wrong with the directives of a type or a field while they are read. It is a short
list of causes: everything else that can be wrong is found later, or about items that cannot take
directives at all.
-/

namespace RecordCoding

/-- The causes of what is found wrong while directives are read. -/
def Cause.IsOfDirective : Cause → Prop
  | .mustBeStringLiteral _ | .unknownCaseStyle _ | .valueRequired _ | .fieldOnly _
  | .structOnly _ | .internal _ => True
  | .emptyCustomKey | .keyTableExists _ | .fieldOrStructOnly _ | .notAFlatRecord
  | .missingDefaultValue _ | .requiresDerive _ | .notAStruct | .multipleKeyAttributes _
  | .customKeyShadowsCase | .keyOnComputedField => False

namespace Source

open Source.Parser

/-- If an effect reports something, it is about a directive. -/
def Effect.IsOfDirective : Effect → Prop
  | .flaw d => d.cause.IsOfDirective
  | .directive _ | .option _ | .computed => True

/-! ## Readers of items -/

section Readers

variable {α β : Type} {P : α → Prop}

/-- All that a reader of items finds has a property. -/
def FindsOnly (P : α → Prop) (p : Parser (Harvest α)) : Prop :=
  ∀ ⦃c c' : Cursor⦄ ⦃harvest⦄, p.start c = (.ok harvest, c') → ∀ a ∈ harvest.found, P a

theorem findsOnly_pure {harvest : Harvest α} (all : ∀ a ∈ harvest.found, P a) :
    FindsOnly P (pure harvest) := by
  intro c c' found read
  cases read
  exact all

theorem findsOnly_complete {a : α} (single : P a) :
    FindsOnly P (pure (Harvest.complete [a])) :=
  findsOnly_pure fun _ member => List.mem_singleton.mp member ▸ single

theorem findsOnly_bind (p : Parser β) {k : β → Parser (Harvest α)}
    (then_ : ∀ b, FindsOnly P (k b)) : FindsOnly P (p >>= k) := by
  intro c c' harvest read
  obtain ⟨b, _, -, rest⟩ := of_start_bind read
  exact then_ b rest

theorem findsOnly_ite {p q : Parser (Harvest α)} (condition : Prop) [Decidable condition]
    (first : FindsOnly P p) (second : FindsOnly P q) :
    FindsOnly P (if condition then p else q) := by
  by_cases holds : condition
  · rwa [if_pos holds]
  · rwa [if_neg holds]

theorem findsOnly_thenReading {found : List α} (p : Parser Unit) (all : ∀ a ∈ found, P a) :
    FindsOnly P (Harvest.thenReading found p) := by
  refine findsOnly_bind _ fun outcome => ?_
  cases outcome with
  | ok _ => exact findsOnly_pure all
  | error _ => exact findsOnly_pure all

/-- What a reader finds behind the path of an item is what is found in the item. -/
theorem findsOnly_readItem {item : PlainPath → Parser (Harvest α)}
    (items : ∀ path, FindsOnly P (item path)) : FindsOnly P (readItem item) := by
  refine findsOnly_bind _ fun path => ?_
  cases path with
  | error _ => exact findsOnly_pure nofun
  | ok path => exact items path

/-- Every item of a run is found by a reader of items. -/
theorem Run.forall_mem {item : PlainPath → Parser (Harvest α)} {tokens : List Token}
    {founds : List (List α)} {refusal : Option SyntaxError} {left : Option Delimiter}
    (run : Run item tokens founds refusal left) (items : FindsOnly P (readItem item)) :
    ∀ a ∈ founds.flatten, P a := by
  induction run with
  | refused read => simpa using items read
  | last read _ => simpa [Harvest.complete] using items read
  | closed read _ => simpa [Harvest.complete] using items read
  | unseparated read _ _ => simpa [Harvest.complete] using items read
  | next read _ _ _ ih =>
    intro a member
    rw [List.flatten_cons, List.mem_append] at member
    exact member.elim (items read a) (ih a)

end Readers

/-! ## Items of directives -/

section Items

variable (g : Grammar) (node : Node)

theorem findsOnly_literalEffects (key : String) {effect : String → Effect}
    (literal : ∀ text, (effect text).IsOfDirective) :
    FindsOnly Effect.IsOfDirective (literalEffects g node key effect) := by
  unfold literalEffects
  refine findsOnly_bind _ fun seen => findsOnly_ite _ (findsOnly_bind _ fun value => ?_) ?_
  · cases value with
    | error _ => exact findsOnly_pure nofun
    | ok form =>
      cases form with
      | literal written =>
        cases written with
        | none => exact findsOnly_complete True.intro
        | some text =>
          dsimp only
          cases Literal.string? text with
          | none => exact findsOnly_complete True.intro
          | some value => exact findsOnly_complete (literal value)
      | range | comparison | block | invocation _ | verbatim | other =>
        exact findsOnly_complete True.intro
  · exact findsOnly_complete True.intro

theorem isOfDirective_caseEffect (tag : String) : (caseEffect node tag).IsOfDirective := by
  unfold caseEffect
  split <;> exact True.intro

theorem findsOnly_defaultEffects : FindsOnly Effect.IsOfDirective (defaultEffects g) := by
  refine findsOnly_bind _ fun seen => findsOnly_ite _ (findsOnly_bind _ fun value => ?_) ?_
  · cases value with
    | error _ => exact findsOnly_pure nofun
    | ok _ => exact findsOnly_complete True.intro
  · exact findsOnly_complete True.intro

theorem findsOnly_effectBehindValue {effect : Effect} (about : effect.IsOfDirective) :
    FindsOnly Effect.IsOfDirective (effectBehindValue g effect) := by
  refine findsOnly_bind _ fun outcome => ?_
  cases outcome with
  | ok _ => exact findsOnly_complete about
  | error _ => exact findsOnly_pure nofun

theorem findsOnly_commonEffects (key : String) :
    FindsOnly Effect.IsOfDirective (commonEffects g node key) := by
  unfold commonEffects
  split
  · exact findsOnly_literalEffects g node _ fun _ => True.intro
  · exact findsOnly_literalEffects g node _ fun _ => True.intro
  · exact findsOnly_literalEffects g node _ fun _ => True.intro
  · exact findsOnly_literalEffects g node _ (isOfDirective_caseEffect node)
  · exact findsOnly_defaultEffects g
  · exact findsOnly_effectBehindValue g True.intro
  · exact findsOnly_effectBehindValue g True.intro
  · exact findsOnly_effectBehindValue g True.intro

/-- All effects of an item that report something are about a directive. -/
theorem findsOnly_itemEffects (path : PlainPath) :
    FindsOnly Effect.IsOfDirective (itemEffects node g path) := by
  have single {effect : Effect} (about : effect.IsOfDirective) :
      FindsOnly Effect.IsOfDirective (Harvest.thenReading [effect] (skipValue g)) :=
    findsOnly_thenReading _ (by simpa using about)
  dsimp only [itemEffects]
  split
  · exact single True.intro
  · exact single True.intro
  · exact findsOnly_ite _ (single True.intro) (findsOnly_commonEffects g _ _)
  · exact findsOnly_ite _ (single True.intro) (findsOnly_commonEffects g _ _)

end Items

/-! ## Attributes and types -/

/-- All effects of an attribute that report something are about a directive. -/
theorem isOfDirective_of_contributes {node : Node} {attr : Attribute} {effects : List Effect}
    (contributes : Contributes node attr effects) : ∀ effect ∈ effects, effect.IsOfDirective := by
  have items : FindsOnly Effect.IsOfDirective (readItem (withGrammar (itemEffects node))) :=
    findsOnly_readItem fun path => findsOnly_bind _ fun _ => findsOnly_itemEffects _ node path
  have refusal (words : String) : (refusalFlaw node words).IsOfDirective := True.intro
  cases contributes with
  | bare _ => simpa using refusal _
  | value _ => simpa using refusal _
  | empty _ => nofun
  | complete _ _ run => exact run.forall_mem items
  | refused _ _ run =>
    exact List.forall_mem_append.mpr ⟨run.forall_mem items, by simpa using refusal _⟩
  | unfinished _ _ run =>
    exact List.forall_mem_append.mpr ⟨run.forall_mem items, by simpa using refusal _⟩

/-- All flaws among the effects on a node are about its directives. -/
theorem isOfDirective_of_mem_nodeEffects {node : Node} {attrs : List Attribute} {d : Diagnostic}
    (member : d ∈ (nodeEffects node attrs).filterMap Effect.flaw?) : d.cause.IsOfDirective := by
  obtain ⟨effect, inside, reported⟩ := List.mem_filterMap.mp member
  obtain ⟨attr, directive, found⟩ := List.mem_flatMap.mp inside
  have about := isOfDirective_of_contributes
    ((contributes_iff (List.mem_filter.mp directive).2).mpr rfl) effect found
  cases effect with
  | flaw d' =>
    cases reported
    exact about
  | directive _ => cases reported
  | option _ => cases reported
  | computed => cases reported

/-- All flaws of lowered fields are about their directives. -/
theorem isOfDirective_of_mem_lowerFields {position : Nat} {fields : List SourceField}
    {d : Diagnostic} (member : d ∈ (lowerFields position fields).flatMap (·.2)) :
    d.cause.IsOfDirective := by
  induction fields generalizing position with
  | nil => cases member
  | cons field rest ih =>
    rw [lowerFields, List.flatMap_cons, List.mem_append] at member
    exact member.elim isOfDirective_of_mem_nodeEffects ih

/-- All that is found wrong when a type is lowered is about directives. -/
theorem isOfDirective_of_mem_flaws {item : TypeItem} {d : Diagnostic}
    (member : d ∈ item.lower.flaws) : d.cause.IsOfDirective := by
  unfold TypeItem.lower at member
  dsimp only at member
  split at member
  · exact (List.mem_append.mp member).elim isOfDirective_of_mem_nodeEffects
      isOfDirective_of_mem_lowerFields
  · cases member

end Source

end RecordCoding
