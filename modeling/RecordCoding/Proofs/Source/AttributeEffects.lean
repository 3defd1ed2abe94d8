import RecordCoding.Proofs.Source.AttributeRuns
import RecordCoding.Proofs.Traversal

/-!
# Effects of attributes

What an attribute contributes to its node is what its run says. The items of an attribute have
their effects one after the other, so that it does not matter into how many attributes they are
grouped, and an option that is added among them adds what is reported about it.
-/

namespace RecordCoding

/-- A list that two others are interleaved into, each of them in order. -/
inductive Interleaved {α : Type} : List α → List α → List α → Prop
  | nothing : Interleaved [] [] []
  | left {xs ys zs : List α} (a : α) (rest : Interleaved xs ys zs) :
    Interleaved (a :: xs) ys (a :: zs)
  | right {xs ys zs : List α} (a : α) (rest : Interleaved xs ys zs) :
    Interleaved xs (a :: ys) (a :: zs)

namespace Interleaved

variable {α β : Type} {xs ys zs xs' ys' zs' : List α}

/-- Nothing is added. -/
theorem refl (xs : List α) : Interleaved xs [] xs := by
  induction xs with
  | nil => exact .nothing
  | cons x xs ih => exact .left x ih

/-- Everything is added. -/
theorem only (ys : List α) : Interleaved [] ys ys := by
  induction ys with
  | nil => exact .nothing
  | cons y ys ih => exact .right y ih

/-- Where nothing is added, nothing changes. -/
theorem eq_of_nil (mixed : Interleaved xs [] zs) : zs = xs := by
  induction xs generalizing zs with
  | nil => cases mixed; rfl
  | cons x xs ih =>
    cases mixed with
    | left _ rest => rw [ih rest]

/-- Lists may be put behind one another. -/
theorem append (first : Interleaved xs ys zs) (second : Interleaved xs' ys' zs') :
    Interleaved (xs ++ xs') (ys ++ ys') (zs ++ zs') := by
  induction first with
  | nothing => exact second
  | left a _ ih => exact .left a ih
  | right a _ ih => exact .right a ih

/-- The same may stand in front. -/
theorem behind (first : List α) (mixed : Interleaved xs ys zs) :
    Interleaved (first ++ xs) ys (first ++ zs) :=
  (Interleaved.refl first).append mixed

/-- What is kept of the elements is interleaved as well. -/
theorem filterMap (f : α → Option β) (mixed : Interleaved xs ys zs) :
    Interleaved (xs.filterMap f) (ys.filterMap f) (zs.filterMap f) := by
  induction mixed with
  | nothing => exact .nothing
  | left a _ ih =>
    simp only [List.filterMap_cons]
    cases f a with
    | none => exact ih
    | some b => exact .left b ih
  | right a _ ih =>
    simp only [List.filterMap_cons]
    cases f a with
    | none => exact ih
    | some b => exact .right b ih

/-- An element is among those of one of the lists. -/
theorem mem_iff (mixed : Interleaved xs ys zs) {a : α} : a ∈ zs ↔ a ∈ xs ∨ a ∈ ys := by
  induction mixed with
  | nothing => simp
  | left b _ ih => simp only [List.mem_cons, ih, or_assoc]
  | right b _ ih => simp only [List.mem_cons, ih, or_left_comm]

end Interleaved

namespace Source

open Source.Parser

/-! ## What an attribute contributes -/

/-- What is reported about an attribute that is refused: an `E099` with the words of the refusal. -/
def refusalFlaw (node : Node) (words : String) : Effect := .flaw (.of (.internal words) node.target)

/-- The effects of an attribute on its node: those of the items of its run in order, and one report
where the run or what is around it is refused. The items behind a refusal are not in the run, so
that they have no effects, whatever they are. -/
inductive Contributes (node : Node) (attr : Attribute) : List Effect → Prop
  | bare (body : attr.body = .nothing) : Contributes node attr
    [refusalFlaw node "expected attribute arguments in parentheses: #[codify(...)]"]
  | value (body : attr.body = .value) : Contributes node attr
    [refusalFlaw node "expected parentheses: #[codify(...)]"]
  | empty (body : attr.body = .arguments []) : Contributes node attr []
  | complete {tokens : List Token} {founds : List (List Effect)}
    (body : attr.body = .arguments tokens) (nonempty : tokens ≠ [])
    (run : Run (withGrammar (itemEffects node)) tokens founds none none) :
    Contributes node attr founds.flatten
  | refused {tokens : List Token} {founds : List (List Effect)} {e : SyntaxError}
    {left : Option Delimiter} (body : attr.body = .arguments tokens) (nonempty : tokens ≠ [])
    (run : Run (withGrammar (itemEffects node)) tokens founds (some e) left) :
    Contributes node attr (founds.flatten ++ [refusalFlaw node e.message])
  | unfinished {tokens : List Token} {founds : List (List Effect)} {delimiter : Delimiter}
    (body : attr.body = .arguments tokens) (nonempty : tokens ≠ [])
    (run : Run (withGrammar (itemEffects node)) tokens founds none (some delimiter)) :
    Contributes node attr
      (founds.flatten ++ [refusalFlaw node (SyntaxError.leftover (some delimiter)).message])

section Contributions

variable {node : Node} {attr : Attribute}

/-- The effects of an attribute with arguments. -/
def argumentEffects (node : Node) (tokens : List Token) : List Effect :=
  (harvestTokens (itemEffects node) tokens).effects node

/-- What stands in parentheses has the effects of its arguments. -/
theorem attributeEffects_of_arguments {tokens : List Token} (body : attr.body = .arguments tokens) :
    attributeEffects node attr = argumentEffects node tokens := by
  rw [attributeEffects, Attribute.harvest, body]
  rfl

/-- The effects of arguments are those of their run. -/
theorem argumentEffects_of_run {tokens : List Token} {founds : List (List Effect)}
    {refusal : Option SyntaxError} {left : Option Delimiter} (nonempty : tokens ≠ [])
    (run : Run (withGrammar (itemEffects node)) tokens founds refusal left) :
    argumentEffects node tokens = founds.flatten ++
      (refusal.or (left.map fun delimiter => .leftover (some delimiter))).toList.map
        fun e => refusalFlaw node e.message := by
  rw [argumentEffects, harvestTokens_of_run nonempty run]
  rfl

/-- There is a run over the items of any arguments. -/
theorem exists_run_itemEffects (node : Node) (tokens : List Token) :
    ∃ founds refusal left, Run (withGrammar (itemEffects node)) tokens founds refusal left :=
  Run.exists_run tokens

/-- The attributes that carry directives are written in one way. -/
theorem name_of_isDirective (directive : attr.isDirective = true) : attr.name = some "codify" :=
  eq_of_beq directive

/-- An attribute contributes its effects and nothing else. -/
theorem contributes_iff (directive : attr.isDirective = true) {effects : List Effect} :
    Contributes node attr effects ↔ attributeEffects node attr = effects := by
  have name := name_of_isDirective directive
  constructor
  · intro contributes
    cases contributes with
    | bare body =>
      rw [attributeEffects, Attribute.harvest, body, name]
      rfl
    | value body =>
      rw [attributeEffects, Attribute.harvest, body, name]
      rfl
    | empty body => rw [attributeEffects_of_arguments body]; rfl
    | complete body nonempty run =>
      rw [attributeEffects_of_arguments body, argumentEffects_of_run nonempty run]
      exact List.append_nil _
    | refused body nonempty run =>
      rw [attributeEffects_of_arguments body, argumentEffects_of_run nonempty run]
      rfl
    | unfinished body nonempty run =>
      rw [attributeEffects_of_arguments body, argumentEffects_of_run nonempty run]
      rfl
  · rintro rfl
    match body : attr.body with
    | .nothing =>
      rw [attributeEffects, Attribute.harvest, body, name]
      exact .bare body
    | .value =>
      rw [attributeEffects, Attribute.harvest, body, name]
      exact .value body
    | .arguments tokens =>
      rw [attributeEffects_of_arguments body]
      by_cases nonempty : tokens = []
      · subst nonempty
        exact .empty body
      · obtain ⟨founds, refusal, left, run⟩ := exists_run_itemEffects node tokens
        rw [argumentEffects_of_run nonempty run]
        cases refusal with
        | some e => exact .refused body nonempty run
        | none =>
          cases left with
          | some delimiter => exact .unfinished body nonempty run
          | none =>
            have all : Contributes node attr (founds.flatten ++ []) :=
              (List.append_nil founds.flatten).symm ▸ .complete body nonempty run
            exact all

/-- What the directives of a node contribute, one by one. -/
def Contributions (node : Node) (attrs : List Attribute) (effects : List (List Effect)) : Prop :=
  List.Forall₂ (Contributes node) (attrs.filter Attribute.isDirective) effects

/-- The effects of every directive of a node. -/
def directiveEffects (node : Node) (attrs : List Attribute) : List (List Effect) :=
  (attrs.filter Attribute.isDirective).map (attributeEffects node)

/-- The effects on a node are those of its directives, one behind the other. -/
theorem flatten_directiveEffects (node : Node) (attrs : List Attribute) :
    (directiveEffects node attrs).flatten = nodeEffects node attrs := List.flatMap_def.symm

/-- The directives of a node contribute their effects and nothing else. -/
theorem contributions_iff {attrs : List Attribute} {effects : List (List Effect)} :
    Contributions node attrs effects ↔ directiveEffects node attrs = effects :=
  forall₂_iff_eq_map fun _ member _ => contributes_iff (List.mem_filter.mp member).2

end Contributions

/-! ## Items -/

/-- Tokens that are one item of an attribute on a node, with what it gives. -/
def IsItem (node : Node) (chunk : List Token) (effects : List Effect) : Prop :=
  ∃ written, readFirst (withGrammar (itemEffects node)) chunk =
    (.ok (.complete effects), ⟨[], written, none⟩)

section Items

variable {node : Node} {chunk tokens : List Token} {effects : List Effect}

/-- Without tokens there is no item. -/
theorem IsItem.ne_nil (item : IsItem node chunk effects) : chunk ≠ [] := by
  rintro rfl
  obtain ⟨written, read⟩ := item
  cases read

/-- An item that stands alone has its effects. -/
theorem IsItem.argumentEffects (item : IsItem node chunk effects) :
    argumentEffects node chunk = effects := by
  obtain ⟨written, read⟩ := id item
  rw [argumentEffects_of_run item.ne_nil (.last read rfl)]
  exact (List.append_nil _).trans List.flatten_singleton

/-- An item in front of a comma has its effects first, whatever there is behind the comma. -/
theorem IsItem.argumentEffects_append (item : IsItem node chunk effects) (joined : Bool)
    (tokens : List Token) :
    Source.argumentEffects node (chunk ++ .punct ',' joined :: tokens) =
      effects ++ Source.argumentEffects node tokens := by
  obtain ⟨written, read⟩ := id item
  have first : readFirst (withGrammar (itemEffects node)) (chunk ++ .punct ',' joined :: tokens) =
      (.ok (.complete effects), ⟨.punct ',' joined :: tokens, written, none⟩) :=
    (CarriesItems.carry read).2
  have nonempty : chunk ++ .punct ',' joined :: tokens ≠ [] :=
    List.append_ne_nil_of_left_ne_nil item.ne_nil _
  by_cases more : tokens = []
  · subst more
    rw [argumentEffects_of_run nonempty (.closed first rfl)]
    simp only [List.flatten_singleton]
    rfl
  · obtain ⟨founds, refusal, left, run⟩ := exists_run_itemEffects node tokens
    rw [argumentEffects_of_run nonempty (.next first rfl more run),
      argumentEffects_of_run more run, List.flatten_cons, List.append_assoc]
    rfl

end Items

/-! ## Grouping items into attributes -/

/-- Items with commas between them, and perhaps one behind the last. -/
inductive Joined : List (List Token) → List Token → Prop
  | nothing : Joined [] []
  | last (chunk : List Token) : Joined [chunk] chunk
  | more (chunk : List Token) (joined : Bool) {chunks : List (List Token)} {tokens : List Token}
    (rest : Joined chunks tokens) :
    Joined (chunk :: chunks) (chunk ++ .punct ',' joined :: tokens)

/-- Attributes whose directives have certain items, in order. There may be other attributes among
them. -/
inductive Grouped : List (List Token) → List Attribute → Prop
  | nothing : Grouped [] []
  | other (attr : Attribute) (other : attr.isDirective = false) {chunks : List (List Token)}
    {attrs : List Attribute} (rest : Grouped chunks attrs) : Grouped chunks (attr :: attrs)
  | group (attr : Attribute) (directive : attr.isDirective = true) {tokens : List Token}
    (body : attr.body = .arguments tokens) {chunks chunks' : List (List Token)}
    {attrs : List Attribute} (items : Joined chunks tokens) (rest : Grouped chunks' attrs) :
    Grouped (chunks ++ chunks') (attr :: attrs)

section Grouping

variable {node : Node} {chunks : List (List Token)}
  (items : ∀ chunk ∈ chunks, ∃ effects, IsItem node chunk effects)

/-- One more attribute in front. -/
theorem nodeEffects_cons (node : Node) (attr : Attribute) (attrs : List Attribute) :
    nodeEffects node (attr :: attrs) = nodeEffects node [attr] ++ nodeEffects node attrs :=
  nodeEffects_append node [attr] attrs

/-- Only directives have effects. -/
theorem nodeEffects_of_other {attr : Attribute} (other : attr.isDirective = false) :
    nodeEffects node [attr] = [] := by
  rw [nodeEffects, List.filter_singleton, other]
  rfl

/-- A directive has the effects of its arguments. -/
theorem nodeEffects_of_directive {attr : Attribute} (directive : attr.isDirective = true)
    {tokens : List Token} (body : attr.body = .arguments tokens) :
    nodeEffects node [attr] = argumentEffects node tokens := by
  rw [nodeEffects, List.filter_singleton, directive, ← attributeEffects_of_arguments body]
  exact List.append_nil _

include items

/-- Items have their effects in order. -/
theorem argumentEffects_of_joined {tokens : List Token} (joined : Joined chunks tokens) :
    argumentEffects node tokens = chunks.flatMap (argumentEffects node) := by
  induction joined with
  | nothing => rfl
  | last chunk => rw [List.flatMap_singleton]
  | more chunk joined rest ih =>
    obtain ⟨effects, item⟩ := items chunk List.mem_cons_self
    rw [item.argumentEffects_append, List.flatMap_cons, item.argumentEffects,
      ih fun other member => items other (List.mem_cons_of_mem chunk member)]

/-- It does not matter how items are grouped into attributes. -/
theorem nodeEffects_of_grouped {attrs : List Attribute} (grouped : Grouped chunks attrs) :
    nodeEffects node attrs = chunks.flatMap (argumentEffects node) := by
  induction grouped with
  | nothing => rfl
  | other attr other rest ih =>
    rw [nodeEffects_cons, nodeEffects_of_other other, ih items, List.nil_append]
  | group attr directive body joined rest ih =>
    rw [nodeEffects_cons, nodeEffects_of_directive directive body, List.flatMap_append,
      argumentEffects_of_joined (fun chunk member => items chunk
        (List.mem_append_left _ member)) joined,
      ih fun chunk member => items chunk (List.mem_append_right _ member)]

end Grouping

/-! ## Options among the attributes of a field -/

/-- Tokens that are one option of types, perhaps with something behind it that is passed over. -/
def IsOption (chunk : List Token) (key : String) : Prop :=
  ∃ path c written, itemPath.start ⟨chunk, [], none⟩ = (.ok path, c) ∧ path.key = key ∧
    (TypeOption.ofKey? key).isSome = true ∧
    (skipValue (.ofTokens c.rest)).start c = (.ok (), ⟨[], written, none⟩)

/-- What is reported about an option of types on a field: an `E006` at the option. -/
def misplacedOption (name key : String) : Diagnostic := .of (.structOnly key) (.onField name key)

/-- On a field an option is an item with nothing but a report. -/
theorem IsOption.isItem {chunk : List Token} {key : String} (option : IsOption chunk key)
    (name : String) : IsItem (.field name) chunk [.flaw (misplacedOption name key)] := by
  obtain ⟨path, c, written, word, rfl, named, behind⟩ := option
  obtain ⟨found, named⟩ := Option.isSome_iff_exists.mp named
  refine ⟨written, ?_⟩
  have first : (attempt itemPath).start ⟨chunk, [], none⟩ = (.ok (.ok path), c) := by
    rw [start_attempt, word]
  have passed : (attempt (skipValue (.ofTokens c.rest))).start c =
      (.ok (.ok ()), ⟨[], written, none⟩) := by
    rw [start_attempt, behind]
  have reads : (itemEffects (.field name) (.ofTokens c.rest) path).start c =
      (.ok (.complete [.flaw (misplacedOption name path.key)]), ⟨[], written, none⟩) := by
    unfold itemEffects
    dsimp only
    rw [named]
    exact start_bind_of_ok passed
  rw [readFirst, readItem]
  refine (start_bind_of_ok first).trans ?_
  exact (start_withGrammar _ path c).trans reads

/-- Arguments among which options were added, and what is reported about these. What follows the
last option may be anything; in front of it there are items. -/
inductive WithOptions (name : String) : List Token → List Token → List Diagnostic → Prop
  | same (tokens : List Token) : WithOptions name tokens tokens []
  | item {chunk : List Token} {effects : List Effect} (item : IsItem (.field name) chunk effects)
    (joined : Bool) {tokens tokens' : List Token} {added : List Diagnostic}
    (rest : WithOptions name tokens tokens' added) :
    WithOptions name (chunk ++ .punct ',' joined :: tokens) (chunk ++ .punct ',' joined :: tokens')
      added
  | last {chunk : List Token} {effects : List Effect} (item : IsItem (.field name) chunk effects)
    (joined : Bool) {tokens' : List Token} {added : List Diagnostic}
    (rest : WithOptions name [] tokens' added) :
    WithOptions name chunk (chunk ++ .punct ',' joined :: tokens') added
  | option {chunk : List Token} {key : String} (option : IsOption chunk key) (joined : Bool)
    {tokens tokens' : List Token} {added : List Diagnostic}
    (rest : WithOptions name tokens tokens' added) :
    WithOptions name tokens (chunk ++ .punct ',' joined :: tokens')
      (misplacedOption name key :: added)
  | alone {chunk : List Token} {key : String} (option : IsOption chunk key) :
    WithOptions name [] chunk [misplacedOption name key]

/-- Options add what is reported about them. -/
theorem WithOptions.interleaved {name : String} {tokens tokens' : List Token}
    {added : List Diagnostic} (gains : WithOptions name tokens tokens' added) :
    Interleaved (argumentEffects (.field name) tokens) (added.map .flaw)
      (argumentEffects (.field name) tokens') := by
  induction gains with
  | same tokens => exact .refl _
  | item item joined rest ih =>
    rw [item.argumentEffects_append, item.argumentEffects_append]
    exact ih.behind _
  | last item joined rest ih =>
    have none : argumentEffects (.field name) [] = [] := rfl
    rw [none] at ih
    rw [item.argumentEffects_append, item.argumentEffects]
    simpa only [List.append_nil] using ih.behind _
  | option option joined rest ih =>
    rw [(option.isItem name).argumentEffects_append]
    exact .right _ ih
  | alone option =>
    rw [(option.isItem name).argumentEffects]
    exact .only _

/-! ## Attributes written in another way -/

/-- Attributes of a node that are written in another way, and what is reported in addition: items
may be grouped into other attributes, and options may be added on a field. -/
inductive Rewritten (node : Node) : List Attribute → List Attribute → List Diagnostic → Prop
  | nothing : Rewritten node [] [] []
  | keep (attr : Attribute) {attrs attrs' : List Attribute} {added : List Diagnostic}
    (rest : Rewritten node attrs attrs' added) :
    Rewritten node (attr :: attrs) (attr :: attrs') added
  | regroup {chunks : List (List Token)} {attrs attrs' : List Attribute}
    (items : ∀ chunk ∈ chunks, ∃ effects, IsItem node chunk effects)
    (grouped : Grouped chunks attrs) (regrouped : Grouped chunks attrs')
    {others others' : List Attribute} {added : List Diagnostic}
    (rest : Rewritten node others others' added) :
    Rewritten node (attrs ++ others) (attrs' ++ others') added
  | within {name : String} (onField : node = .field name) (attr attr' : Attribute)
    (directive : attr.isDirective = true) (directive' : attr'.isDirective = true)
    {tokens tokens' : List Token} (body : attr.body = .arguments tokens)
    (body' : attr'.body = .arguments tokens') {gained : List Diagnostic}
    (gains : WithOptions name tokens tokens' gained) {others others' : List Attribute}
    {added : List Diagnostic} (rest : Rewritten node others others' added) :
    Rewritten node (attr :: others) (attr' :: others') (gained ++ added)
  | further {name : String} (onField : node = .field name) (attr : Attribute)
    (directive : attr.isDirective = true) {tokens : List Token}
    (body : attr.body = .arguments tokens) {gained : List Diagnostic}
    (gains : WithOptions name [] tokens gained) {others others' : List Attribute}
    {added : List Diagnostic} (rest : Rewritten node others others' added) :
    Rewritten node others (attr :: others') (gained ++ added)

/-- The effects stay the same, up to reports in addition. -/
theorem Rewritten.interleaved {node : Node} {attrs attrs' : List Attribute}
    {added : List Diagnostic} (rewritten : Rewritten node attrs attrs' added) :
    Interleaved (nodeEffects node attrs) (added.map .flaw) (nodeEffects node attrs') := by
  induction rewritten with
  | nothing => exact .nothing
  | @keep attr attrs attrs' added rest ih =>
    rw [nodeEffects_cons node attr attrs, nodeEffects_cons node attr attrs']
    exact ih.behind _
  | regroup items grouped regrouped rest ih =>
    rw [nodeEffects_append, nodeEffects_append, nodeEffects_of_grouped items grouped,
      nodeEffects_of_grouped items regrouped]
    exact ih.behind _
  | within onField attr attr' directive directive' body body' gains rest ih =>
    subst onField
    rw [nodeEffects_cons _ attr, nodeEffects_cons _ attr', nodeEffects_of_directive directive body,
      nodeEffects_of_directive directive' body', List.map_append]
    exact gains.interleaved.append ih
  | further onField attr directive body gains rest ih =>
    subst onField
    rw [nodeEffects_cons _ attr, nodeEffects_of_directive directive body, List.map_append]
    exact gains.interleaved.append ih

end Source
end RecordCoding
