import RecordCoding.Proofs.Source.FileParts
import RecordCoding.Proofs.Source.GrowthOfItems
import RecordCoding.Proofs.Source.IdentifierTokens
import RecordCoding.Proofs.Traversal

/-!
# Names and attributes in source text

Types, their fields and variants, and functions that are read off a text have names that are
written as identifiers and are not reserved; a field may also be named by an underscore, or have no
name. The arguments of their attributes are tokens of the text. Readers are shown to give nothing
else by going through their parts: each part is given tokens whose identifiers are written as such,
and leaves some of these.
-/

namespace RecordCoding.Source

open Source.Parser

/-! ## What a reader gives -/

/-- A name that is written as an identifier and is not reserved. -/
structure IsSourceName (name : String) : Prop where
  free : isName name = true
  written : IsIdentifierText name

namespace Parser

/-- Whatever a reader gives for tokens whose identifiers are written as such has a property. -/
def Gives {α : Type} (p : Parser α) (P : α → Prop) : Prop :=
  ∀ ⦃c c' : Cursor⦄ ⦃a : α⦄, Spelt c.rest → p.start c = (.ok a, c') → P a

section

variable {α β : Type} {p : Parser α} {P : α → Prop} {Q : β → Prop}

theorem gives_pure {a : α} (holds : P a) : Gives (pure a) P := by
  intro c c' a _ read
  cases read
  exact holds

theorem gives_throw (e : SyntaxError) : Gives (throw e) P := nofun

theorem gives_expect (alternatives : List String) : Gives (expect alternatives) P := nofun

theorem gives_refuse (rule : String) : Gives (refuse rule) P := nofun

/-- A sequence gives what its second reader does, with what the first one gave. -/
theorem gives_bind {k : α → Parser β} [Carries [] p p] (first : Gives p P)
    (then_ : ∀ a, P a → Gives (k a) Q) : Gives (p >>= k) Q := by
  intro c c' b spelt read
  obtain ⟨a, c₁, reads, rest⟩ := of_start_bind read
  have suffix := Carries.suffix [] p reads
  exact then_ a (first spelt reads) (spelt.of_suffix suffix) rest

/-- A sequence in which nothing depends on what the first reader gave. -/
theorem gives_after {k : α → Parser β} [Carries [] p p] (then_ : ∀ a, Gives (k a) Q) :
    Gives (p >>= k) Q :=
  gives_bind (P := fun _ => True) (fun _ _ _ _ _ => trivial) fun a _ => then_ a

theorem gives_map {f : α → β} [Carries [] p p] (first : Gives p fun a => Q (f a)) :
    Gives (f <$> p) Q :=
  gives_bind first fun _ holds => gives_pure holds

/-- What is done with the tokens in front does not depend on them. -/
theorem gives_ahead {k : List Token → Parser α} (then_ : ∀ tokens, Gives (k tokens) P) :
    Gives (ahead >>= k) P := by
  intro c c' a spelt read
  rw [start_bind_of_ok (start_ahead c)] at read
  exact then_ c.rest spelt read

theorem gives_ite {q : Parser α} {condition : Prop} [Decidable condition] (then_ : Gives p P)
    (else_ : Gives q P) : Gives (if condition then p else q) P := by
  split
  · exact then_
  · exact else_

/-- In a group there are tokens of the same kind. -/
theorem gives_group {delimiter : Delimiter} (inner : Gives p P) : Gives (group delimiter p) P := by
  intro c c' a spelt read
  obtain ⟨content, tail, after, grouped, reads, -⟩ := of_start_group read
  rw [grouped] at spelt
  exact inner (spelt_group.mp (spelt_cons.mp spelt).1) reads

theorem gives_verbatimIf {test : α → Bool} (inner : Gives p P) : Gives (verbatimIf test p) P := by
  intro c c' a spelt read
  obtain ⟨⟨⟨b, canonical⟩, source⟩, c₁, sources, rest⟩ := of_start_bind read
  obtain ⟨captures, -⟩ := of_start_sourced sources
  obtain ⟨after, reads, -⟩ := of_start_capture captures
  cases rest
  exact @inner { c with written := [] } _ _ spelt reads

/-- All results of a step that is repeated have a property that it gives each of them. -/
theorem gives_repeated {step : Parser (Option α)} [Carries [] step step]
    (each : Gives step fun found => ∀ a ∈ found, P a) :
    Gives (repeated step) fun found => ∀ a ∈ found, P a := by
  -- What was found so far has the property, and every round adds one result that has it.
  have rounds (bound : Nat) (found : List α) (before : ∀ a ∈ found, P a) :
      Gives (iterate.go (fun found => do return (← step).map (· :: found)) bound found)
        fun found => ∀ a ∈ found, P a := by
    induction bound generalizing found with
    | zero => exact gives_throw _
    | succ bound ih =>
      refine gives_bind (P := fun next => ∀ all ∈ next, ∀ a ∈ all, P a) ?_ fun next holds => ?_
      · refine gives_bind each fun next holds => gives_pure ?_
        cases next with
        | none => nofun
        | some a =>
          rintro _ ⟨⟩
          exact List.forall_mem_cons.mpr ⟨holds a rfl, before⟩
      · cases next with
        | none => exact gives_pure before
        | some all => exact ih all (holds all rfl)
  refine gives_bind (P := fun found => ∀ a ∈ found, P a) ?_ fun found holds => gives_pure ?_
  · intro c c' a spelt read
    rw [iterate, start_bind_of_ok (start_ahead c)] at read
    exact rounds _ [] nofun spelt read
  · exact fun a member => holds a (List.mem_reverse.mp member)

theorem gives_whileSees {test : List Token → Bool} [Carries [] p p] (each : Gives p P) :
    Gives (whileSees test p) fun found => ∀ a ∈ found, P a := by
  refine gives_repeated (gives_after fun seen => gives_ite (gives_map ?_) (gives_pure nofun))
  intro c c' a spelt read
  rintro _ ⟨⟩
  exact each spelt read

theorem gives_terminated {separator : String} [Carries [] p p] (each : Gives p P) :
    Gives (terminated p separator) fun found => ∀ a ∈ found, P a := by
  refine gives_repeated (gives_after fun atEnd => gives_ite (gives_pure nofun) ?_)
  refine gives_bind each fun a holds => gives_after fun atEnd => ?_
  have kept : ∀ b ∈ some a, P b := by
    rintro _ ⟨⟩
    exact holds
  exact gives_ite (gives_after fun _ => gives_pure kept) (gives_pure kept)

/-- What is recorded along with a result does not change it. -/
theorem gives_recorded (inner : Gives p P) : Gives (recorded p) fun result => P result.1 := by
  intro c c' result spelt read
  obtain ⟨⟨a, tokens⟩, c₁, captures, rest⟩ := of_start_bind read
  obtain ⟨after, reads, -⟩ := of_start_capture captures
  cases rest
  exact @inner { c with written := [] } _ _ spelt reads

/-- A group of any kind has tokens of the same kind in it. -/
theorem gives_anyGroup : Gives anyGroup fun found => Spelt found.2 := by
  intro c c' found spelt read
  rw [anyGroup, start_bind_of_ok (start_ahead c)] at read
  obtain ⟨rest, written, leftover⟩ := c
  match rest with
  | .group _ _ :: _ =>
    cases read
    exact spelt_group.mp (spelt_cons.mp spelt).1
  | [] | .ident _ :: _ | .literal _ :: _ | .punct .. :: _ => cases read

/-- A name is written as an identifier and is not reserved. -/
theorem gives_name : Gives name IsSourceName := by
  intro c c' found spelt read
  rw [name, start_bind_of_ok (start_ahead c)] at read
  obtain ⟨rest, written, leftover⟩ := c
  match rest with
  | .ident word :: rest =>
    dsimp only at read
    split at read
    · rename_i named
      cases read
      exact ⟨named, spelt_ident.mp (spelt_cons.mp spelt).1⟩
    · cases read
  | [] | .literal _ :: _ | .punct .. :: _ | .group .. :: _ => cases read

/-- A word is what is read where it was seen. -/
theorem gives_of_seen_word {expected : String} {k : Bool → String → Parser β}
    {q : Bool → Parser β} (then_ : Gives (k true expected) Q) (else_ : Gives (q false) Q) :
    Gives (sees (Ahead.word expected) >>= fun seen =>
      if seen = true then anyWord >>= k seen else q seen) Q := by
  intro c c' b spelt read
  rw [start_bind_of_ok (start_sees _ c)] at read
  cases seen : Ahead.word expected c.rest with
  | false =>
    rw [seen] at read
    exact else_ spelt read
  | true =>
    rw [seen, if_pos rfl] at read
    obtain ⟨word, c₁, reads, rest⟩ := of_start_bind read
    have same : word = expected := by
      obtain ⟨tokens, written, leftover⟩ := c
      unfold Ahead.word at seen
      split at seen
      · rename_i found tail at_
        cases at_
        cases reads
        exact eq_of_beq seen
      · cases seen
    subst same
    exact then_ (spelt.of_suffix (Carries.suffix [] anyWord reads)) rest

end

end Parser

set_option synthInstance.maxSize 100000

/-! ## Attributes -/

/-- The arguments of an attribute, if it has any, are tokens whose identifiers are written as
such. -/
def AttributeBody.IsSpelt : AttributeBody → Prop
  | .arguments tokens => Spelt tokens
  | .nothing | .value => True

/-- So it is for all of several attributes. -/
def AreSpelt (attrs : List Attribute) : Prop := ∀ attr ∈ attrs, attr.body.IsSpelt

theorem areSpelt_append {first second : List Attribute} (before : AreSpelt first)
    (behind : AreSpelt second) : AreSpelt (first ++ second) :=
  fun attr member => (List.mem_append.mp member).elim (before attr) (behind attr)

section

variable {g : Grammar} [Grows g g]

theorem gives_attributeBody : Gives (attributeBody g) AttributeBody.IsSpelt := by
  unfold attributeBody
  refine gives_after fun _ => gives_ite ?_ (gives_after fun _ => gives_ite ?_ (gives_pure trivial))
  · exact gives_bind gives_anyGroup fun found spelt => gives_pure spelt
  · refine gives_after fun _ => gives_after fun _ => gives_ite (gives_refuse _) ?_
    exact gives_after fun _ => gives_pure trivial

theorem gives_attributeContent : Gives (attributeContent g) fun content => content.2.IsSpelt := by
  unfold attributeContent
  refine gives_after fun _ => gives_ite ?_ (gives_after fun _ => ?_) <;>
    exact gives_bind gives_attributeBody fun _ spelt => gives_pure spelt

theorem gives_attributeAfter {marks : Parser Unit} [Carries [] marks marks] :
    Gives (attributeAfter g marks) fun attr => attr.body.IsSpelt := by
  unfold attributeAfter
  refine gives_bind (P := fun found => found.1.2.IsSpelt) ?_ fun found spelt => gives_pure spelt
  exact gives_recorded (gives_after fun _ => gives_group gives_attributeContent)

theorem gives_outerAttributes : Gives (outerAttributes g) AreSpelt :=
  gives_whileSees gives_attributeAfter

theorem gives_innerAttributes : Gives (innerAttributes g) AreSpelt :=
  gives_whileSees gives_attributeAfter

theorem gives_attributedBlock : Gives (attributedBlock g) AreSpelt :=
  gives_group (gives_bind gives_innerAttributes fun _ spelt => gives_after fun _ =>
    gives_pure spelt)

end

/-! ## Items -/

/-- A field is named by an underscore or by a name, if it is named. -/
structure SourceField.IsSpelt (field : SourceField) : Prop where
  attrs : AreSpelt field.attrs
  name : ∀ name ∈ field.name, name = "_" ∨ IsSourceName name

/-- A variant of an enumeration is named. -/
structure Variant.IsSpelt (variant : Variant) : Prop where
  attrs : AreSpelt variant.attrs
  name : IsSourceName variant.name

/-- A function or method is named. -/
structure Callable.IsSpelt (callable : Callable) : Prop where
  attrs : AreSpelt callable.attrs
  name : IsSourceName callable.name

/-- All parts of a type are named that should be. -/
def TypeBody.IsSpelt : TypeBody → Prop
  | .named fields => ∀ field ∈ fields, field.IsSpelt ∧ field.name.isSome = true
  | .tuple fields => ∀ field ∈ fields, field.IsSpelt
  | .enumeration variants => ∀ variant ∈ variants, variant.IsSpelt
  | .unit | .union => True

/-- A type is named, and so are its parts that should be. -/
structure TypeItem.IsSpelt (item : TypeItem) : Prop where
  attrs : AreSpelt item.attrs
  name : IsSourceName item.name
  body : item.body.IsSpelt

/-- What an item declares is named that should be; the items of a module count for themselves. -/
def Item.DeclaresSpelt : Item → Prop
  | .type declared => declared.IsSpelt
  | .function declared => declared.IsSpelt
  | .implementation methods => ∀ method ∈ methods, method.IsSpelt
  | .module _ | .other => True

/-- So it is for everything that an item comes to. -/
def Item.IsSpelt (item : Item) : Prop := ∀ opened ∈ item.opened, opened.DeclaresSpelt

/-- The fields that are looked into are named so. -/
theorem TypeBody.IsSpelt.of_mem_fields {body : TypeBody} (spelt : body.IsSpelt)
    {field : SourceField} (member : field ∈ body.fields) : field.IsSpelt := by
  cases body with
  | named fields => exact (spelt field member).1
  | tuple fields => exact spelt field member
  | unit | enumeration _ | union => cases member

theorem isSpelt_other : Item.IsSpelt .other := by
  intro opened member
  cases List.mem_singleton.mp member
  trivial

theorem isSpelt_function {callable : Callable} (spelt : callable.IsSpelt) :
    Item.IsSpelt (.function callable) := by
  intro opened member
  cases List.mem_singleton.mp member
  exact spelt

theorem isSpelt_implementation {methods : List Callable}
    (spelt : ∀ method ∈ methods, method.IsSpelt) : Item.IsSpelt (.implementation methods) := by
  intro opened member
  cases List.mem_singleton.mp member
  exact spelt

theorem isSpelt_type {declared : TypeItem} (spelt : declared.IsSpelt) :
    Item.IsSpelt (.type declared) := by
  intro opened member
  cases List.mem_singleton.mp member
  exact spelt

theorem isSpelt_of_openedItems {items : List Item} (spelt : ∀ item ∈ items, item.IsSpelt) :
    ∀ opened ∈ openedItems items, opened.DeclaresSpelt := by
  induction items with
  | nil => nofun
  | cons item rest ih =>
    obtain ⟨first, others⟩ := List.forall_mem_cons.mp spelt
    intro opened member
    rcases List.mem_append.mp member with here | later
    · exact first opened here
    · exact ih others opened later

section

variable {g : Grammar} [Grows g g]

/-! ## Readers of types -/

/-- A field that is named by an underscore or by a name. -/
theorem isSpelt_of_some {attrs : List Attribute} {type : TypeExpr} {name : String}
    (spelt : AreSpelt attrs) (named : name = "_" ∨ IsSourceName name) :
    SourceField.IsSpelt ⟨attrs, some name, type⟩ ∧ (some name).isSome = true := by
  refine ⟨⟨spelt, ?_⟩, rfl⟩
  rintro _ ⟨⟩
  exact named

theorem gives_namedField :
    Gives (namedField g) fun field => field.IsSpelt ∧ field.name.isSome = true := by
  unfold namedField
  refine gives_bind gives_outerAttributes fun attrs spelt => ?_
  refine gives_after fun _ => gives_of_seen_word ?_ ?_
  · refine gives_after fun _ => gives_after fun _ => gives_ite ?_ ?_
    · exact gives_after fun _ => gives_pure (isSpelt_of_some spelt (.inl rfl))
    · exact gives_after fun _ => gives_pure (isSpelt_of_some spelt (.inl rfl))
  · refine gives_bind gives_name fun name named => ?_
    refine gives_after fun _ => gives_after fun _ => gives_ite ?_ ?_
    · exact gives_after fun _ => gives_pure (isSpelt_of_some spelt (.inr named))
    · exact gives_after fun _ => gives_pure (isSpelt_of_some spelt (.inr named))

theorem gives_fieldsIn :
    Gives (fieldsIn g) fun fields => ∀ field ∈ fields,
      field.IsSpelt ∧ field.name.isSome = true :=
  gives_group (gives_terminated gives_namedField)

theorem gives_unnamedField : Gives (unnamedField g) SourceField.IsSpelt := by
  unfold unnamedField
  refine gives_bind gives_outerAttributes fun attrs spelt => ?_
  exact gives_after fun _ => gives_after fun _ => gives_pure ⟨spelt, nofun⟩

theorem gives_unnamedFields :
    Gives (unnamedFields g) fun fields => ∀ field ∈ fields, field.IsSpelt :=
  gives_group (gives_terminated gives_unnamedField)

theorem gives_variant : Gives (variant g) Variant.IsSpelt := by
  unfold variant
  refine gives_bind gives_outerAttributes fun attrs spelt => gives_after fun _ => ?_
  refine gives_bind gives_name fun name named => ?_
  dsimp only
  have onward : Gives (do
      if ← mark? "=" then
        let _ ← g.value
      pure (⟨attrs, name⟩ : Variant)) Variant.IsSpelt :=
    gives_after fun _ => gives_ite (gives_after fun _ => gives_pure ⟨spelt, named⟩)
      (gives_pure ⟨spelt, named⟩)
  refine gives_after fun _ => gives_ite (gives_after fun _ => onward) (gives_after fun _ => ?_)
  exact gives_ite (gives_after fun _ => onward) onward

variable (fields : Gives g.fields fun fields => ∀ field ∈ fields,
  field.IsSpelt ∧ field.name.isSome = true)

include fields

theorem gives_structBody : Gives (structBody g) fun body => body.2.IsSpelt := by
  unfold structBody
  refine gives_after fun isConditional => gives_after fun before => gives_after fun _ => ?_
  refine gives_ite ?_ (gives_after fun _ => gives_ite ?_ ?_)
  · refine gives_bind gives_unnamedFields fun fields spelt => gives_after fun _ => ?_
    refine gives_after fun _ => gives_after fun _ => gives_ite (gives_pure spelt) ?_
    exact gives_ite (gives_expect _) (gives_expect _)
  · exact gives_bind fields fun fields spelt => gives_pure spelt
  · refine gives_after fun _ => gives_ite (gives_pure trivial) ?_
    exact gives_ite (gives_expect _) (gives_expect _)

theorem gives_typeDeclaration (keyword : TypeKeyword) {attrs : List Attribute}
    (spelt : AreSpelt attrs) (visibility : List Token) :
    Gives (typeDeclaration g keyword attrs visibility) TypeItem.IsSpelt := by
  unfold typeDeclaration
  refine gives_after fun _ => gives_bind gives_name fun name named => gives_after fun _ => ?_
  cases keyword with
  | struct =>
    refine gives_bind (gives_structBody fields) fun body parts => ?_
    obtain ⟨predicates, body⟩ := body
    exact gives_pure ⟨spelt, named, parts⟩
  | enumeration =>
    refine gives_after fun _ => ?_
    refine gives_bind (gives_group (gives_terminated gives_variant)) fun variants parts => ?_
    exact gives_pure ⟨spelt, named, parts⟩
  | union =>
    exact gives_after fun _ => gives_after fun _ => gives_pure ⟨spelt, named, trivial⟩

theorem gives_typeItem : Gives (typeItem g) TypeItem.IsSpelt := by
  unfold typeItem
  refine gives_bind gives_outerAttributes fun attrs spelt => gives_after fun seen => ?_
  obtain ⟨_, seen⟩ := seen
  refine gives_after fun _ => gives_ite (gives_typeDeclaration fields _ spelt _) ?_
  refine gives_after fun _ => gives_ite (gives_typeDeclaration fields _ spelt _) ?_
  refine gives_after fun _ => gives_ite (gives_typeDeclaration fields _ spelt _) ?_
  exact gives_expect _

omit fields

/-! ## Readers of functions -/

theorem gives_signature (admitsSafe : Bool) :
    Gives (signature g admitsSafe) fun form => IsSourceName form.name := by
  have onward {isSafe : Bool} : Gives (do
      callingConvention?
      word "fn"
      let name ← name
      let _ ← parameters g
      group .parenthesis (functionParameters g)
      let _ ← returnType? g true
      let _ ← conditions g
      pure (⟨name, isSafe⟩ : Signature)) fun form => IsSourceName form.name := by
    refine gives_after fun _ => gives_after fun _ => gives_bind gives_name fun name named => ?_
    refine gives_after fun _ => gives_after fun _ => gives_after fun _ => gives_after fun _ => ?_
    exact gives_pure named
  unfold signature
  refine gives_after fun _ => gives_after fun _ => gives_after fun _ => gives_after fun _ => ?_
  exact gives_ite (gives_after fun _ => onward) onward

theorem gives_functionItem {attrs : List Attribute} (spelt : AreSpelt attrs) :
    Gives (functionItem g attrs) fun item => item.1.IsSpelt := by
  unfold functionItem
  refine gives_after fun _ => gives_bind (gives_signature false) fun form named => ?_
  refine gives_after fun _ => gives_ite (gives_pure isSpelt_other) ?_
  exact gives_bind gives_attributedBlock fun _ inner =>
    gives_pure (isSpelt_function ⟨areSpelt_append spelt inner, named⟩)

theorem gives_implementationFunction {attrs : List Attribute} (spelt : AreSpelt attrs) :
    Gives (implementationFunction g attrs) fun method => ∀ found ∈ method, found.IsSpelt := by
  unfold implementationFunction
  refine gives_bind (gives_signature false) fun form named => gives_after fun _ => ?_
  refine gives_ite (gives_pure nofun) ?_
  refine gives_bind gives_attributedBlock fun _ inner => gives_pure ?_
  rintro _ ⟨⟩
  exact ⟨areSpelt_append spelt inner, named⟩

theorem gives_expectMember {α : Type} {P : α → Prop}
    (beginnings : List (String × (List Token → Bool))) (isMarked : Bool) :
    Gives (expectMember beginnings isMarked) P := nofun

theorem gives_implementationMember :
    Gives (implementationMember g) fun method => ∀ found ∈ method, found.IsSpelt := by
  dsimp only [implementationMember]
  refine gives_bind (P := fun result => ∀ found ∈ result.1, found.IsSpelt) ?_ fun result spelt =>
    gives_pure spelt
  refine gives_verbatimIf (gives_bind gives_outerAttributes fun attrs spelt => ?_)
  -- Only a function gives something; all other members are passed over.
  repeat' first
    | exact gives_pure nofun
    | exact gives_expectMember _ _
    | exact gives_bind (gives_implementationFunction spelt) fun _ found => gives_pure found
    | refine gives_ite ?_ ?_
    | refine gives_after fun _ => ?_

/-! ## Readers of items -/

theorem gives_implementation : Gives (implementation g) fun item => item.1.IsSpelt := by
  have methods {found : List (Option Callable)} (spelt : ∀ method ∈ found, ∀ one ∈ method,
      one.IsSpelt) : Item.IsSpelt (.implementation (found.filterMap id)) :=
    isSpelt_implementation fun method member => by
      obtain ⟨some, inside, same⟩ := List.mem_filterMap.mp member
      exact spelt some inside method same
  have members : Gives (group .brace do
      let _ ← innerAttributes g
      whileSees (!·.isEmpty) (implementationMember g))
      fun found => ∀ method ∈ found, ∀ one ∈ method, one.IsSpelt :=
    gives_group (gives_after fun _ => gives_whileSees gives_implementationMember)
  unfold implementation
  dsimp only
  -- The parts in front of the members may come in several ways, none of which matters.
  repeat' first
    | exact gives_throw _
    | refine gives_bind members fun found spelt => gives_ite (gives_pure isSpelt_other)
        (gives_pure (methods spelt))
    | refine gives_ite ?_ ?_
    | refine gives_after fun _ => ?_

variable (item : Gives g.item Item.IsSpelt)

include item

theorem gives_moduleItem : Gives (moduleItem g) Item.IsSpelt := by
  have inPlace : Gives (group .brace do
      let _ ← innerAttributes g
      Item.module <$> whileSees (!·.isEmpty) g.item) Item.IsSpelt := by
    refine gives_group (gives_after fun _ => ?_)
    exact gives_bind (gives_whileSees item) fun items spelt =>
      gives_pure (isSpelt_of_openedItems spelt)
  unfold moduleItem
  dsimp only
  refine gives_after fun _ => gives_after fun _ => gives_after fun _ => gives_after fun _ => ?_
  refine gives_ite (gives_after fun _ => ?_) ?_ <;>
    exact gives_after fun _ => gives_ite (gives_pure isSpelt_other) (gives_after fun _ =>
      gives_ite inPlace (gives_expect _))

include fields

theorem gives_itemBehind {attrs : List Attribute} (spelt : AreSpelt attrs) :
    Gives (itemBehind g attrs) fun item => item.1.IsSpelt := by
  unfold itemBehind
  refine gives_ahead fun tokens => ?_
  dsimp only
  refine gives_ite (gives_functionItem spelt) ?_
  split
  · refine gives_after fun seen => ?_
    exact gives_bind (gives_typeDeclaration fields _ spelt _) fun declared named =>
      gives_pure (isSpelt_type named)
  refine gives_ite (gives_after fun _ => gives_pure isSpelt_other) ?_
  refine gives_ite (gives_after fun _ => gives_pure isSpelt_other) ?_
  refine gives_ite (gives_bind (gives_moduleItem item) fun item named => gives_pure named) ?_
  refine gives_ite gives_implementation ?_
  exact gives_after fun _ => gives_after fun _ => gives_pure isSpelt_other

theorem gives_itemIn : Gives (itemIn g) Item.IsSpelt := by
  unfold itemIn
  refine gives_bind (P := fun item => item.1.IsSpelt) ?_ fun item named => gives_pure named
  exact gives_verbatimIf (gives_bind gives_outerAttributes fun attrs spelt =>
    gives_itemBehind fields item spelt)

omit fields

theorem gives_fileItems :
    Gives (fileItems g) fun items => ∀ item ∈ items, item.IsSpelt := by
  unfold fileItems
  exact gives_after fun _ => gives_whileSees item

end

/-! ## All levels of the grammar -/

/-- Every level of the grammar gives nothing but items and fields that are named so. -/
theorem gives_ofDepth (depth : Nat) :
    Gives (Grammar.ofDepth depth).item Item.IsSpelt ∧
      Gives (Grammar.ofDepth depth).fields fun fields => ∀ field ∈ fields,
        field.IsSpelt ∧ field.name.isSome = true := by
  induction depth with
  | zero => exact ⟨gives_throw _, gives_throw _⟩
  | succ depth ih =>
    have grows : Grows (.ofDepth depth) (.ofDepth depth) := grows_ofDepth le_rfl
    exact ⟨gives_itemIn ih.2 ih.1, gives_fieldsIn⟩

/-- Where all tokens are read, the reader gave what was read. -/
theorem Parser.Gives.of_readAll {α : Type} {p : Parser α} {P : α → Prop}
    {tokens written : List Token} {a : α} (gives : Gives p P) (spelt : Spelt tokens)
    (read : readAll p tokens = .ok (a, written)) : P a := by
  unfold readAll at read
  split at read
  · cases read
  · rename_i b cursor reads
    split at read
    · cases read
    · split at read
      · cases read
        exact gives spelt reads
      · cases read

/-- What is read off a whole text is what the reader gives for its tokens. -/
theorem of_readText {α : Type} {part : Grammar → Parser α} {P : α → Prop} {text : String} {a : α}
    (gives : ∀ depth, Gives (part (.ofDepth depth)) P)
    (read : (readText part text).map (·.1) = .ok a) : P a := by
  obtain ⟨⟨b, written⟩, reads, rfl⟩ := map_eq_ok_iff.mp read
  unfold readText at reads
  split at reads
  · rename_i tokens lexed
    exact (gives _).of_readAll (spelt_of_tokenize? lexed) reads
  · cases reads

/-- The declaration of a type in a text is named so, with its parts. -/
theorem isSpelt_of_readTypeItem {text : String} {item : TypeItem}
    (read : readTypeItem text = .ok item) : item.IsSpelt := by
  refine of_readText (fun depth => ?_) read
  have grows : Grows (.ofDepth depth) (.ofDepth depth) := grows_ofDepth le_rfl
  exact gives_typeItem (gives_ofDepth depth).2

/-- So is everything in a file, at every depth. -/
theorem isSpelt_of_readFile {text : String} {items : List Item} (read : readFile text = .ok items) :
    ∀ opened ∈ openedItems items, opened.DeclaresSpelt := by
  refine isSpelt_of_openedItems (of_readText (P := fun items => ∀ item ∈ items, item.IsSpelt)
    (fun depth => ?_) read)
  have grows : Grows (.ofDepth depth) (.ofDepth depth) := grows_ofDepth le_rfl
  exact gives_fileItems (gives_ofDepth depth).1

/-! ## Names of fields -/

/-- A field is named by an underscore, or by an identifier that is not reserved. -/
def SourceField.IsNamed (field : SourceField) : Prop :=
  ∃ name ∈ field.name, name = "_" ∨ isName name = true ∧ IsIdentifierText name

/-- All fields are named that should be. -/
def TypeBody.IsNamed (body : TypeBody) : Prop :=
  ∀ fields, body = .named fields → ∀ field ∈ fields, field.IsNamed

/-- The fields of a type that is spelt so are named. -/
theorem TypeItem.IsSpelt.isNamed {item : TypeItem} (spelt : item.IsSpelt) : item.body.IsNamed := by
  intro fields named field member
  have parts := spelt.body
  rw [named] at parts
  obtain ⟨field_, isSome⟩ := parts field member
  obtain ⟨name, own⟩ := Option.isSome_iff_exists.mp isSome
  exact ⟨name, own, (field_.name name own).imp_right fun found => ⟨found.free, found.written⟩⟩

/-- The declaration of a type in a text has fields that are named so. -/
theorem isNamed_of_readTypeItem {text : String} {item : TypeItem}
    (read : readTypeItem text = .ok item) : item.body.IsNamed :=
  (isSpelt_of_readTypeItem read).isNamed

end RecordCoding.Source
