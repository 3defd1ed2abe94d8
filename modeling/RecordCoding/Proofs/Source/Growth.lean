import RecordCoding.Proofs.Source.Carrying

/-!
# Deeper grammars: paths, bounds and types

The grammar is built level by level, each level out of the one below. If what one level reads is
read in the same way by another one, and in front of a comma, then so is what is built out of the
two. The parts of the grammar are gone through in the order in which they refer to one another;
most of them have nothing to add to the readers they are put together from.
-/

namespace RecordCoding.Source

open Source.Parser

/-- A grammar that reads nothing where tokens are missing that a comma could be taken for. -/
class Exacting (g : Grammar) : Prop where
  /-- A bound needs a token. -/
  bound : ∀ {rules : BoundRules} {c c' : Cursor} {form : BoundForm}, c.rest = [] →
    (g.bound rules).start c ≠ (.ok form, c')
  /-- Parameters that are cut off are no pattern. -/
  pattern : ∀ {c c' : Cursor} {form : PatternForm}, Ahead.Cut c.rest →
    g.pattern.start c ≠ (.ok form, c')

/-- What one grammar reads, another one reads in the same way, also in front of a comma where an
item of a list may end. -/
class Grows (g g' : Grammar) : Prop where
  type : ∀ behind [Behind behind] (admitsPlus : Bool),
    Carries behind (g.type admitsPlus) (g'.type admitsPlus)
  bound : ∀ behind [Behind behind] (rules : BoundRules),
    Carries behind (g.bound rules) (g'.bound rules)
  expression : ∀ behind [Behind behind] (place : Place),
    Carries behind (g.expression place) (g'.expression place)
  operand : ∀ behind [Behind behind] (place : Place),
    Carries behind (g.operand place) (g'.operand place)
  operators : ∀ behind [Behind behind] (place : Place) (least : Precedence) (left : Expression),
    Carries behind (g.operators place least left) (g'.operators place least left)
  pattern : ∀ behind [Behind behind], Carries behind g.pattern g'.pattern
  leading : Carries [] g.leading g'.leading
  statements : Carries [] g.statements g'.statements
  item : Carries [] g.item g'.item
  fields : Carries [] g.fields g'.fields
  imports : ∀ admitsRoot, Carries [] (g.imports admitsRoot) (g'.imports admitsRoot)
  exacting : Exacting g

attribute [instance] Grows.type Grows.bound Grows.expression Grows.operand Grows.operators
  Grows.pattern Grows.leading Grows.statements Grows.item Grows.fields Grows.imports

set_option synthInstance.maxSize 100000

section

variable {behind : List Token} [Behind behind] {g g' : Grammar} [Grows g g']

instance carries_written {p q : Parser Expression} [Carries behind p q] :
    Carries behind (Grammar.written p) (Grammar.written q) := by
  dsimp only [Grammar.written]
  infer_instance

instance carries_value : Carries behind g.value g'.value := by
  dsimp only [Grammar.value]
  infer_instance

instance carries_subject : Carries behind g.subject g'.subject := by
  dsimp only [Grammar.subject]
  infer_instance

instance carries_plainPath : Carries behind plainPath plainPath := by
  dsimp only [plainPath]
  infer_instance

instance carries_attributeBody : Carries [] (attributeBody g) (attributeBody g') := by
  dsimp only [attributeBody]
  infer_instance

instance carries_attributeContent : Carries [] (attributeContent g) (attributeContent g') := by
  dsimp only [attributeContent]
  infer_instance

instance carries_attributeAfter {marks : Parser Unit} [Carries behind marks marks] :
    Carries behind (attributeAfter g marks) (attributeAfter g' marks) := by
  dsimp only [attributeAfter]
  infer_instance

instance carries_outerAttributes : Carries behind (outerAttributes g) (outerAttributes g') := by
  dsimp only [outerAttributes]
  infer_instance

instance carries_innerAttributes : Carries [] (innerAttributes g) (innerAttributes g') := by
  dsimp only [innerAttributes]
  infer_instance

instance carries_block : Carries behind (block g) (block g') := by
  dsimp only [block]
  infer_instance

instance carries_attributedBlock : Carries behind (attributedBlock g) (attributedBlock g') := by
  dsimp only [attributedBlock]
  infer_instance

/-! ## Paths -/

instance carries_constArgument : Carries behind (constArgument g) (constArgument g') := by
  dsimp only [constArgument]
  infer_instance

instance carries_boundsUntil (rules : BoundRules) (isEnd : List Token → Bool)
    [Ahead.Steady behind isEnd] :
    Carries behind (boundsUntil g rules isEnd) (boundsUntil g' rules isEnd) := by
  dsimp only [boundsUntil]
  infer_instance

/-- Bounds that may not end where the tokens do end at the same place when these go on. -/
theorem carries_boundsUntil_of_inside {rules : BoundRules} {isEnd : List Token → Bool}
    (inside : ∀ tokens, tokens ≠ [] → isEnd (tokens ++ behind) = isEnd tokens)
    (goes : isEnd [] = false) :
    Carries behind (boundsUntil g rules isEnd) (boundsUntil g' rules isEnd) := by
  dsimp only [boundsUntil]
  refine @carries_bind _ _ _ _ _ _ _ (@carries_iterate _ _ _ _ (fun goesOn => ?_) _) _
  cases goesOn with
  | false =>
    refine carries_of_seen fun c c' a read => ?_
    cases read
    exact ⟨List.suffix_rfl, rfl⟩
  | true =>
    refine carries_sees_unless (fun seen => inferInstance) fun c differs a c' read => ?_
    have none : c.rest = [] := by
      by_contra some
      exact differs (inside c.rest some)
    rw [none, goes] at read
    obtain ⟨form, after, bound, -⟩ := of_start_bind read
    exact (Grows.exacting g').bound none bound

instance carries_genericArgument : Carries behind (genericArgument g) (genericArgument g') := by
  have lone : Ahead.Steady behind fun tokens =>
      Ahead.lifetime tokens && !Ahead.mark "+" (Ahead.next tokens) :=
    Ahead.steady_next (g := fun tokens => !Ahead.mark "+" tokens) rfl
  have bounds : Carries behind
      (boundsUntil g .ofParameter fun ts => Ahead.mark "," ts || Ahead.mark ">" ts)
      (boundsUntil g' .ofParameter fun ts => Ahead.mark "," ts || Ahead.mark ">" ts) := by
    refine carries_boundsUntil_of_inside (fun tokens inside => ?_) rfl
    rw [Ahead.mark_append inside (.inl rfl), Ahead.Steady.eq (f := Ahead.mark ">")]
  dsimp only [genericArgument]
  refine @carries_choice _ _ _ _ _ _ _ _ _ _ (@carries_choice _ _ _ _ _ _ _ _ _ _
    (@carries_bind _ _ _ _ _ _ _ _ fun type => ?_))
  split <;> infer_instance

instance carries_genericArguments : Carries behind (genericArguments g) (genericArguments g') := by
  dsimp only [genericArguments]
  infer_instance

instance carries_announcedArguments :
    Carries behind (announcedArguments g) (announcedArguments g') := by
  dsimp only [announcedArguments]
  infer_instance

instance carries_pathSegment (inExpression : Bool) :
    Carries behind (pathSegment g inExpression) (pathSegment g' inExpression) := by
  dsimp only [pathSegment]
  infer_instance

instance carries_moreSegments (inExpression : Bool) (goesOn : List Token → Bool)
    [Ahead.Steady behind fun tokens => Ahead.mark "::" tokens && goesOn tokens] :
    Carries behind (moreSegments g inExpression goesOn) (moreSegments g' inExpression goesOn) := by
  dsimp only [moreSegments]
  infer_instance

instance carries_unqualifiedPath (inExpression : Bool) :
    Carries behind (unqualifiedPath g inExpression) (unqualifiedPath g' inExpression) := by
  have uncalled : Ahead.Steady behind fun tokens => Ahead.mark "::" tokens &&
      !Ahead.group .parenthesis (Ahead.next (Ahead.next tokens)) :=
    Ahead.steady_behindColons fun tokens => !Ahead.group .parenthesis tokens
  dsimp only [unqualifiedPath]
  infer_instance

instance carries_path (inExpression : Bool) :
    Carries behind (path g inExpression) (path g' inExpression) := by
  dsimp only [path]
  infer_instance

instance carries_invocationArguments : Carries behind invocationArguments invocationArguments := by
  dsimp only [invocationArguments]
  infer_instance

/-! ## Parameters -/

instance carries_lifetimesUntil (isEnd : List Token → Bool) [Ahead.Steady behind isEnd] :
    Carries behind (lifetimesUntil isEnd) (lifetimesUntil isEnd) := by
  dsimp only [lifetimesUntil]
  infer_instance

instance carries_boundsBehindColon {p q : Parser Unit} [Carries behind p q] :
    Carries behind (boundsBehindColon p) (boundsBehindColon q) := by
  dsimp only [boundsBehindColon]
  infer_instance

instance carries_lifetimeParameter (attrs : List Token) :
    Carries behind (lifetimeParameter attrs) (lifetimeParameter attrs) := by
  dsimp only [lifetimeParameter]
  infer_instance

instance carries_typeParameter (attrs : List Token) :
    Carries behind (typeParameter g attrs) (typeParameter g' attrs) := by
  dsimp only [typeParameter]
  infer_instance

instance carries_constParameter (attrs : List Token) :
    Carries behind (constParameter g attrs) (constParameter g' attrs) := by
  dsimp only [constParameter]
  infer_instance

instance carries_parameter : Carries behind (parameter g) (parameter g') := by
  dsimp only [parameter]
  infer_instance

instance carries_bracketedList {α : Type} {p q : Parser α} [Carries behind p q] :
    Carries behind (bracketedList p) (bracketedList q) := by
  dsimp only [bracketedList]
  infer_instance

instance carries_parameters : Carries behind (parameters g) (parameters g') := by
  dsimp only [parameters]
  infer_instance

instance carries_introducedParameter :
    Carries behind (introducedParameter g) (introducedParameter g') := by
  dsimp only [introducedParameter]
  infer_instance

instance carries_introduced_ : Carries behind (introduced? g) (introduced? g') := by
  dsimp only [introduced?]
  infer_instance

instance carries_condition : Carries [] (condition g) (condition g') := by
  dsimp only [condition]
  infer_instance

instance carries_conditions : Carries [] (conditions g) (conditions g') := by
  dsimp only [conditions]
  infer_instance

/-! ## Bounds -/

instance carries_returnType_ (admitsPlus : Bool) :
    Carries behind (returnType? g admitsPlus) (returnType? g' admitsPlus) := by
  dsimp only [returnType?]
  infer_instance

instance carries_functionArguments :
    Carries behind (functionArguments g) (functionArguments g') := by
  dsimp only [functionArguments]
  infer_instance

instance carries_boundPath : Carries behind (boundPath g) (boundPath g') := by
  have called : Ahead.Steady behind fun tokens => Ahead.mark "::" tokens &&
      Ahead.group .parenthesis (Ahead.next (Ahead.next tokens)) :=
    Ahead.steady_behindColons (Ahead.group .parenthesis)
  dsimp only [boundPath]
  infer_instance

instance carries_constMarks (rules : BoundRules) :
    Carries behind (constMarks rules) (constMarks rules) := by
  dsimp only [constMarks]
  infer_instance

instance carries_traitBound (rules : BoundRules) :
    Carries behind (traitBound g rules) (traitBound g' rules) := by
  dsimp only [traitBound]
  infer_instance

/-- Behind a captured parameter stands a comma or the end of the list. -/
instance carries_capturedParameters : Carries behind capturedParameters capturedParameters := by
  dsimp only [capturedParameters]
  refine @carries_bind _ _ _ _ _ _ _ _ fun _ => @carries_bind _ _ _ _ _ _ _ _ fun _ =>
    @carries_bind _ _ _ _ _ _ _ (@carries_repeated _ _ _ _ (@carries_choice _ _ _ _ _ _ _ _ _ _
      (@carries_bind _ _ _ _ _ _ _ _ fun isLifetime =>
        @carries_bind _ _ _ _ _ _ _ _ fun captured => ?_))) _
  refine carries_sees_unless (fun _ => inferInstance) fun c differs a c' read => ?_
  have none : c.rest = [] := by
    by_contra some
    exact differs (Ahead.mark_append some (.inl rfl))
  obtain ⟨rest, written, leftover⟩ := c
  cases none
  cases read

instance carries_boundIn (rules : BoundRules) :
    Carries behind (boundIn g rules) (boundIn g' rules) := by
  dsimp only [boundIn]
  infer_instance

instance carries_bounds (rules : BoundRules) (admitsPlus : Bool) :
    Carries behind (bounds g rules admitsPlus) (bounds g' rules admitsPlus) := by
  dsimp only [bounds]
  infer_instance

instance carries_traitBounds (rules : BoundRules) (admitsPlus : Bool) (complaint : String) :
    Carries behind (traitBounds g rules admitsPlus complaint)
      (traitBounds g' rules admitsPlus complaint) := by
  dsimp only [traitBounds]
  infer_instance

instance carries_joinedBounds (isEnd : List Token → Bool) :
    Carries [] (joinedBounds g isEnd) (joinedBounds g' isEnd) := by
  dsimp only [joinedBounds]
  infer_instance

/-! ## Types -/

instance carries_callingConvention : Carries behind callingConvention callingConvention := by
  dsimp only [callingConvention]
  infer_instance

instance carries_callingConvention_ : Carries behind callingConvention? callingConvention? := by
  dsimp only [callingConvention?]
  infer_instance

instance carries_openArguments : Carries [] openArguments openArguments := by
  dsimp only [openArguments]
  infer_instance

instance carries_mutableReceiver : Carries [] (mutableReceiver g) (mutableReceiver g') := by
  dsimp only [mutableReceiver]
  infer_instance

instance carries_functionTypeArgument (isFirst : Bool) :
    Carries [] (functionTypeArgument g isFirst) (functionTypeArgument g' isFirst) := by
  dsimp only [functionTypeArgument]
  infer_instance

instance carries_functionTypeArguments :
    Carries [] (functionTypeArguments g) (functionTypeArguments g') := by
  dsimp only [functionTypeArguments]
  infer_instance

instance carries_functionType : Carries behind (functionType g) (functionType g') := by
  dsimp only [functionType]
  infer_instance

instance carries_boundsType : Carries behind (boundsType g) (boundsType g') := by
  dsimp only [boundsType]
  infer_instance

instance carries_moreBounds : Carries behind (moreBounds g) (moreBounds g') := by
  dsimp only [moreBounds]
  infer_instance

instance carries_enclosed : Carries [] (enclosed g) (enclosed g') := by
  dsimp only [enclosed]
  infer_instance

instance carries_parenthesizedType (admitsPlus : Bool) :
    Carries behind (parenthesizedType g admitsPlus) (parenthesizedType g' admitsPlus) := by
  dsimp only [parenthesizedType]
  refine @carries_bind _ _ _ _ _ _ _ _ fun content => ?_
  cases content <;> infer_instance

instance carries_pathType (admitsPlus introduces : Bool) :
    Carries behind (pathType g admitsPlus introduces) (pathType g' admitsPlus introduces) := by
  dsimp only [pathType]
  infer_instance

instance carries_arrayType : Carries behind (arrayType g) (arrayType g') := by
  dsimp only [arrayType]
  infer_instance

instance carries_pointerType : Carries behind (pointerType g) (pointerType g') := by
  dsimp only [pointerType]
  infer_instance

instance carries_referenceType : Carries behind (referenceType g) (referenceType g') := by
  dsimp only [referenceType]
  infer_instance

instance carries_opaqueType (admitsPlus : Bool) :
    Carries behind (opaqueType g admitsPlus) (opaqueType g' admitsPlus) := by
  dsimp only [opaqueType]
  infer_instance

instance carries_objectType (admitsPlus : Bool) :
    Carries behind (objectType g admitsPlus) (objectType g' admitsPlus) := by
  dsimp only [objectType]
  infer_instance

instance carries_typeForm (admitsPlus : Bool) :
    Carries behind (typeForm g admitsPlus) (typeForm g' admitsPlus) := by
  dsimp only [typeForm]
  infer_instance

instance carries_typeIn (admitsPlus : Bool) :
    Carries behind (typeIn g admitsPlus) (typeIn g' admitsPlus) := by
  dsimp only [typeIn]
  infer_instance

end
end RecordCoding.Source
