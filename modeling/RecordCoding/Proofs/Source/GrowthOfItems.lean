import RecordCoding.Proofs.Source.GrowthOfExpressions

/-!
# Deeper grammars: items and statements

Items and statements stand in groups or in files, with nothing behind them. With these the grammar
is complete, and a deeper one reads what a shallower one does.
-/

namespace RecordCoding.Source

open Source.Parser

set_option synthInstance.maxSize 100000

section

variable {g g' : Grammar} [Grows g g']

/-! ## Declarations -/

instance carries_visibility : Carries [] visibility visibility := by
  dsimp only [visibility]
  infer_instance

instance carries_namedField : Carries [] (namedField g) (namedField g') := by
  dsimp only [namedField]
  infer_instance

instance carries_unnamedField : Carries [] (unnamedField g) (unnamedField g') := by
  dsimp only [unnamedField]
  infer_instance

instance carries_fieldsIn : Carries [] (fieldsIn g) (fieldsIn g') := by
  dsimp only [fieldsIn]
  infer_instance

instance carries_unnamedFields : Carries [] (unnamedFields g) (unnamedFields g') := by
  dsimp only [unnamedFields]
  infer_instance

instance carries_variant : Carries [] (variant g) (variant g') := by
  dsimp only [variant]
  infer_instance

instance carries_structBody : Carries [] (structBody g) (structBody g') := by
  dsimp only [structBody]
  infer_instance

instance carries_typeDeclaration (keyword : TypeKeyword) (attrs : List Attribute)
    (visibility : List Token) : Carries [] (typeDeclaration g keyword attrs visibility)
      (typeDeclaration g' keyword attrs visibility) := by
  dsimp only [typeDeclaration]
  cases keyword <;> infer_instance

/-! ## Functions -/

instance carries_receiver : Carries [] (receiver g) (receiver g') := by
  dsimp only [receiver]
  infer_instance

instance carries_typedArgument : Carries [] (typedArgument g) (typedArgument g') := by
  dsimp only [typedArgument]
  infer_instance

instance carries_functionArgument : Carries [] (functionArgument g) (functionArgument g') := by
  dsimp only [functionArgument]
  infer_instance

instance carries_functionParameters :
    Carries [] (functionParameters g) (functionParameters g') := by
  dsimp only [functionParameters]
  infer_instance

instance carries_signature (admitsSafe : Bool) :
    Carries [] (signature g admitsSafe) (signature g' admitsSafe) := by
  dsimp only [signature]
  infer_instance

instance carries_functionBody : Carries [] (functionBody g) (functionBody g') := by
  dsimp only [functionBody]
  infer_instance

instance carries_constant : Carries [] (constant g) (constant g') := by
  dsimp only [constant]
  infer_instance

instance carries_typeAlias (place : ConditionPlace) :
    Carries [] (typeAlias g place) (typeAlias g' place) := by
  dsimp only [typeAlias]
  infer_instance

instance carries_invokedItem : Carries [] invokedItem invokedItem := by
  dsimp only [invokedItem]
  infer_instance

/-! ## Members -/

instance carries_expectMember {α : Type} (beginnings : List (String × (List Token → Bool)))
    (isMarked : Bool) {q : Parser α} : Carries [] (expectMember beginnings isMarked) q := by
  dsimp only [expectMember]
  infer_instance

instance carries_traitConstant : Carries [] (traitConstant g) (traitConstant g') := by
  dsimp only [traitConstant]
  infer_instance

instance carries_traitFunction : Carries [] (traitFunction g) (traitFunction g') := by
  dsimp only [traitFunction]
  infer_instance

instance carries_traitMember : Carries [] (traitMember g) (traitMember g') := by
  dsimp only [traitMember]
  infer_instance

instance carries_implementationFunction (attrs : List Attribute) :
    Carries [] (implementationFunction g attrs) (implementationFunction g' attrs) := by
  dsimp only [implementationFunction]
  infer_instance

instance carries_implementationMember :
    Carries [] (implementationMember g) (implementationMember g') := by
  dsimp only [implementationMember]
  infer_instance

instance carries_foreignStatic : Carries [] (foreignStatic g) (foreignStatic g') := by
  dsimp only [foreignStatic]
  infer_instance

instance carries_foreignFunction : Carries [] (foreignFunction g) (foreignFunction g') := by
  dsimp only [foreignFunction]
  infer_instance

instance carries_foreignMember : Carries [] (foreignMember g) (foreignMember g') := by
  dsimp only [foreignMember]
  infer_instance

/-! ## Items -/

instance carries_traitBody : Carries [] (traitBody g) (traitBody g') := by
  dsimp only [traitBody]
  infer_instance

instance carries_traitAlias : Carries [] (traitAlias g) (traitAlias g') := by
  dsimp only [traitAlias]
  infer_instance

instance carries_traitDeclaration : Carries [] (traitDeclaration g) (traitDeclaration g') := by
  dsimp only [traitDeclaration]
  infer_instance

instance carries_constImplementation : Carries [] constImplementation constImplementation := by
  dsimp only [constImplementation]
  infer_instance

instance carries_implementation : Carries [] (implementation g) (implementation g') := by
  dsimp only [implementation]
  infer_instance

instance carries_moduleItem : Carries [] (moduleItem g) (moduleItem g') := by
  dsimp only [moduleItem]
  infer_instance

instance carries_importedName : Carries [] importedName importedName := by
  dsimp only [importedName]
  infer_instance

instance carries_importsIn (admitsRoot : Bool) :
    Carries [] (importsIn g admitsRoot) (importsIn g' admitsRoot) := by
  dsimp only [importsIn]
  infer_instance

instance carries_importItem : Carries [] (importItem g) (importItem g') := by
  dsimp only [importItem]
  infer_instance

instance carries_externalLibrary : Carries [] externalLibrary externalLibrary := by
  dsimp only [externalLibrary]
  infer_instance

instance carries_foreignLibrary : Carries [] (foreignLibrary g) (foreignLibrary g') := by
  dsimp only [foreignLibrary]
  infer_instance

instance carries_externalItem : Carries [] (externalItem g) (externalItem g') := by
  dsimp only [externalItem]
  infer_instance

instance carries_staticItem : Carries [] (staticItem g) (staticItem g') := by
  dsimp only [staticItem]
  infer_instance

instance carries_ruleDeclaration : Carries [] ruleDeclaration ruleDeclaration := by
  dsimp only [ruleDeclaration]
  infer_instance

instance carries_plainItem (isVisible : Bool) :
    Carries [] (plainItem g isVisible) (plainItem g' isVisible) := by
  dsimp only [plainItem]
  infer_instance

instance carries_functionItem (attrs : List Attribute) :
    Carries [] (functionItem g attrs) (functionItem g' attrs) := by
  dsimp only [functionItem]
  infer_instance

instance carries_itemBehind (attrs : List Attribute) :
    Carries [] (itemBehind g attrs) (itemBehind g' attrs) := by
  dsimp only [itemBehind]
  refine @carries_ahead_nil _ _ _ fun tokens => @carries_ite _ _ _ _ _ _ _ _ inferInstance ?_
  cases Ahead.typeKeyword? (Ahead.withoutVisibility tokens) <;> infer_instance

instance carries_itemIn : Carries [] (itemIn g) (itemIn g') := by
  dsimp only [itemIn]
  infer_instance

/-! ## Statements -/

instance carries_localBinding : Carries [] (localBinding g) (localBinding g') := by
  dsimp only [localBinding]
  infer_instance

instance carries_expressionStatement (attrs source : List Token) :
    Carries [] (expressionStatement g attrs source) (expressionStatement g' attrs source) := by
  dsimp only [expressionStatement]
  infer_instance

instance carries_statementKind : Carries [] statementKind statementKind := by
  dsimp only [statementKind]
  infer_instance

instance carries_statement : Carries [] (statement g) (statement g') := by
  dsimp only [statement]
  refine @carries_bind_pair _ _ _ _ _ _ _ _ (@carries_verbatimIf _ _ _ _ _
    (@carries_bind_pair _ _ _ _ _ _ _ _ _ fun attrs source =>
      @carries_bind _ _ _ _ _ _ _ _ fun kind => ?_)) _
  cases kind <;> infer_instance

instance carries_statementsIn : Carries [] (statementsIn g) (statementsIn g') := by
  dsimp only [statementsIn]
  infer_instance

end

/-! ## The grammar -/

/-- Where parameters are cut off, they are not closed. -/
theorem Ahead.unclosed_of_cut {joined : Bool} {rest tail : List Token}
    (cut : Cut (.punct '<' joined :: rest)) (suffix : tail <:+ rest) : mark ">" tail = false := by
  cases cut with
  | name joined named =>
    rcases List.suffix_cons_iff.mp suffix with rfl | last
    · rfl
    · rw [List.suffix_nil.mp last]
      rfl
  | lifetime joined joined' found =>
    rcases List.suffix_cons_iff.mp suffix with rfl | last
    · rfl
    · rcases List.suffix_cons_iff.mp last with rfl | last
      · rfl
      · rw [List.suffix_nil.mp last]
        rfl

section

variable {g : Grammar}

/-- A bound needs a token. -/
theorem not_boundIn {rules : BoundRules} {c c' : Cursor} {form : BoundForm} (none : c.rest = []) :
    (boundIn g rules).start c ≠ (.ok form, c') := by
  intro read
  obtain ⟨rest, written, leftover⟩ := c
  cases none
  cases read

/-- Parameters that are cut off are no path: its type would have to be closed. -/
theorem not_path_of_cut (g' : Grammar) [Grows g g'] {c c' : Cursor} {form : PathForm}
    (cut : Ahead.Cut c.rest) : (path g true).start c ≠ (.ok form, c') := by
  intro read
  obtain ⟨rest, written, leftover⟩ := c
  obtain ⟨joined, rest, rfl⟩ : ∃ joined tail, rest = .punct '<' joined :: tail := by
    cases cut <;> exact ⟨_, _, rfl⟩
  have unclosed {c c' : Cursor} (suffix : c.rest <:+ rest) :
      (Parser.mark ">").start c ≠ (.ok (), c') := by
    rw [start_mark_of_unseen (Ahead.unclosed_of_cut cut suffix)]
    intro read
    cases read
  have opens : Ahead.mark "<" (.punct '<' joined :: rest) = true := rfl
  dsimp only [path] at read
  rw [start_bind_of_ok (start_sees _ _), opens, if_pos rfl,
    start_bind_of_ok (start_mark_of_seen opens)] at read
  obtain ⟨type, c₁, typed, read⟩ := of_start_bind read
  have suffix₁ : c₁.rest <:+ rest := Carries.suffix [] (g'.type true) typed
  obtain ⟨isTrait, c₂, marked, read⟩ := of_start_bind read
  have suffix₂ := Carries.suffix [] (word? "as") marked
  cases isTrait with
  | false =>
    obtain ⟨_, c₃, closed, -⟩ := of_start_bind read
    exact unclosed (suffix₂.trans suffix₁) closed
  | true =>
    obtain ⟨_, c₃, trait, read⟩ := of_start_bind read
    have suffix₃ := Carries.suffix [] (unqualifiedPath g' false) trait
    obtain ⟨_, c₄, closed, -⟩ := of_start_bind read
    exact unclosed (suffix₃.trans (suffix₂.trans suffix₁)) closed

/-- Parameters that are cut off are no pattern. -/
theorem not_patternIn (g' : Grammar) [Grows g g'] {c c' : Cursor} {form : PatternForm}
    (cut : Ahead.Cut c.rest) : (patternIn g).start c ≠ (.ok form, c') := by
  intro read
  have seen : Ahead.pathPattern c.rest = true := by
    obtain ⟨rest, written, leftover⟩ := c
    cases cut <;> rfl
  rw [patternIn, start_bind_of_ok (start_sees _ c), seen] at read
  obtain ⟨found, after, path, -⟩ := of_start_bind (p := path g true) read
  exact not_path_of_cut g' cut path

end

/-- A grammar with more levels reads what one with fewer levels does. -/
theorem grows_ofDepth {depth depth' : Nat} (deeper : depth ≤ depth') :
    Grows (.ofDepth depth) (.ofDepth depth') := by
  induction depth generalizing depth' with
  | zero =>
    exact {
      type := fun behind _ _ => carries_throw _
      bound := fun behind _ _ => carries_throw _
      expression := fun behind _ _ => carries_throw _
      operand := fun behind _ _ => carries_throw _
      operators := fun behind _ _ _ _ => carries_throw _
      pattern := fun behind _ => carries_throw _
      leading := carries_throw _
      statements := carries_throw _
      item := carries_throw _
      fields := carries_throw _
      imports := fun _ => carries_throw _
      exacting := ⟨fun _ read => (nomatch read), fun _ read => (nomatch read)⟩ }
  | succ depth ih =>
    obtain ⟨depth', rfl⟩ := Nat.exists_eq_succ_of_ne_zero (Nat.ne_of_gt (Nat.lt_of_lt_of_le
      (Nat.succ_pos depth) deeper))
    have grows : Grows (.ofDepth depth) (.ofDepth depth') := ih (Nat.le_of_succ_le_succ deeper)
    exact {
      type := fun behind _ => carries_typeIn
      bound := fun behind _ => carries_boundIn
      expression := fun behind _ => carries_expressionIn
      operand := fun behind _ => carries_operandIn
      operators := fun behind _ => carries_operatorsIn
      pattern := fun behind _ => carries_patternIn
      leading := carries_leadingIn
      statements := carries_statementsIn
      item := carries_itemIn
      fields := carries_fieldsIn
      imports := carries_importsIn
      exacting := ⟨not_boundIn, not_patternIn (.ofDepth depth')⟩ }

end RecordCoding.Source
