import RecordCoding.Proofs.Source.RefusalsOfExpressions
import RecordCoding.Source.Reading

/-!
# Refusals in one line: declarations, items and whole texts
-/

namespace RecordCoding.Source

open Source.Parser Text

section

variable {g : Grammar} [g.IsTerse] {c : Cursor}

/-! ## Declarations of types -/

@[simp] theorem terse_visibility : Terse visibility c := by
  simp +decide [visibility]

@[simp] theorem terse_namedField : Terse (namedField g) c := by
  simp +decide [namedField]

@[simp] theorem terse_unnamedFields : Terse (unnamedFields g) c := by
  simp +decide [unnamedFields, unnamedField]

theorem terse_fieldsIn : Terse (fieldsIn g) c := by
  simp +decide [fieldsIn]

@[simp] theorem terse_variant : Terse (variant g) c := by
  simp +decide [variant]

@[simp] theorem terse_structBody : Terse (structBody g) c := by
  simp +decide [structBody]

@[simp] theorem terse_typeDeclaration {keyword : TypeKeyword} {attrs : List Attribute}
    {visibility : List Token} : Terse (typeDeclaration g keyword attrs visibility) c := by
  cases keyword <;> simp +decide [typeDeclaration, TypeKeyword.text]

/-! ## Functions, constants and type aliases -/

@[simp] theorem terse_functionArgument : Terse (functionArgument g) c := by
  simp +decide [functionArgument, receiver, typedArgument]

@[simp] theorem terse_functionParameters : Terse (functionParameters g) c := by
  simp +decide [functionParameters]

@[simp] theorem terse_signature {admitsSafe : Bool} : Terse (signature g admitsSafe) c := by
  simp +decide [signature]

@[simp] theorem terse_functionBody : Terse (functionBody g) c := by
  simp [functionBody]

@[simp] theorem terse_constant : Terse (constant g) c := by
  simp +decide [constant]

@[simp] theorem terse_typeAlias {place : ConditionPlace} : Terse (typeAlias g place) c := by
  simp +decide [typeAlias]

@[simp] theorem terse_invokedItem : Terse invokedItem c := by
  simp +decide [invokedItem]

/-! ## Alternatives -/

/-- Words that are lines are so in quotes. -/
theorem isLine_of_mem_keywords {words : List String} (lines : words.all isLine = true)
    {one : String × (List Token → Bool)} (member : one ∈ keywords words) :
    isLine one.1 = true := by
  obtain ⟨word, inside, rfl⟩ := List.mem_map.mp member
  have quotes : isLine "`" = true := isLine_ofList rfl
  simp [quotes, List.all_eq_true.mp lines word inside]

theorem isLine_of_mem_invocationBeginnings {one : String × (List Token → Bool)}
    (member : one ∈ invocationBeginnings) : isLine one.1 = true := by
  have all : invocationBeginnings.all (isLine ·.1) = true := by decide +kernel
  exact List.all_eq_true.mp all one member

@[simp] theorem terse_expectKeywords {α : Type} {words : List String}
    (lines : words.all isLine = true) : Terse (expectUnmet (keywords words) : Parser α) c :=
  terse_expectUnmet fun _ member => isLine_of_mem_keywords lines member

/-! ## Members -/

@[simp] theorem terse_expectMember {α : Type} {words : List String} {isMarked : Bool}
    (lines : words.all isLine = true) :
    Terse (expectMember (keywords words) isMarked : Parser α) c := by
  refine terse_expectUnmet fun one member => ?_
  rcases List.mem_append.mp member with plain | invoked
  · exact isLine_of_mem_keywords lines plain
  · cases isMarked
    · exact isLine_of_mem_invocationBeginnings invoked
    · cases invoked

@[simp] theorem terse_traitMember : Terse (traitMember g) c := by
  simp +decide [traitMember, traitFunction, traitConstant]

@[simp] theorem terse_implementationMember : Terse (implementationMember g) c := by
  simp +decide [implementationMember, implementationFunction]

@[simp] theorem terse_foreignMember : Terse (foreignMember g) c := by
  simp +decide [foreignMember, foreignFunction, foreignStatic]

/-! ## Items -/

@[simp] theorem terse_traitDeclaration : Terse (traitDeclaration g) c := by
  simp +decide [traitDeclaration, traitBody, traitAlias]

@[simp] theorem terse_implementation : Terse (implementation g) c := by
  simp +decide [implementation, constImplementation]

@[simp] theorem terse_moduleItem : Terse (moduleItem g) c := by
  simp +decide [moduleItem]

theorem terse_importsIn (admitsRoot : Bool) : Terse (importsIn g admitsRoot) c := by
  simp +decide [importsIn, importedName]

@[simp] theorem terse_foreignLibrary : Terse (foreignLibrary g) c := by
  simp +decide [foreignLibrary]

@[simp] theorem terse_externalItem : Terse (externalItem g) c := by
  simp +decide [externalItem, externalLibrary]

@[simp] theorem terse_plainItem {isVisible : Bool} : Terse (plainItem g isVisible) c := by
  simp +decide [plainItem, importItem, staticItem, ruleDeclaration]

@[simp] theorem terse_functionItem {attrs : List Attribute} : Terse (functionItem g attrs) c := by
  simp +decide [functionItem]

@[simp] theorem terse_itemBehind {attrs : List Attribute} : Terse (itemBehind g attrs) c := by
  simp only [itemBehind, terse_bind, terse_ahead, true_and]
  intro tokens c' _
  split
  · simp
  · split <;> simp

theorem terse_itemIn : Terse (itemIn g) c := by
  simp [itemIn]

/-! ## Statements -/

@[simp] theorem terse_localBinding : Terse (localBinding g) c := by
  simp +decide [localBinding]

@[simp] theorem terse_expressionStatement {attrs source : List Token} :
    Terse (expressionStatement g attrs source) c := by
  simp +decide [expressionStatement]

@[simp] theorem terse_statementKind : Terse statementKind c := by
  simp [statementKind]

@[simp] theorem terse_statement : Terse (statement g) c := by
  simp only [statement, terse_bind, terse_verbatimIf, terse_sourced, terse_capture,
    terse_outerAttributes, terse_statementKind, terse_pure, true_and, implies_true, and_true]
  intro attrs c' _ kind c'' _
  cases kind <;> simp +decide

theorem terse_statementsIn : Terse (statementsIn g) c := by
  have semicolons (c : Cursor) : Terse (whileSees (Ahead.mark ";") (mark ";")) c :=
    terse_whileSees fun c => terse_mark (isLine_ofList rfl)
  simp +decide [statementsIn, semicolons]

end

/-! ## All levels -/

/-- Where nothing is accepted the refusal has no words from the source, and every further level
keeps it so. -/
theorem isTerse_ofDepth (depth : Nat) : (Grammar.ofDepth depth).IsTerse := by
  induction depth with
  | zero =>
    have leftover {α : Type} (c : Cursor) : Terse (throw (.leftover none) : Parser α) c := by simp
    exact {
      type := fun _ => leftover
      bound := fun _ => leftover
      expression := fun _ => leftover
      operand := fun _ => leftover
      leading := leftover
      operators := fun _ _ _ => leftover
      pattern := leftover
      statements := leftover
      item := leftover
      fields := leftover
      imports := fun _ => leftover }
  | succ depth ih =>
    exact {
      type := fun admitsPlus _ => terse_typeIn admitsPlus
      bound := fun rules _ => terse_boundIn rules
      expression := fun place _ => terse_expressionIn place
      operand := fun place _ => terse_operandIn place
      leading := fun _ => terse_leadingIn
      operators := fun place least left _ => terse_operatorsIn place least left
      pattern := fun _ => terse_patternIn
      statements := fun _ => terse_statementsIn
      item := fun _ => terse_itemIn
      fields := fun _ => terse_fieldsIn
      imports := fun admitsRoot _ => terse_importsIn admitsRoot }

instance isTerse_ofTokens (tokens : List Token) : (Grammar.ofTokens tokens).IsTerse :=
  isTerse_ofDepth _

/-! ## Whole texts -/

section

variable {α : Type} {e : SyntaxError}

/-- What is left over is no text of the source either. -/
theorem Parser.isLine_of_readAll {p : Parser α} {tokens : List Token}
    (terse : Terse p ⟨tokens, [], none⟩) (refused : p.readAll tokens = .error e) : e.IsLine := by
  unfold readAll at refused
  split at refused
  · rename_i error cursor read
    cases refused
    exact terse e (congrArg Prod.fst read)
  · split at refused
    · cases refused
      trivial
    · split at refused <;> cases refused
      trivial

theorem isLine_of_readText {part : Grammar → Parser α} {text : String}
    (terse : ∀ g : Grammar, g.IsTerse → ∀ c, Terse (part g) c)
    (refused : readText part text = .error e) : e.IsLine := by
  unfold readText at refused
  split at refused
  · exact isLine_of_readAll (terse _ (isTerse_ofTokens _) _) refused
  · cases refused
    trivial

/-- The refusal of a type does not repeat its text. -/
theorem isLine_of_readType {text : String} (refused : readType text = .error e) : e.IsLine :=
  isLine_of_readText (fun _ terse => terse.type true) (map_eq_error_iff.mp refused)

/-- The refusal of an expression does not repeat its text. -/
theorem isLine_of_readExpression {text : String} (refused : readExpression text = .error e) :
    e.IsLine :=
  isLine_of_readText (fun _ _ _ => terse_value) refused

end

end RecordCoding.Source
