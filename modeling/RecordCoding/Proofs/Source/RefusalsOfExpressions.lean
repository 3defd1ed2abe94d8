import RecordCoding.Proofs.Source.RefusalsOfTypes
import RecordCoding.Proofs.Traversal
import RecordCoding.Source.Grammar.Expression

/-!
# Refusals in one line: patterns and expressions
-/

namespace RecordCoding.Source

open Source.Parser Text

section

variable {g : Grammar} [g.IsTerse] {c : Cursor}

/-! ## Patterns -/

@[simp] theorem terse_alternatives : Terse (alternatives g) c := by
  simp +decide [alternatives]

/-- Whatever is wrong with a position is said in one line. -/
theorem isLine_positionRefusal (flaw : Literal.IndexFlaw) : (positionRefusal flaw).IsLine := by
  cases flaw <;> simp +decide [positionRefusal]

theorem isLine_signedRefusal (digits : String) : (signedRefusal digits).IsLine := by
  unfold signedRefusal
  split
  · simp +decide
  · simp +decide
  · exact isLine_positionRefusal _

@[simp] theorem terse_member : Terse member c := by
  simp only [member, terse_bind, terse_ahead, true_and]
  intro tokens c' _
  split
  · split
    · split
      · simp
      · simpa using isLine_positionRefusal _
    · simp +decide
  · split
    · simpa using isLine_signedRefusal _
    · simp +decide
  · simp +decide

@[simp] theorem terse_rangeBound : Terse (rangeBound g) c := by
  simp +decide [rangeBound]

@[simp] theorem terse_rangeDots : Terse rangeDots c := by
  simp +decide [rangeDots]

@[simp] theorem terse_rangeRest : Terse (rangeRest g) c := by
  simp +decide [rangeRest]

@[simp] theorem terse_rangeWithoutStart : Terse (rangeWithoutStart g) c := by
  simp +decide [rangeWithoutStart]

@[simp] theorem terse_fieldPatterns : Terse (fieldPatterns g) c := by
  simp +decide [fieldPatterns, fieldPattern]

@[simp] theorem terse_sliceElement : Terse (sliceElement g) c := by
  simp +decide [sliceElement]

@[simp] theorem terse_pathPattern : Terse (pathPattern g) c := by
  simp +decide [pathPattern]

@[simp] theorem terse_boundPattern : Terse (boundPattern g) c := by
  simp +decide [boundPattern]

@[simp] theorem terse_bindingPattern : Terse (bindingPattern g) c := by
  simp +decide [bindingPattern]

theorem terse_patternIn : Terse (patternIn g) c := by
  simp +decide [patternIn]

/-! ## Operators -/

@[simp] theorem terse_rightOperand {place : Place} {precedence : Precedence} :
    Terse (rightOperand g place precedence) c := by
  simp [rightOperand]

@[simp] theorem terse_rangeMark : Terse rangeMark c := by
  simp +decide [rangeMark]

@[simp] theorem terse_rangeFromDots {place : Place} : Terse (rangeFromDots g place) c := by
  simp [rangeFromDots]

@[simp] theorem terse_endOfCast : Terse endOfCast c := by
  have refused {kind : String} (line : isLine kind = true) (c : Cursor) :
      Terse (refuse ("casts cannot be followed by " ++ kind) : Parser Unit) c := by
    have words : isLine "casts cannot be followed by " = true := isLine_ofList rfl
    simp [words, line]
  simp only [endOfCast, terse_bind, terse_ahead, true_and]
  intro tokens c' _
  repeat' split
  all_goals first
    | exact refused (isLine_ofList rfl) c'
    | exact terse_pure ()

@[simp] theorem terse_castOf {operand : Expression} : Terse (castOf g operand) c := by
  simp +decide [castOf]

@[simp] theorem terse_continued {left : Expression} {form : ExpressionForm} {p : Parser Unit} :
    Terse (continued left form p) c ↔ Terse p { c with written := [] } := by
  simp [continued]

/-- The operators are lines. -/
theorem isLine_of_operator? {tokens : List Token} {text : String} {precedence : Precedence}
    (seen : Ahead.operator? tokens = some (text, precedence)) : isLine text = true := by
  have all : (binaryOperators.all fun operator => isLine operator.1) = true := by decide +kernel
  exact List.all_eq_true.mp all _ (List.mem_of_find?_eq_some seen)

@[simp] theorem terse_operatorStep {place : Place} {least : Precedence} {left : Expression} :
    Terse (operatorStep g place least left) c := by
  simp only [operatorStep]
  split
  · simp
  · simp only [terse_bind, terse_ahead, true_and]
    intro tokens c' _
    split
    · rename_i text precedence seen
      simp +decide [isLine_of_operator? seen]
    · simp +decide

theorem terse_operatorsIn (place : Place) (least : Precedence) (left : Expression) :
    Terse (operatorsIn g place least left) c := by
  simp [operatorsIn]

/-! ## Calls, selections and indexing -/

@[simp] theorem terse_callArguments : Terse (callArguments g) c := by
  simp +decide [callArguments]

/-- A result that is taken over refuses with its error. -/
@[simp] theorem terse_lift {α : Type} {outcome : Except SyntaxError α} :
    Terse (liftM outcome : Parser α) c ↔ ∀ e, outcome = .error e → e.IsLine := by
  cases outcome <;> rfl

theorem isLine_of_positions {text : String} {e : SyntaxError}
    (refused : positions text = .error e) : e.IsLine := by
  rcases bind_eq_error_iff.mp refused with refused | ⟨_, -, finished⟩
  · obtain ⟨part, -, failed⟩ := exists_of_mapM_eq_error refused
    obtain ⟨flaw, -, rfl⟩ := mapError_eq_error_iff.mp failed
    exact isLine_positionRefusal flaw
  · cases finished

@[simp] theorem terse_selectPositions {text : String} : Terse (selectPositions text) c := by
  simp only [selectPositions, terse_bind, terse_lift]
  exact ⟨fun e => isLine_of_positions, by simp⟩

@[simp] theorem terse_selected : Terse (selected g) c := by
  simp +decide [selected]

@[simp] theorem terse_selection : Terse (selection g) c := by
  simp +decide only [selection, terse_bind, terse_mark, terse_ahead, true_and]
  intro _ c _ tokens c' _
  split
  · simp
  · split
    · simpa using isLine_signedRefusal _
    · simp
  · simp

@[simp] theorem terse_callStep {form : ExpressionForm} : Terse (callStep g form) c := by
  simp +decide [callStep]

@[simp] theorem terse_callsBehind {form : ExpressionForm} : Terse (callsBehind g form) c := by
  simp [callsBehind]

/-! ## Expressions that end themselves -/

@[simp] theorem terse_conditional : Terse (conditional g) c := by
  simp +decide [conditional]

@[simp] theorem terse_distinction : Terse (distinction g) c := by
  have arms (c : Cursor) : Terse (arm g) c := by
    simp +decide [arm]
  simp +decide [distinction, arms]

@[simp] theorem terse_labelled : Terse (labelled g) c := by
  simp +decide [labelled]

@[simp] theorem terse_selfEnding : Terse (selfEnding g) c := by
  simp +decide [selfEnding]

theorem terse_leadingIn : Terse (leadingIn g) c := by
  simp [leadingIn]

/-! ## Further expressions -/

@[simp] theorem terse_pathExpression {admitsStruct : Bool} :
    Terse (pathExpression g admitsStruct) c := by
  have values (c : Cursor) : Terse (fieldValue g) c := by
    simp +decide [fieldValue]
  simp +decide [pathExpression, fieldValues, values]

@[simp] theorem terse_builtInExpression : Terse builtInExpression c := by
  simp +decide [builtInExpression]

@[simp] theorem terse_closure {place : Place} : Terse (closure g place) c := by
  have arguments (c : Cursor) : Terse (closureArgument g) c := by
    simp +decide [closureArgument]
  simp +decide [closure, arguments]

@[simp] theorem terse_enclosedExpression : Terse (enclosedExpression g) c := by
  simp +decide [enclosedExpression]

@[simp] theorem terse_arrayExpression : Terse (arrayExpression g) c := by
  simp +decide [arrayExpression]

@[simp] theorem terse_breakExpression {place : Place} : Terse (breakExpression g place) c := by
  simp +decide [breakExpression]

@[simp] theorem terse_letExpression {place : Place} : Terse (letExpression g place) c := by
  simp +decide [letExpression]

@[simp] theorem terse_atom {place : Place} : Terse (atom g place) c := by
  simp +decide [atom]

/-! ## Operands and whole expressions -/

@[simp] theorem terse_referenceOperand {place : Place} : Terse (referenceOperand g place) c := by
  simp +decide [referenceOperand]

@[simp] theorem terse_calledAtom {place : Place} {isAttributed : Bool} :
    Terse (calledAtom g place isAttributed) c := by
  simp [calledAtom]

theorem terse_operandIn (place : Place) : Terse (operandIn g place) c := by
  simp +decide [operandIn, operandForm]

theorem terse_expressionIn (place : Place) : Terse (expressionIn g place) c := by
  simp [expressionIn]

end

end RecordCoding.Source
