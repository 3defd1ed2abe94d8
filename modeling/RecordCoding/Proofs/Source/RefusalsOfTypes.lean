import RecordCoding.Proofs.Source.Refusals
import RecordCoding.Source.Grammar.Type

/-!
# Refusals in one line: paths, bounds and types

If all parts of a grammar refuse in one line, then so does everything that is put together from
them. The readers are gone through in the order in which they refer to one another.
-/

namespace RecordCoding.Source

open Source.Parser Text

/-- All parts of a grammar refuse in one line. -/
class Grammar.IsTerse (g : Grammar) : Prop where
  type : ∀ admitsPlus c, Terse (g.type admitsPlus) c
  bound : ∀ rules c, Terse (g.bound rules) c
  expression : ∀ place c, Terse (g.expression place) c
  operand : ∀ place c, Terse (g.operand place) c
  leading : ∀ c, Terse g.leading c
  operators : ∀ place least left c, Terse (g.operators place least left) c
  pattern : ∀ c, Terse g.pattern c
  statements : ∀ c, Terse g.statements c
  item : ∀ c, Terse g.item c
  fields : ∀ c, Terse g.fields c
  imports : ∀ admitsRoot c, Terse (g.imports admitsRoot) c

attribute [simp] Grammar.IsTerse.type Grammar.IsTerse.bound Grammar.IsTerse.expression
  Grammar.IsTerse.operand Grammar.IsTerse.leading Grammar.IsTerse.operators
  Grammar.IsTerse.pattern Grammar.IsTerse.statements Grammar.IsTerse.item Grammar.IsTerse.fields
  Grammar.IsTerse.imports

section

variable {g : Grammar} [g.IsTerse] {c : Cursor}

@[simp] theorem terse_written {p : Parser Expression} :
    Terse (Grammar.written p) c ↔ Terse p c := by
  simp [Grammar.written]

@[simp] theorem terse_value : Terse g.value c := by
  simp [Grammar.value]

@[simp] theorem terse_subject : Terse g.subject c := by
  simp [Grammar.subject]

/-! ## Attributes -/

@[simp] theorem terse_plainPath : Terse plainPath c := by
  simp +decide [plainPath]

@[simp] theorem terse_attributeBody : Terse (attributeBody g) c := by
  simp +decide [attributeBody]

@[simp] theorem terse_attributeContent : Terse (attributeContent g) c := by
  simp +decide [attributeContent]

@[simp] theorem terse_attributeAfter {marks : Parser Unit} :
    Terse (attributeAfter g marks) c ↔ Terse marks { c with written := [] } := by
  simp +decide [attributeAfter]

@[simp] theorem terse_outerAttributes : Terse (outerAttributes g) c := by
  simp +decide [outerAttributes]

@[simp] theorem terse_innerAttributes : Terse (innerAttributes g) c := by
  simp +decide [innerAttributes]

@[simp] theorem terse_block : Terse (block g) c := by
  simp [block]

@[simp] theorem terse_attributedBlock : Terse (attributedBlock g) c := by
  simp [attributedBlock]

/-! ## Paths -/

@[simp] theorem terse_constArgument : Terse (constArgument g) c := by
  simp [constArgument]

@[simp] theorem terse_boundsUntil {rules : BoundRules} {isEnd : List Token → Bool} :
    Terse (boundsUntil g rules isEnd) c := by
  simp +decide [boundsUntil]

@[simp] theorem terse_genericArgument : Terse (genericArgument g) c := by
  simp only [genericArgument, terse_bind, terse_sees, true_and]
  intro isLifetime c₁ _
  split
  · simp
  · rw [terse_bind]
    refine ⟨terse_sees _, fun isConstant c₂ _ => ?_⟩
    split
    · simp
    · rw [terse_bind]
      refine ⟨Grammar.IsTerse.type true c₂, fun type c₃ _ => ?_⟩
      split <;> simp +decide

@[simp] theorem terse_genericArguments : Terse (genericArguments g) c := by
  simp +decide [genericArguments]

@[simp] theorem terse_announcedArguments : Terse (announcedArguments g) c := by
  simp +decide [announcedArguments]

@[simp] theorem terse_pathSegment {inExpression : Bool} : Terse (pathSegment g inExpression) c := by
  simp [pathSegment]

@[simp] theorem terse_moreSegments {inExpression : Bool} {goesOn : List Token → Bool} :
    Terse (moreSegments g inExpression goesOn) c := by
  simp +decide [moreSegments]

@[simp] theorem terse_unqualifiedPath {inExpression : Bool} :
    Terse (unqualifiedPath g inExpression) c := by
  simp +decide [unqualifiedPath]

@[simp] theorem terse_path {inExpression : Bool} : Terse (path g inExpression) c := by
  simp +decide [path]

@[simp] theorem terse_invocationArguments : Terse invocationArguments c := by
  simp +decide [invocationArguments]

/-! ## Parameters -/

@[simp] theorem terse_lifetimesUntil {isEnd : List Token → Bool} :
    Terse (lifetimesUntil isEnd) c := by
  simp +decide [lifetimesUntil]

@[simp] theorem terse_boundsBehindColon {p : Parser Unit} (inner : ∀ c, Terse p c) :
    Terse (boundsBehindColon p) c := by
  simp +decide [boundsBehindColon, inner]

@[simp] theorem terse_lifetimeParameter {attrs : List Token} :
    Terse (lifetimeParameter attrs) c := by
  simp [lifetimeParameter]

@[simp] theorem terse_typeParameter {attrs : List Token} : Terse (typeParameter g attrs) c := by
  simp +decide [typeParameter]

@[simp] theorem terse_constParameter {attrs : List Token} : Terse (constParameter g attrs) c := by
  simp +decide [constParameter]

@[simp] theorem terse_parameter : Terse (parameter g) c := by
  simp +decide [parameter]

@[simp] theorem terse_bracketedList {α : Type} {item : Parser α} (items : ∀ c, Terse item c) :
    Terse (bracketedList item) c := by
  simp +decide [bracketedList, items]

@[simp] theorem terse_parameters : Terse (parameters g) c := by
  simp [parameters]

@[simp] theorem terse_introduced? : Terse (introduced? g) c := by
  have parameters (c : Cursor) : Terse (introducedParameter g) c := by
    simp +decide [introducedParameter]
  simp +decide [introduced?, parameters]

@[simp] theorem terse_condition : Terse (condition g) c := by
  simp +decide [condition]

@[simp] theorem terse_conditions : Terse (conditions g) c := by
  simp +decide [conditions]

/-! ## Bounds -/

@[simp] theorem terse_returnType? {admitsPlus : Bool} : Terse (returnType? g admitsPlus) c := by
  simp +decide [returnType?]

@[simp] theorem terse_boundPath : Terse (boundPath g) c := by
  simp +decide [boundPath, functionArguments]

@[simp] theorem terse_constMarks {rules : BoundRules} : Terse (constMarks rules) c := by
  simp +decide [constMarks]

@[simp] theorem terse_traitBound {rules : BoundRules} : Terse (traitBound g rules) c := by
  simp +decide [traitBound]

theorem terse_boundIn (rules : BoundRules) : Terse (boundIn g rules) c := by
  have captured (c : Cursor) : Terse capturedParameters c := by
    simp +decide [capturedParameters]
  simp +decide [boundIn, captured]

@[simp] theorem terse_bounds {rules : BoundRules} {admitsPlus : Bool} :
    Terse (bounds g rules admitsPlus) c := by
  simp +decide [bounds]

@[simp] theorem terse_traitBounds {rules : BoundRules} {admitsPlus : Bool} {complaint : String}
    (line : isLine complaint = true) : Terse (traitBounds g rules admitsPlus complaint) c := by
  simp [traitBounds, line]

@[simp] theorem terse_joinedBounds {isEnd : List Token → Bool} :
    Terse (joinedBounds g isEnd) c := by
  simp +decide [joinedBounds]

/-! ## Types -/

@[simp] theorem terse_callingConvention : Terse callingConvention c := by
  simp +decide [callingConvention]

@[simp] theorem terse_callingConvention? : Terse callingConvention? c := by
  simp [callingConvention?]

@[simp] theorem terse_functionType : Terse (functionType g) c := by
  have arguments (isFirst : Bool) (c : Cursor) : Terse (functionTypeArgument g isFirst) c := by
    simp +decide [functionTypeArgument, mutableReceiver]
  have open_ (c : Cursor) : Terse openArguments c := by
    simp +decide [openArguments]
  simp +decide [functionType, functionTypeArguments, arguments, open_]

@[simp] theorem terse_boundsType : Terse (boundsType g) c := by
  simp +decide [boundsType]

@[simp] theorem terse_moreBounds : Terse (moreBounds g) c := by
  simp +decide [moreBounds]

@[simp] theorem terse_parenthesizedType {admitsPlus : Bool} :
    Terse (parenthesizedType g admitsPlus) c := by
  have content (c : Cursor) : Terse (enclosed g) c := by
    simp +decide [enclosed]
  simp only [parenthesizedType, terse_bind, terse_group]
  refine ⟨fun inside tail _ => content _, fun found c' _ => ?_⟩
  cases found <;> simp

@[simp] theorem terse_pathType {admitsPlus introduces : Bool} :
    Terse (pathType g admitsPlus introduces) c := by
  simp +decide [pathType]

theorem terse_typeIn (admitsPlus : Bool) : Terse (typeIn g admitsPlus) c := by
  simp +decide [typeIn, typeForm, objectType, arrayType, pointerType, referenceType, opaqueType]

end

end RecordCoding.Source
