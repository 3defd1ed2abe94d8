import RecordCoding.Declaration
import RecordCoding.Diagnostic

/-!
# Reading and writing plans

How one field is read from an object and how it is written to one. The first rule that applies
decides: lossless text, dropped nulls in a collection, a fallback value, an optional type, and
otherwise a plain required read.
-/

namespace RecordCoding

/-- How a field is read. -/
inductive ReadPlan where
  /-- The member has to be present. -/
  | direct
  /-- An absent or null member means no value. -/
  | optional
  /-- An absent or null member means the fallback. -/
  | defaulted (expression : String) (optional : Bool)
  /-- Null elements are dropped. -/
  | compactArray (element : FieldType) (optional : Bool)
  /-- Null elements are dropped and equal ones collapse. -/
  | compactSet (element : FieldType) (optional : Bool)
  /-- Entries with a null value are dropped. -/
  | compactMap (key value : FieldType) (optional : Bool)
  /-- Scalars are read as their text. -/
  | lossless (optional : Bool)
  deriving Repr, DecidableEq

/-- How a field is written. -/
inductive WriteRule where
  | always
  /-- The key is left out when there is no value. -/
  | ifPresent
  deriving Repr, DecidableEq

/-- The rule for a field whose type is optional or not. -/
def WriteRule.ofOptional (optional : Bool) : WriteRule := if optional then .ifPresent else .always

/-- The name of a rule in reports. -/
def WriteRule.label : WriteRule → String
  | .always => "always"
  | .ifPresent => "if_present"

namespace ReadPlan

/-- Whether the plan yields no value for an absent member. -/
def isOptional : ReadPlan → Bool
  | direct => false
  | optional => true
  | defaulted _ opt | compactArray _ opt | compactSet _ opt | compactMap _ _ opt | lossless opt => opt

/-- The writing rule that goes with a plan. -/
def writeRule (plan : ReadPlan) : WriteRule := .ofOptional plan.isOptional

/-- The name of a plan in reports. -/
def label : ReadPlan → String
  | direct => "direct"
  | optional => "optional"
  | defaulted .. => "defaulted"
  | compactArray .. => "null-filtered-array"
  | compactSet .. => "null-filtered-set"
  | compactMap .. => "null-filtered-map"
  | lossless _ => "lossless"

end ReadPlan

namespace Field

/-- The plan that drops nulls, for a collection. -/
def compactPlan? (field : Field) : Option ReadPlan :=
  match field.type.withoutOptional with
  | .array element => some (.compactArray element field.isOptional)
  | .set _ element => some (.compactSet element field.isOptional)
  | .map _ key value => some (.compactMap key value field.isOptional)
  | _ => none

/-- The plan of a field that is neither lossless nor dropping nulls. -/
def plainPlan (field : Field) : ReadPlan :=
  match field.initializer.or (field.directives.findSome? Directive.fallback?) with
  | some expression => .defaulted expression field.isOptional
  | none => if field.isOptional then .optional else .direct

/-- The plan of a field. A default written without a value is an error of this field only. -/
def readPlan (field : Field) : Except Diagnostic ReadPlan :=
  if field.directives.contains (.default none) then
    .error (.of (.missingDefaultValue field.name) (.onField field.name "default"))
  else if field.directives.contains .lossless then
    .ok (.lossless field.isOptional)
  else if field.directives.contains .skipNull then
    .ok (field.compactPlan?.getD field.plainPlan)
  else
    .ok field.plainPlan

private theorem isOptional_plainPlan (field : Field) :
    field.plainPlan.isOptional = field.isOptional := by
  unfold plainPlan
  split
  · rfl
  · split <;> simp_all [ReadPlan.isOptional]

/-- A plan is optional exactly when the field's type is. -/
theorem isOptional_of_readPlan {field : Field} {plan : ReadPlan}
    (h : field.readPlan = .ok plan) : plan.isOptional = field.isOptional := by
  unfold readPlan at h
  split at h
  · cases h
  · split at h
    · cases h; rfl
    · split at h
      · cases h
        unfold compactPlan?
        split
        · rfl
        · rfl
        · rfl
        · exact isOptional_plainPlan field
      · cases h; exact isOptional_plainPlan field

end Field

end RecordCoding
