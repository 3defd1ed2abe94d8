import RecordCoding.Declaration
import RecordCoding.Diagnostic

/-!
# Wire keys

The key under which a field is read and written. A literal key wins and is used verbatim;
otherwise the field name in the field's case style, else the type's, is put between a prefix and
a suffix, each the field's first one or else the type's.
-/

namespace RecordCoding

/-- A key with the advisories raised while choosing it. -/
structure WireKey where
  key : String
  advisories : List Diagnostic
  deriving Repr, DecidableEq

namespace Field

/-- The literal keys written on a field. -/
def renames (field : Field) : List String := field.directives.filterMap Directive.renameKey?

/-- The case styles written on a field. -/
def caseStyles (field : Field) : List CaseStyle := field.directives.filterMap Directive.caseStyle?

/-- The key of a field without a literal key. -/
def derivedKey (field : Field) (defaults : KeyDefaults) : String :=
  let base := match field.caseStyles.head?.or defaults.caseStyle with
    | some style => style.apply field.name
    | none => field.name
  let before := (field.directives.findSome? Directive.keyPrefix?).or defaults.keyPrefix
  let after := (field.directives.findSome? Directive.keySuffix?).or defaults.keySuffix
  before.getD "" ++ base ++ after.getD ""

/-- The error for an attribute that was written more than once. -/
def repeatedAttribute (field : Field) (attr : String) : Diagnostic :=
  .of (.multipleKeyAttributes attr) (.onField field.name attr)

/-- The key of a field under the naming defaults of its type. -/
def wireKey (field : Field) (defaults : KeyDefaults) : Except Diagnostic WireKey :=
  match field.renames with
  | [] =>
    if 1 < field.caseStyles.length then .error (field.repeatedAttribute "case")
    else .ok ⟨field.derivedKey defaults, []⟩
  | [key] =>
    if key.isEmpty then .error (.of .emptyCustomKey (.onField field.name "rename"))
    else .ok ⟨key, if field.caseStyles.isEmpty then []
      else [.of .customKeyShadowsCase (.onField field.name "case")]⟩
  | _ :: _ :: _ => .error (field.repeatedAttribute "rename")

end Field

end RecordCoding
