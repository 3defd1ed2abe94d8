import RecordCoding.CaseStyle

/-!
# Record declarations

The description of a type that asks for coding routines: its shape, its fields with their
declared types, and the directives written on the type and on the fields. Nothing here depends
on how the description was obtained.
-/

namespace RecordCoding

/-- The shape of a declared type. -/
inductive Shape where
  /-- Named fields. -/
  | record
  /-- Fields known by position. -/
  | tuple
  /-- No fields. -/
  | unit
  | enumeration
  | union
  deriving Repr, DecidableEq

/-- Whether a shape belongs to a struct. -/
def Shape.isStruct : Shape → Bool
  | .record | .tuple | .unit => true
  | .enumeration | .union => false

/-- The structure of a field's declared type, as far as reading and writing depend on it. -/
inductive FieldType where
  /-- A type that is not looked into, by its normalized text. -/
  | scalar (text : String)
  | optional (inner : FieldType)
  | array (element : FieldType)
  | set (collection : String) (element : FieldType)
  | map (collection : String) (key value : FieldType)
  /-- A known generic wrapper. -/
  | wrapper (name : String) (inner : FieldType)
  deriving Repr, DecidableEq, Inhabited

namespace FieldType

/-- Whether the outermost layer is optional. -/
def isOptional : FieldType → Bool
  | optional _ => true
  | _ => false

/-- The type under all optional layers. -/
def withoutOptional : FieldType → FieldType
  | optional inner => inner.withoutOptional
  | other => other

/-- Whether the type under the optional layers is an array, a set or a map. -/
def isCollection (type : FieldType) : Bool :=
  match type.withoutOptional with
  | array _ | set .. | map .. => true
  | _ => false

/-- The type written out. -/
def text : FieldType → String
  | scalar name => name
  | optional inner => "Option<" ++ inner.text ++ ">"
  | array element => "Vec<" ++ element.text ++ ">"
  | set collection element => collection ++ "<" ++ element.text ++ ">"
  | map collection key value => collection ++ "<" ++ key.text ++ ", " ++ value.text ++ ">"
  | wrapper name inner => name ++ "<" ++ inner.text ++ ">"

end FieldType

/-- An instruction written on a field or on the type. -/
inductive Directive where
  /-- A key taken literally, whatever the style, prefix and suffix. -/
  | rename (key : String)
  | keyPrefix (text : String)
  | keySuffix (text : String)
  | caseStyle (style : CaseStyle)
  /-- A fallback expression by its text; none when no value was written. -/
  | default (expression : Option String)
  | skipNull
  | lossless
  deriving Repr, DecidableEq

namespace Directive

/-- The spelling of a directive. -/
def name : Directive → String
  | rename _ => "rename"
  | keyPrefix _ => "prefix"
  | keySuffix _ => "suffix"
  | caseStyle _ => "case"
  | default _ => "default"
  | skipNull => "skip_null"
  | lossless => "lossless"

/-- Whether a directive takes part in choosing the key. -/
def shapesKey : Directive → Bool
  | rename _ | keyPrefix _ | keySuffix _ | caseStyle _ => true
  | _ => false

/-- Whether a directive may be written on a type. -/
def fitsType : Directive → Bool
  | keyPrefix _ | keySuffix _ | caseStyle _ => true
  | _ => false

/-- The literal key, if this is one. -/
def renameKey? : Directive → Option String
  | rename key => some key
  | _ => none

/-- The prefix, if this is one. -/
def keyPrefix? : Directive → Option String
  | keyPrefix text => some text
  | _ => none

/-- The suffix, if this is one. -/
def keySuffix? : Directive → Option String
  | keySuffix text => some text
  | _ => none

/-- The case style, if this is one. -/
def caseStyle? : Directive → Option CaseStyle
  | caseStyle style => some style
  | _ => none

/-- The fallback expression, if this is one with a value. -/
def fallback? : Directive → Option String
  | default expression => expression
  | _ => none

end Directive

/-- A field of a declaration. -/
structure Field where
  name : String
  type : FieldType
  /-- An initial value by its text; it serves as fallback when reading. -/
  initializer : Option String
  /-- Computed fields are not part of the wire format. -/
  isComputed : Bool
  directives : List Directive
  deriving Repr, DecidableEq

namespace Field

/-- A plain stored field. -/
def plain (name : String) (type : FieldType) : Field := ⟨name, type, none, false, []⟩

/-- Whether the declared type is optional. -/
def isOptional (field : Field) : Bool := field.type.isOptional

/-- Whether any directive takes part in choosing the key. -/
def hasKeyDirective (field : Field) : Bool := field.directives.any Directive.shapesKey

end Field

/-- The members that are written by hand and therefore not generated. -/
structure HandWritten where
  keyTable : Bool
  decode : Bool
  encode : Bool
  deriving Repr, DecidableEq

/-- Nothing is written by hand. -/
def HandWritten.nothing : HandWritten := ⟨false, false, false⟩

/-- The naming defaults that a type hands to its fields. -/
structure KeyDefaults where
  keyPrefix : Option String
  keySuffix : Option String
  caseStyle : Option CaseStyle
  deriving Repr, DecidableEq

/-- A type declaration. -/
structure Declaration where
  name : String
  shape : Shape
  /-- Whether the declaration asks for generation. -/
  derives : Bool
  directives : List Directive
  fields : List Field
  handWritten : HandWritten
  deriving Repr, DecidableEq

namespace Declaration

/-- The fields of the wire format, in order. -/
def storedFields (decl : Declaration) : List Field := decl.fields.filter (!·.isComputed)

/-- The first directive of each naming kind on the type. -/
def keyDefaults (decl : Declaration) : KeyDefaults where
  keyPrefix := decl.directives.findSome? Directive.keyPrefix?
  keySuffix := decl.directives.findSome? Directive.keySuffix?
  caseStyle := decl.directives.findSome? Directive.caseStyle?

/-- Stored fields are exactly the fields that are not computed. -/
theorem mem_storedFields {decl : Declaration} {field : Field} :
    field ∈ decl.storedFields ↔ field ∈ decl.fields ∧ field.isComputed = false := by
  simp [storedFields]

end Declaration

end RecordCoding
