import RecordCoding.Diagnostic
import RecordCoding.Source.Arguments

/-!
# From source to declarations

The declaration that a type in source text stands for. Every directive has effects on the node it
is written on, in the order of writing; where an attribute cannot be read to its end, the effects
up to there stand, and the refusal is reported as one more effect. Attributes do not influence
one another.
-/

namespace RecordCoding.Source

open Source.Parser

/-- What an attribute is written on. -/
inductive Node where
  | type
  | field (name : String)
  deriving Repr, DecidableEq

namespace Node

/-- The node as the target of a diagnostic. -/
def target : Node → Target
  | type => .type
  | field name => .field name

/-- An attribute on the node as the target of a diagnostic. -/
def attributeTarget (node : Node) (key : String) : Target :=
  match node with
  | type => .onType key
  | field name => .onField name key

end Node

/-- The options of a type that are no directives of generation. -/
inductive TypeOption where
  | manualKeys
  | manualDecode
  | manualEncode
  | noBridge
  deriving Repr, DecidableEq

/-- The option a key names. -/
def TypeOption.ofKey? : String → Option TypeOption
  | "manual_keys" => some .manualKeys
  | "manual_decode" => some .manualDecode
  | "manual_encode" => some .manualEncode
  | "no_serde" => some .noBridge
  | _ => none

/-- What an item of an attribute does to its node. -/
inductive Effect where
  | directive (directive : Directive)
  | option (option : TypeOption)
  /-- The field is left out of the wire format. -/
  | computed
  | flaw (diagnostic : Diagnostic)
  deriving Repr, DecidableEq

namespace Effect

/-- The directive, if the effect is one. -/
def directive? : Effect → Option Directive
  | directive d => some d
  | _ => none

/-- The option, if the effect is one. -/
def option? : Effect → Option TypeOption
  | option o => some o
  | _ => none

/-- The diagnostic, if the effect is one. -/
def flaw? : Effect → Option Diagnostic
  | flaw d => some d
  | _ => none

end Effect

/-- The value of an item that has to be a string literal; a value that is missing or of another
kind is reported. -/
def literalEffects (g : Grammar) (node : Node) (key : String)
    (effect : String → Effect) : Parser (Harvest Effect) := do
  let report (cause : Cause) : Harvest Effect :=
    .complete [.flaw (.of cause (node.attributeTarget key))]
  if ← sees (Ahead.mark "=") then
    let value ← attempt do
      mark "="
      g.value
    match value with
    | .error e => pure ⟨[], some e⟩
    | .ok (.literal (some text)) =>
      match Literal.string? text with
      | some value => pure (.complete [effect value])
      | none => pure (report (.mustBeStringLiteral key))
    | .ok _ => pure (report (.mustBeStringLiteral key))
  else pure (report (.valueRequired key))

/-- The effect of a case style. -/
def caseEffect (node : Node) (tag : String) : Effect :=
  match CaseStyle.ofTag? tag with
  | some style => .directive (.caseStyle style)
  | none => .flaw (.of (.unknownCaseStyle tag) (node.attributeTarget "case"))

/-- The effect of a default, with the expression behind it if there is one. -/
def defaultEffects (g : Grammar) : Parser (Harvest Effect) := do
  if ← sees (Ahead.mark "=") then
    let value ← attempt do
      mark "="
      capture g.value
    match value with
    | .error e => pure ⟨[], some e⟩
    | .ok (_, tokens) =>
      pure (.complete [.directive (.default (some (Token.textOfAll tokens)))])
  else pure (.complete [.directive (.default none)])

/-- An effect that only comes about if what follows can be passed over. -/
def effectBehindValue (g : Grammar) (effect : Effect) : Parser (Harvest Effect) := do
  match ← attempt (skipValue g) with
  | .ok () => pure (.complete [effect])
  | .error e => pure ⟨[], some e⟩

/-- The effects of an item that may stand on types and fields alike. -/
def commonEffects (g : Grammar) (node : Node) (key : String) : Parser (Harvest Effect) :=
  match key with
  | "rename" => literalEffects g node key fun text => .directive (.rename text)
  | "prefix" => literalEffects g node key fun text => .directive (.keyPrefix text)
  | "suffix" => literalEffects g node key fun text => .directive (.keySuffix text)
  | "case" => literalEffects g node key (caseEffect node)
  | "default" => defaultEffects g
  | "skip_null" => effectBehindValue g (.directive .skipNull)
  | "lossless" => effectBehindValue g (.directive .lossless)
  | _ => effectBehindValue g (.flaw (.of
      (.internal ("unknown codify attribute `" ++ key ++ "`")) (node.attributeTarget key)))

/-- The effects of an item. Options belong to types and skipping to fields; in the wrong place
they are reported. These effects stand even if what follows cannot be passed over. -/
def itemEffects (node : Node) (g : Grammar) (path : PlainPath) : Parser (Harvest Effect) :=
  let key := path.key
  let report (cause : Cause) : Effect := .flaw (.of cause (node.attributeTarget key))
  match node, TypeOption.ofKey? key with
  | .type, some option => Harvest.thenReading [.option option] (skipValue g)
  | .field _, some _ => Harvest.thenReading [report (.structOnly key)] (skipValue g)
  | .type, none =>
    if key = "skip" then Harvest.thenReading [report (.fieldOnly key)] (skipValue g)
    else commonEffects g node key
  | .field _, none =>
    if key = "skip" then Harvest.thenReading [.computed] (skipValue g)
    else commonEffects g node key

/-- What was read of an attribute, with the refusal as the last effect. -/
def Harvest.effects (node : Node) (harvest : Harvest Effect) : List Effect :=
  harvest.found ++ harvest.refusal.toList.map fun e =>
    .flaw (.of (.internal e.message) node.target)

/-- The effects of one attribute on its node. -/
def attributeEffects (node : Node) (attr : Attribute) : List Effect :=
  (attr.harvest (itemEffects node)).effects node

/-- The effects of all attributes on their node. -/
def nodeEffects (node : Node) (attrs : List Attribute) : List Effect :=
  (attrs.filter Attribute.isDirective).flatMap (attributeEffects node)

/-- A declaration with what else its source says. -/
structure Lowered where
  decl : Declaration
  /-- Whether the bridge to the serialization framework is not wanted. -/
  skipsBridge : Bool
  /-- What was found wrong in the attributes. -/
  flaws : List Diagnostic
  deriving Repr, DecidableEq

namespace Lowered

/-- Whether a diagnostic keeps generation from starting. Options on fields do not. -/
def isFatalFlaw (d : Diagnostic) : Bool :=
  d.isError && match d.cause with
    | .structOnly _ => false
    | _ => true

/-- Whether something was found wrong that keeps generation from starting. -/
def isFatal (lowered : Lowered) : Bool := lowered.flaws.any isFatalFlaw

end Lowered

/-- The name of a field: its own without the mark of raw identifiers, or its position. -/
def fieldName (position : Nat) (field : SourceField) : String :=
  match field.name with
  | some name => unraw name
  | none => toString position

/-- The field that a field in source text stands for, given the effects on it. -/
def fieldOfEffects (name : String) (type : FieldType) (effects : List Effect) : Field where
  name := name
  type := type
  initializer := none
  isComputed := effects.contains .computed
  directives := effects.filterMap Effect.directive?

/-- A field with the diagnostics of its attributes. -/
def lowerField (position : Nat) (field : SourceField) : Field × List Diagnostic :=
  let name := fieldName position field
  let effects := nodeEffects (.field name) field.attrs
  (fieldOfEffects name field.type.describe effects, effects.filterMap Effect.flaw?)

/-- Fields with the diagnostics of their attributes, counted from a position on. -/
def lowerFields : Nat → List SourceField → List (Field × List Diagnostic)
  | _, [] => []
  | position, field :: rest => lowerField position field :: lowerFields (position + 1) rest

/-- The declaration of a struct, given the effects on it. -/
def structOfEffects (name : String) (shape : Shape) (effects : List Effect)
    (fields : List (Field × List Diagnostic)) : Lowered :=
  let options := effects.filterMap Effect.option?
  { decl :=
      { name := name
        shape := shape
        derives := true
        directives := effects.filterMap Effect.directive?
        fields := fields.map (·.1)
        handWritten :=
          { keyTable := options.contains .manualKeys
            decode := options.contains .manualDecode
            encode := options.contains .manualEncode } }
    skipsBridge := options.contains .noBridge
    flaws := effects.filterMap Effect.flaw? ++ fields.flatMap (·.2) }

/-- The declaration that a type stands for. Attributes of what is no struct are not looked at. -/
def TypeItem.lower (item : TypeItem) : Lowered :=
  let name := unraw item.name
  let shape := item.body.shape
  if shape.isStruct then
    structOfEffects name shape (nodeEffects .type item.attrs) (lowerFields 0 item.body.fields)
  else
    { decl := ⟨name, shape, true, [], [], .nothing⟩, skipsBridge := false, flaws := [] }

/-- Attributes take effect one after the other. -/
@[simp] theorem nodeEffects_append (node : Node) (first second : List Attribute) :
    nodeEffects node (first ++ second) = nodeEffects node first ++ nodeEffects node second := by
  simp [nodeEffects]

end RecordCoding.Source
