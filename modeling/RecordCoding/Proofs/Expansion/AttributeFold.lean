import RecordCoding.Proofs.Expansion.AllOrNothing
import RecordCoding.Proofs.Source.AttributeEffects

/-!
# Lowering as a fold over attributes

What a struct is lowered to is put together from what its attributes and those of its fields
contribute one by one. So items may be grouped into attributes in any way, options on fields add
nothing but reports, and an attribute that is refused leaves the others as they are, but keeps all
code from being generated.
-/

namespace RecordCoding

namespace Source

/-! ## What everything is put together from -/

/-- A field at its position as a node. -/
def fieldNode (entry : SourceField × Nat) : Node := .field (fieldName entry.2 entry.1)

/-- What the directives of a type contribute, and those of each of its fields. -/
structure AreContributed (item : TypeItem) (ofType : List (List Effect))
    (ofFields : List (List (List Effect))) : Prop where
  type : Contributions .type item.attrs ofType
  fields : List.Forall₂ (fun entry => Contributions (fieldNode entry) entry.1.attrs)
    item.body.fields.zipIdx ofFields

/-- What a type is lowered to is put together from contributions, in order. -/
structure IsFold (item : TypeItem) (ofType : List (List Effect))
    (ofFields : List (List (List Effect))) : Prop where
  directives : item.lower.decl.directives = ofType.flatten.filterMap Effect.directive?
  keyTable : item.lower.decl.handWritten.keyTable = true ↔ .option .manualKeys ∈ ofType.flatten
  decode : item.lower.decl.handWritten.decode = true ↔ .option .manualDecode ∈ ofType.flatten
  encode : item.lower.decl.handWritten.encode = true ↔ .option .manualEncode ∈ ofType.flatten
  bridge : item.lower.skipsBridge = true ↔ .option .noBridge ∈ ofType.flatten
  fieldDirectives : item.lower.decl.fields.map (·.directives) =
    ofFields.map fun effects => effects.flatten.filterMap Effect.directive?
  computed : item.lower.decl.fields.map (·.isComputed) =
    ofFields.map fun effects => effects.flatten.contains .computed
  flaws : item.lower.flaws = ofType.flatten.filterMap Effect.flaw? ++
    ofFields.flatMap fun effects => effects.flatten.filterMap Effect.flaw?

section Fold

variable {item : TypeItem} {ofType : List (List Effect)} {ofFields : List (List (List Effect))}

/-- The contributions are the effects of the directives. -/
theorem areContributed_iff : AreContributed item ofType ofFields ↔
    directiveEffects .type item.attrs = ofType ∧
      (item.body.fields.zipIdx.map fun entry =>
        directiveEffects (fieldNode entry) entry.1.attrs) = ofFields := by
  have each (entry : SourceField × Nat) (effects : List (List Effect)) :
      Contributions (fieldNode entry) entry.1.attrs effects ↔
        directiveEffects (fieldNode entry) entry.1.attrs = effects := contributions_iff
  have ofEach := @forall₂_iff_eq_map _ _ _ _ item.body.fields.zipIdx ofFields
    fun entry _ effects => each entry effects
  constructor
  · intro contributed
    exact ⟨contributions_iff.mp contributed.type, ofEach.mp contributed.fields⟩
  · rintro ⟨type, fields⟩
    exact ⟨contributions_iff.mpr type, ofEach.mpr fields⟩

/-- Fields are lowered one by one, each at its position. -/
theorem lowerFields_eq (position : Nat) (fields : List SourceField) :
    lowerFields position fields =
      (fields.zipIdx position).map fun entry => lowerField entry.2 entry.1 := by
  induction fields generalizing position with
  | nil => rfl
  | cons field fields ih => rw [lowerFields, ih, List.zipIdx_cons, List.map_cons]

/-- A struct is lowered to the effects on it and on its fields. -/
theorem lower_of_isStruct (isStruct : item.body.shape.isStruct = true) :
    item.lower = structOfEffects (unraw item.name) item.body.shape (nodeEffects .type item.attrs)
      (lowerFields 0 item.body.fields) := by
  rw [TypeItem.lower, isStruct]
  rfl

/-- An option is among the options if it is among the effects. -/
theorem contains_option (effects : List Effect) (option : TypeOption) :
    (effects.filterMap Effect.option?).contains option = true ↔ .option option ∈ effects := by
  rw [List.contains_iff_mem, List.mem_filterMap]
  constructor
  · rintro ⟨effect, member, named⟩
    cases effect <;> cases named
    exact member
  · exact fun member => ⟨_, member, rfl⟩

/-- A struct is lowered to what its attributes contribute. -/
theorem isFold_of_contributed (isStruct : item.body.shape.isStruct = true)
    (contributed : AreContributed item ofType ofFields) : IsFold item ofType ofFields := by
  obtain ⟨rfl, rfl⟩ := areContributed_iff.mp contributed
  have lowered := lower_of_isStruct isStruct
  constructor
  case directives => rw [lowered, flatten_directiveEffects]; rfl
  case keyTable => rw [lowered, flatten_directiveEffects]; exact contains_option ..
  case decode => rw [lowered, flatten_directiveEffects]; exact contains_option ..
  case encode => rw [lowered, flatten_directiveEffects]; exact contains_option ..
  case bridge => rw [lowered, flatten_directiveEffects]; exact contains_option ..
  case fieldDirectives =>
    rw [lowered, structOfEffects, lowerFields_eq]
    simp only [List.map_map, Function.comp_def, flatten_directiveEffects]
    rfl
  case computed =>
    rw [lowered, structOfEffects, lowerFields_eq]
    simp only [List.map_map, Function.comp_def, flatten_directiveEffects]
    rfl
  case flaws =>
    rw [lowered, structOfEffects, lowerFields_eq]
    simp only [List.flatMap_map, flatten_directiveEffects]
    rfl

end Fold

/-! ## Items written in another way -/

/-- Fields whose attributes are written in another way. -/
inductive FieldsRewritten : Nat → List SourceField → List SourceField → List Diagnostic → Prop
  | nothing (position : Nat) : FieldsRewritten position [] [] []
  | field {position : Nat} (field : SourceField) {attrs' : List Attribute}
    {gained : List Diagnostic}
    (rewritten : Rewritten (.field (fieldName position field)) field.attrs attrs' gained)
    {fields fields' : List SourceField} {added : List Diagnostic}
    (rest : FieldsRewritten (position + 1) fields fields' added) :
    FieldsRewritten position (field :: fields) ({ field with attrs := attrs' } :: fields')
      (gained ++ added)

/-- A body with other fields, where it has any. -/
def TypeBody.withFields (body : TypeBody) (fields : List SourceField) : TypeBody :=
  match body with
  | .named _ => .named fields
  | .tuple _ => .tuple fields
  | .unit | .enumeration _ | .union => body

/-- A type whose attributes, and those of its fields, are written in another way. -/
inductive ItemRewritten (item : TypeItem) : TypeItem → List Diagnostic → Prop
  | intro {attrs' : List Attribute} {gained : List Diagnostic}
    (type : Rewritten .type item.attrs attrs' gained) {fields' : List SourceField}
    {added : List Diagnostic} (fields : FieldsRewritten 0 item.body.fields fields' added) :
    ItemRewritten item { item with attrs := attrs', body := item.body.withFields fields' }
      (gained ++ added)

section Reports

variable {effects effects' : List Effect} {added : List Diagnostic}
  (mixed : Interleaved effects (added.map .flaw) effects')

include mixed

/-- Where only reports are added, everything else is the same. -/
theorem filterMap_of_reports {β : Type} (part : Effect → Option β)
    (other : ∀ d, part (.flaw d) = none) : effects'.filterMap part = effects.filterMap part := by
  have nothing : (added.map Effect.flaw).filterMap part = [] := by
    rw [List.filterMap_map]
    exact List.filterMap_eq_nil_iff.mpr fun d _ => other d
  have kept := mixed.filterMap part
  rw [nothing] at kept
  exact kept.eq_of_nil

/-- The reports are those from before and the ones that are added. -/
theorem flaws_of_reports : Interleaved (effects.filterMap Effect.flaw?) added
    (effects'.filterMap Effect.flaw?) := by
  have reports : (added.map Effect.flaw).filterMap Effect.flaw? = added := by
    rw [List.filterMap_map]
    exact List.filterMap_some
  have flaws := mixed.filterMap Effect.flaw?
  rwa [reports] at flaws

/-- A field is as before. -/
theorem fieldOfEffects_of_reports (name : String) (type : FieldType) :
    fieldOfEffects name type effects' = fieldOfEffects name type effects := by
  have computed : effects'.contains .computed = effects.contains .computed := by
    rw [Bool.eq_iff_iff, List.contains_iff_mem, List.contains_iff_mem, mixed.mem_iff]
    simp
  rw [fieldOfEffects, fieldOfEffects, computed,
    filterMap_of_reports mixed Effect.directive? fun _ => rfl]

end Reports

/-- Fields are as before, and their reports are those from before and the ones that are added. -/
theorem FieldsRewritten.lowered {position : Nat} {fields fields' : List SourceField}
    {added : List Diagnostic} (rewritten : FieldsRewritten position fields fields' added) :
    (lowerFields position fields').map (·.1) = (lowerFields position fields).map (·.1) ∧
      Interleaved ((lowerFields position fields).flatMap (·.2)) added
        ((lowerFields position fields').flatMap (·.2)) := by
  induction rewritten with
  | nothing => exact ⟨rfl, .nothing⟩
  | @field position field _ _ rewritten _ _ _ rest ih =>
    obtain ⟨same, flaws⟩ := ih
    refine ⟨?_, (flaws_of_reports rewritten.interleaved).append flaws⟩
    have first := fieldOfEffects_of_reports rewritten.interleaved (fieldName position field)
      field.type.describe
    simp only [lowerFields, List.map_cons, same]
    exact congrArg (· :: _) first

/-- Other fields do not change the shape of a body. -/
@[simp] theorem TypeBody.shape_withFields (body : TypeBody) (fields : List SourceField) :
    (body.withFields fields).shape = body.shape := by cases body <;> rfl

/-- A body of a struct that is rewritten has the rewritten fields. -/
theorem FieldsRewritten.fields_withFields {body : TypeBody} {fields' : List SourceField}
    {added : List Diagnostic} (rewritten : FieldsRewritten 0 body.fields fields' added) :
    (body.withFields fields').fields = fields' := by
  cases body with
  | named fields => rfl
  | tuple fields => rfl
  | _ => cases rewritten; rfl

/-- What is reported in addition is about options on fields. -/
theorem WithOptions.misplaced {name : String} {tokens tokens' : List Token}
    {added : List Diagnostic} (gains : WithOptions name tokens tokens' added) :
    ∀ d ∈ added, ∃ key, d = misplacedOption name key := by
  induction gains with
  | same => simp
  | item _ _ _ ih => exact ih
  | last _ _ _ ih => exact ih
  | option _ _ _ ih => exact List.forall_mem_cons.mpr ⟨⟨_, rfl⟩, ih⟩
  | alone _ => exact List.forall_mem_singleton.mpr ⟨_, rfl⟩

theorem Rewritten.misplaced {node : Node} {attrs attrs' : List Attribute}
    {added : List Diagnostic} (rewritten : Rewritten node attrs attrs' added) :
    ∀ d ∈ added, ∃ name key, d = misplacedOption name key := by
  induction rewritten with
  | nothing => simp
  | keep _ _ ih => exact ih
  | regroup _ _ _ _ ih => exact ih
  | within _ _ _ _ _ _ _ gains _ ih =>
    exact List.forall_mem_append.mpr ⟨fun d member => ⟨_, gains.misplaced d member⟩, ih⟩
  | further _ _ _ _ gains _ ih =>
    exact List.forall_mem_append.mpr ⟨fun d member => ⟨_, gains.misplaced d member⟩, ih⟩

theorem FieldsRewritten.misplaced {position : Nat} {fields fields' : List SourceField}
    {added : List Diagnostic} (rewritten : FieldsRewritten position fields fields' added) :
    ∀ d ∈ added, ∃ name key, d = misplacedOption name key := by
  induction rewritten with
  | nothing => simp
  | field _ rewritten _ ih => exact List.forall_mem_append.mpr ⟨rewritten.misplaced, ih⟩

/-- A struct whose attributes are written in another way is lowered alike, up to the reports that
are added. -/
theorem ItemRewritten.lowered {item item' : TypeItem} {added : List Diagnostic}
    (isStruct : item.body.shape.isStruct = true) (rewritten : ItemRewritten item item' added) :
    item'.lower.decl = item.lower.decl ∧ item'.lower.skipsBridge = item.lower.skipsBridge ∧
      Interleaved item.lower.flaws added item'.lower.flaws := by
  obtain ⟨type, fields⟩ := rewritten
  rename_i attrs' gained fields' added
  have isStruct' : (item.body.withFields fields').shape.isStruct = true := by
    rwa [TypeBody.shape_withFields]
  obtain ⟨same, flaws⟩ := fields.lowered
  have directives := filterMap_of_reports type.interleaved Effect.directive? fun _ => rfl
  have options := filterMap_of_reports type.interleaved Effect.option? fun _ => rfl
  have lowered' := @lower_of_isStruct
    { item with attrs := attrs', body := item.body.withFields fields' } isStruct'
  rw [lower_of_isStruct isStruct, lowered']
  simp only [structOfEffects, fields.fields_withFields, TypeBody.shape_withFields, same,
    directives, options, true_and]
  exact (flaws_of_reports type.interleaved).append flaws

/-- The reports that are added are about options on fields. -/
theorem ItemRewritten.misplaced {item item' : TypeItem} {added : List Diagnostic}
    (rewritten : ItemRewritten item item' added) :
    ∀ d ∈ added, ∃ name key, d = misplacedOption name key := by
  obtain ⟨type, fields⟩ := rewritten
  exact List.forall_mem_append.mpr ⟨type.misplaced, fields.misplaced⟩

/-! ## Refused attributes -/

/-- A directive of a node is refused. -/
def RefusedOn (node : Node) (attrs : List Attribute) : Prop :=
  ∃ attr ∈ attrs, attr.isDirective = true ∧ (attr.harvest (itemEffects node)).refusal.isSome = true

/-- A directive of a type or of one of its fields is refused. -/
def Refused (item : TypeItem) : Prop :=
  RefusedOn .type item.attrs ∨
    ∃ entry ∈ item.body.fields.zipIdx, RefusedOn (fieldNode entry) entry.1.attrs

/-- A directive that is refused leaves a report. -/
theorem RefusedOn.exists_flaw {node : Node} {attrs : List Attribute}
    (refused : RefusedOn node attrs) :
    ∃ words, refusalFlaw node words ∈ nodeEffects node attrs := by
  obtain ⟨attr, member, directive, refusal⟩ := refused
  obtain ⟨e, refusal⟩ := Option.isSome_iff_exists.mp refusal
  have reported : refusalFlaw node e.message ∈ attributeEffects node attr := by
    rw [attributeEffects, Harvest.effects, refusal]
    exact List.mem_append_right _ List.mem_cons_self
  have filtered : attr ∈ attrs.filter Attribute.isDirective :=
    List.mem_filter.mpr ⟨member, directive⟩
  exact ⟨e.message, List.mem_flatMap.mpr ⟨attr, filtered, reported⟩⟩

/-- The report is among those of the type. -/
theorem Refused.exists_flaw {item : TypeItem} (isStruct : item.body.shape.isStruct = true)
    (refused : Refused item) :
    ∃ words target, Diagnostic.of (.internal words) target ∈ item.lower.flaws := by
  rw [lower_of_isStruct isStruct, structOfEffects]
  rcases refused with onType | ⟨entry, member, onField⟩
  · obtain ⟨words, reported⟩ := onType.exists_flaw
    exact ⟨words, _, List.mem_append_left _ (List.mem_filterMap.mpr ⟨_, reported, rfl⟩)⟩
  · obtain ⟨words, reported⟩ := onField.exists_flaw
    have found : Diagnostic.of (.internal words) (fieldNode entry).target ∈
        (lowerField entry.2 entry.1).2 := List.mem_filterMap.mpr ⟨_, reported, rfl⟩
    have lowered : lowerField entry.2 entry.1 ∈ lowerFields 0 item.body.fields := by
      rw [lowerFields_eq]
      exact List.mem_map_of_mem member
    exact ⟨words, _, List.mem_append_right _ (List.mem_flatMap.mpr ⟨_, lowered, found⟩)⟩

end Source

namespace Expansion

open Source

/-! ## The code for a type -/

/-- The code for a type, behind the notices of its attributes. -/
def codeBehind (item : TypeItem) (config : Configuration) : Except UnwritableName (List Token) :=
  if item.lower.isFatal then .ok []
  else if (outcomeOf item config).isFailed then .ok (notices (outcomeOf item config).diagnostics)
  else (artifactTokens item item.lower (outcomeOf item config) config).map
    (notices (outcomeOf item config).diagnostics ++ ·)

/-- The tokens for a type are the notices of its attributes and the code behind them. -/
theorem expand_eq_behind (item : TypeItem) (config : Configuration) :
    expand item config = (codeBehind item config).map (notices item.lower.flaws ++ ·) := by
  rw [expand_eq, codeBehind]
  by_cases fatal : item.lower.isFatal = true
  · rw [if_pos fatal, if_pos fatal]
    exact congrArg Except.ok (List.append_nil _).symm
  · rw [if_neg fatal, if_neg fatal, render, notices_append]
    by_cases failed : (outcomeOf item config).isFailed = true
    · rw [if_pos failed, if_pos failed]
      rfl
    · rw [if_neg failed, if_neg failed]
      cases artifactTokens item item.lower (outcomeOf item config) config with
      | error e => rfl
      | ok tokens => exact congrArg Except.ok (List.append_assoc ..)

/-- What is written in another way has the same code as long as everything but the reports is
lowered alike. -/
theorem codeBehind_congr {item item' : TypeItem} {config : Configuration}
    (header : ∀ code, Code.tokens item' code = Code.tokens item code)
    (decl : item'.lower.decl = item.lower.decl)
    (bridge : item'.lower.skipsBridge = item.lower.skipsBridge)
    (fatal : item'.lower.isFatal = item.lower.isFatal) :
    codeBehind item' config = codeBehind item config := by
  have outcome : outcomeOf item' config = outcomeOf item config :=
    congrArg (fun decl => generate decl config) decl
  have artifacts : artifactTokens item' item'.lower (outcomeOf item config) config =
      artifactTokens item item.lower (outcomeOf item config) config := by
    delta artifactTokens
    rw [decl, bridge]
    simp only [header]
  rw [codeBehind, codeBehind, outcome, fatal, artifacts]

/-- The code does not depend on how attributes are written. -/
theorem tokens_of_rewritten {item item' : TypeItem} {added : List Diagnostic}
    (rewritten : ItemRewritten item item' added) (code : Code) :
    code.tokens item' = code.tokens item := by
  cases rewritten
  rfl

end Expansion

namespace Source

/-- Reports about options on fields are not fatal. -/
theorem ItemRewritten.isFatal {item item' : TypeItem} {added : List Diagnostic}
    (isStruct : item.body.shape.isStruct = true) (rewritten : ItemRewritten item item' added) :
    item'.lower.isFatal = item.lower.isFatal := by
  obtain ⟨-, -, flaws⟩ := rewritten.lowered isStruct
  have harmless : ∀ d ∈ added, Lowered.isFatalFlaw d = false := by
    intro d member
    obtain ⟨name, key, rfl⟩ := rewritten.misplaced d member
    rfl
  rw [Lowered.isFatal, Lowered.isFatal, Bool.eq_iff_iff, List.any_eq_true, List.any_eq_true]
  constructor
  · rintro ⟨d, member, isFatal⟩
    rcases flaws.mem_iff.mp member with before | gained
    · exact ⟨d, before, isFatal⟩
    · rw [harmless d gained] at isFatal
      cases isFatal
  · rintro ⟨d, member, isFatal⟩
    exact ⟨d, flaws.mem_iff.mpr (.inl member), isFatal⟩

end Source

namespace Expansion

open Source

/-! ## The fold -/

/-- A type that is written in another way differs in the reports that are added, and in nothing
else: neither in what it is lowered to, nor in the code behind the notices. -/
structure GainsReports (item item' : TypeItem) (added : List Diagnostic) : Prop where
  decl : item'.lower.decl = item.lower.decl
  bridge : item'.lower.skipsBridge = item.lower.skipsBridge
  fatal : item'.lower.isFatal = item.lower.isFatal
  flaws : Interleaved item.lower.flaws added item'.lower.flaws
  reports : ∀ d ∈ added, d.code = "E006" ∧ ∃ name key, d = misplacedOption name key
  code : ∀ config, ∃ code : Except UnwritableName (List Token),
    expand item config = code.map (notices item.lower.flaws ++ ·) ∧
    expand item' config = code.map (notices item'.lower.flaws ++ ·)

/-- Lowering a struct is a fold over its attributes and those of its fields. -/
structure FoldsAttributes (item : TypeItem) : Prop where
  /-- Every attribute contributes something, one by one. -/
  contributed : ∃ ofType ofFields, AreContributed item ofType ofFields
  /-- Everything comes from what the attributes contribute. -/
  fold : ∀ ofType ofFields, AreContributed item ofType ofFields → IsFold item ofType ofFields
  /-- Items may be grouped into attributes in another way. -/
  regrouped : ∀ item', ItemRewritten item item' [] →
    item'.lower = item.lower ∧ ∀ config, expand item' config = expand item config
  /-- Options on fields add their reports, whatever else is written in another way. -/
  options : ∀ item' added, ItemRewritten item item' added → GainsReports item item' added
  /-- An attribute that is refused keeps all code from being generated. -/
  refused : Refused item → ∀ config, expand item config = .ok (notices item.lower.flaws) ∧
    ∀ word ∈ ["enum", "impl"], word ∉ Token.identifiersOfAll (notices item.lower.flaws)

section

variable {item : TypeItem} (isStruct : item.body.shape.isStruct = true)

include isStruct

/-- A struct that is written in another way gains reports and nothing else. -/
theorem gainsReports_of_rewritten {item' : TypeItem} {added : List Diagnostic}
    (rewritten : ItemRewritten item item' added) : GainsReports item item' added := by
  obtain ⟨decl, bridge, flaws⟩ := rewritten.lowered isStruct
  have fatal := rewritten.isFatal isStruct
  constructor
  case decl => exact decl
  case bridge => exact bridge
  case fatal => exact fatal
  case flaws => exact flaws
  case reports =>
    intro d member
    obtain ⟨name, key, rfl⟩ := rewritten.misplaced d member
    exact ⟨rfl, name, key, rfl⟩
  case code =>
    intro config
    have same : codeBehind item' config = codeBehind item config :=
      codeBehind_congr (tokens_of_rewritten rewritten) decl bridge fatal
    refine ⟨codeBehind item config, expand_eq_behind item config, ?_⟩
    rw [expand_eq_behind item' config, same]

/-- A struct whose items are grouped in another way is the same. -/
theorem expand_of_regrouped {item' : TypeItem} (rewritten : ItemRewritten item item' []) :
    item'.lower = item.lower ∧ ∀ config, expand item' config = expand item config := by
  have gains := gainsReports_of_rewritten isStruct rewritten
  have flaws : item'.lower.flaws = item.lower.flaws := gains.flaws.eq_of_nil
  refine ⟨?_, fun config => ?_⟩
  · cases lowered : item.lower with
    | mk decl skipsBridge found =>
      cases lowered' : item'.lower with
      | mk decl' skipsBridge' found' =>
        have decl := gains.decl
        have bridge := gains.bridge
        rw [lowered, lowered'] at decl bridge flaws
        cases decl
        cases bridge
        cases flaws
        rfl
  · obtain ⟨code, before, after⟩ := gains.code config
    rw [before, after, flaws]

/-- A struct with an attribute that is refused has nothing but notices. -/
theorem expand_of_refused (refused : Refused item) (config : Configuration) :
    expand item config = .ok (notices item.lower.flaws) := by
  obtain ⟨words, target, found⟩ := refused.exists_flaw isStruct
  have fatal : item.lower.isFatal = true :=
    (isFatal_iff item.lower).mpr ⟨_, found, rfl, fun attr other => by cases other⟩
  rw [expand_eq, if_pos fatal]

/-- Lowering a struct is a fold over its attributes with recovery in each of them: grouping does
not matter, options on fields add their reports, and a refusal keeps all code away. -/
theorem folds_attributes : FoldsAttributes item where
  contributed := ⟨_, _, areContributed_iff.mpr ⟨rfl, rfl⟩⟩
  fold _ _ := isFold_of_contributed isStruct
  regrouped _ := expand_of_regrouped isStruct
  options _ _ := gainsReports_of_rewritten isStruct
  refused refused config :=
    ⟨expand_of_refused isStruct refused config, notMem_identifiersOfAll_notices _⟩

end

/-- A directive with arguments. -/
def codify (tokens : List Token) : Attribute := ⟨some directiveAttribute, .arguments tokens, []⟩

/-- A field with attributes. -/
def massField (attrs : List Attribute) : SourceField :=
  ⟨attrs, some "mass", .path [.ident "u32"] false ["u32"] []⟩

/-- A struct with attributes on its only field. -/
def crate (attrs : List Attribute) : TypeItem :=
  ⟨[], [], "Crate", .none, .named [massField attrs]⟩

/-- The field of a crate may have its attributes written in another way. -/
theorem itemRewritten_crate {attrs attrs' : List Attribute} {added : List Diagnostic}
    (rewritten : Rewritten (.field "mass") attrs attrs' added) :
    ItemRewritten (crate attrs) (crate attrs') added := by
  have fields : FieldsRewritten 0 [massField attrs] [massField attrs'] (added ++ []) :=
    @FieldsRewritten.field 0 (massField attrs) _ _ rewritten _ _ _ (.nothing 1)
  have item : ItemRewritten (crate attrs) (crate attrs') ([] ++ (added ++ [])) :=
    .intro .nothing fields
  rwa [List.nil_append, List.append_nil] at item

/-- A key of its own for a field. -/
def ownKey : List Token := [.ident "rename", .punct '=' false, .literal "\"kg\""]

/-- A flag of a field. -/
def nullFlag : List Token := [.ident "skip_null"]

theorem isItem_ownKey : IsItem (.field "mass") ownKey [.directive (.rename "kg")] := ⟨_, rfl⟩

theorem isItem_nullFlag : IsItem (.field "mass") nullFlag [.directive .skipNull] := ⟨_, rfl⟩

/-- Two items of a field, in one attribute and in two; with an option of types between them; and
with the value of the first one missing. -/
theorem folds_attributes_crate :
    let together := crate [codify (ownKey ++ .punct ',' false :: nullFlag)]
    let apart := crate [codify (ownKey ++ [.punct ',' true]), codify nullFlag]
    let withOption := crate [codify (ownKey ++ .punct ',' false ::
      ([.ident "no_serde"] ++ .punct ',' false :: nullFlag))]
    let refused := crate [codify nullFlag,
      codify (nullFlag ++ .punct ',' false :: (ownKey.take 2 ++ .punct ',' false :: nullFlag))]
    together.body.shape.isStruct = true ∧
    (apart.lower = together.lower ∧
      ∀ config, expand apart config = expand together config) ∧
    (withOption.lower.decl = together.lower.decl ∧
      withOption.lower.flaws.map (·.code) = ["E006"]) ∧
    refused.lower.decl.fields.map (·.directives) = [[.skipNull, .skipNull]] ∧
    ∀ config, expand refused config =
      .ok (notices [.of (.internal "expected an expression") (.field "mass")]) := by
  intro together apart withOption refused
  refine ⟨rfl, ?_, ⟨?_, by decide⟩, by decide, ?_⟩
  · have items : ∀ chunk ∈ [ownKey, nullFlag], ∃ effects, IsItem (.field "mass") chunk effects :=
      List.forall_mem_cons.mpr ⟨⟨_, isItem_ownKey⟩, List.forall_mem_singleton.mpr
        ⟨_, isItem_nullFlag⟩⟩
    have grouped : Grouped ([ownKey, nullFlag] ++ [])
        [codify (ownKey ++ .punct ',' false :: nullFlag)] :=
      .group _ rfl rfl (.more ownKey false (.last nullFlag)) .nothing
    have regrouped : Grouped ([ownKey] ++ ([nullFlag] ++ []))
        [codify (ownKey ++ [.punct ',' true]), codify nullFlag] :=
      .group _ rfl rfl (.more ownKey true .nothing) (.group _ rfl rfl (.last nullFlag) .nothing)
    exact (folds_attributes rfl).regrouped apart
      (itemRewritten_crate (.regroup items grouped regrouped .nothing))
  · have option : IsOption [.ident "no_serde"] "no_serde" := ⟨_, _, _, rfl, rfl, rfl, rfl⟩
    have gains : WithOptions "mass" (ownKey ++ .punct ',' false :: nullFlag) _ _ :=
      .item isItem_ownKey false (.option option false (.same nullFlag))
    have rewritten : Rewritten (.field "mass") _ _ _ :=
      .within rfl (codify _) (codify _) rfl rfl rfl rfl gains .nothing
    exact ((folds_attributes rfl).options withOption _ (itemRewritten_crate rewritten)).decl
  · intro config
    have isRefused : Refused refused := .inr ⟨_, List.mem_cons_self, _,
      List.mem_cons_of_mem _ List.mem_cons_self, rfl, rfl⟩
    exact ((folds_attributes rfl).refused isRefused config).1

end Expansion
end RecordCoding
