import RecordCoding.Configuration
import RecordCoding.Source.Lowering

/-!
# Survey of a file

What a file says about generation: the types that ask for it or carry directives, the directives
on items that cannot take them, and the names of all enumerations, among which there may be a key
table written by hand. Modules that are written in place are looked into as if their items stood
in the file itself.
-/

namespace RecordCoding.Source

/-- A type that was found in a file. -/
structure SurveyedType where
  item : TypeItem
  /-- Whether the type asks for generation. -/
  derives : Bool
  deriving Inhabited

/-- The name of a type as it is written. -/
def SurveyedType.name (type : SurveyedType) : String := type.item.name

/-- A directive on an item that cannot take it. -/
structure Misplacement where
  /-- The name of the item; that of a variant follows the name of its enumeration. -/
  owner : String
  diagnostic : Diagnostic
  deriving Repr, DecidableEq

/-- What was found in a file, in the order of the file. -/
structure Survey where
  types : List SurveyedType
  misplaced : List Misplacement
  /-- The names of the enumerations. -/
  enumerations : List String
  deriving Inhabited

namespace Survey

/-- Nothing was found. -/
def nothing : Survey := ⟨[], [], []⟩

/-- What was found in two parts of a file, one behind the other. -/
def followedBy (first second : Survey) : Survey :=
  ⟨first.types ++ second.types, first.misplaced ++ second.misplaced,
    first.enumerations ++ second.enumerations⟩

instance : Append Survey := ⟨followedBy⟩

@[simp] theorem types_append (first second : Survey) :
    (first ++ second).types = first.types ++ second.types := rfl

@[simp] theorem misplaced_append (first second : Survey) :
    (first ++ second).misplaced = first.misplaced ++ second.misplaced := rfl

@[simp] theorem enumerations_append (first second : Survey) :
    (first ++ second).enumerations = first.enumerations ++ second.enumerations := rfl

@[simp] theorem nothing_append (survey : Survey) : nothing ++ survey = survey := rfl

theorem append_eq (first second : Survey) :
    first ++ second = ⟨first.types ++ second.types, first.misplaced ++ second.misplaced,
      first.enumerations ++ second.enumerations⟩ := rfl

@[simp] theorem append_nothing (survey : Survey) : survey ++ nothing = survey := by
  simp [append_eq, nothing]

/-- Parts of a file may be grouped in any way. -/
theorem append_assoc (first second third : Survey) :
    first ++ second ++ third = first ++ (second ++ third) := by
  simp [append_eq]

/-- The types that ask for generation. -/
def derived (survey : Survey) : List SurveyedType := survey.types.filter (·.derives)

end Survey

/-- The misplacements of the directives among attributes. -/
def misplacements (owner : String) (attrs : List Attribute) : List Misplacement :=
  (directiveKeys attrs).map fun key => ⟨owner, .of (.fieldOrStructOnly key) (.onType key)⟩

/-- Whether a type or one of its fields carries directives. The fields of unions do not count. -/
def TypeItem.isAnnotated (item : TypeItem) : Bool :=
  hasDirectives item.attrs || item.body.fields.any fun field => hasDirectives field.attrs

/-- A type as part of a survey; one that has nothing to do with generation is left out. -/
def surveyType (item : TypeItem) : List SurveyedType :=
  let derives := asksForGeneration item.attrs
  if derives || item.isAnnotated then [⟨item, derives⟩] else []

/-- What a function contributes to a survey. -/
def surveyCallable (callable : Callable) : List Misplacement :=
  misplacements callable.name callable.attrs

/-- What the variants of an enumeration contribute to a survey. -/
def surveyVariants (owner : String) (variants : List Variant) : List Misplacement :=
  variants.flatMap fun variant => misplacements (owner ++ "::" ++ variant.name) variant.attrs

/-- What an enumeration contributes to a survey: one that asks for generation is a type, whose
directives are dealt with there; on all others directives are misplaced. -/
def surveyEnumeration (item : TypeItem) (variants : List Variant) : Survey :=
  let derives := asksForGeneration item.attrs
  { types := if derives then [⟨item, derives⟩] else []
    misplaced := (if derives then [] else misplacements item.name item.attrs) ++
      surveyVariants item.name variants
    enumerations := [item.name] }

/-- What the declaration of a type contributes to a survey. -/
def surveyDeclared (item : TypeItem) : Survey :=
  match item.body with
  | .enumeration variants => surveyEnumeration item variants
  | .named _ | .tuple _ | .unit | .union => ⟨surveyType item, [], []⟩

mutual

/-- What an item contributes to a survey. -/
def surveyItem : Item → Survey
  | .type declared => surveyDeclared declared
  | .function declared => ⟨[], surveyCallable declared, []⟩
  | .implementation methods => ⟨[], methods.flatMap surveyCallable, []⟩
  | .module items => survey items
  | .other => .nothing

/-- The survey of the items of a file. -/
def survey : List Item → Survey
  | [] => .nothing
  | first :: rest => surveyItem first ++ survey rest

end

/-- The survey of items is that of each part in turn. -/
@[simp] theorem survey_append (first second : List Item) :
    survey (first ++ second) = survey first ++ survey second := by
  induction first with
  | nil => simp [survey]
  | cons item rest ih => simp [survey, ih, Survey.append_assoc]

/-! ## Types within their file -/

/-- A lowered type with what the rest of its file means for it. -/
structure Situated where
  lowered : Lowered
  /-- Why the name of the key table is not free. -/
  conflict : Option Diagnostic
  deriving Repr, DecidableEq

namespace Situated

/-- Whether generation does not start. -/
def isBlocked (type : Situated) : Bool := type.conflict.isSome || type.lowered.isFatal

/-- What was found wrong before generation starts. -/
def flaws (type : Situated) : List Diagnostic := type.lowered.flaws ++ type.conflict.toList

/-- A type without a conflict has only the flaws of its attributes. -/
theorem flaws_of_conflict_eq_none {type : Situated} (h : type.conflict = none) :
    type.flaws = type.lowered.flaws := by
  simp [flaws, h]

end Situated

/-- A type of a file, lowered. The name reserved for the key table of a type that asks for
generation is in conflict with an enumeration, unless the type declares its table itself. -/
def Survey.situate (survey : Survey) (type : SurveyedType) (config : Configuration) : Situated :=
  let lowered := type.item.lower
  let decl := { lowered.decl with derives := type.derives }
  let name := config.tableName decl.name
  let isTaken := decl.derives && !decl.handWritten.keyTable && survey.enumerations.contains name
  { lowered := { lowered with decl := decl }
    conflict := if isTaken then some (.onType (.keyTableExists name)) else none }

end RecordCoding.Source
