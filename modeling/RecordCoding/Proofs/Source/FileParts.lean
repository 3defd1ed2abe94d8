import RecordCoding.Source.Survey

/-!
# The parts of a file

What a survey finds is found item by item, in the order of the file, and modules written in place
do not count: only the items in them do, however deep they are. So the survey of a file is described
by the items it comes to once all modules are opened up, and putting items into a module of their
own changes nothing.
-/

namespace RecordCoding.Source

/-! ## Items with their modules opened up -/

mutual

/-- The items that an item comes to: those in it, if it is a module written in place. -/
def Item.opened : Item → List Item
  | .module items => openedItems items
  | .type declared => [.type declared]
  | .function declared => [.function declared]
  | .implementation methods => [.implementation methods]
  | .other => [.other]

/-- The items of a file, with the modules written in place opened up at every depth. -/
def openedItems : List Item → List Item
  | [] => []
  | first :: rest => first.opened ++ openedItems rest

end

/-- Items, and the same items where some that stand together, at whatever depth, were put into a
module of their own. -/
inductive Wrapped : List Item → List Item → Prop
  | here (before run after : List Item) :
    Wrapped (before ++ run ++ after) (before ++ .module run :: after)
  | within (before after : List Item) {items items' : List Item} (wrapped : Wrapped items items') :
    Wrapped (before ++ .module items :: after) (before ++ .module items' :: after)

/-! ## What is found in an item -/

/-- The type that an item declares. -/
def Item.declared? : Item → Option TypeItem
  | .type declared => some declared
  | .function _ | .implementation _ | .module _ | .other => none

/-- Whether a type has to do with generation: it asks for it, or it carries directives. The
directives on an enumeration do not count, nor do those on the fields of a union. -/
def TypeItem.isConcerned (item : TypeItem) : Bool :=
  asksForGeneration item.attrs ||
    match item.body with
    | .named fields | .tuple fields =>
      hasDirectives item.attrs || fields.any (hasDirectives ·.attrs)
    | .unit | .union => hasDirectives item.attrs
    | .enumeration _ => false

/-- A type as it is found in a file. -/
def TypeItem.surveyed (item : TypeItem) : SurveyedType := ⟨item, asksForGeneration item.attrs⟩

/-- An item that cannot take directives, with the attributes they would be misplaced in. -/
structure Carrier where
  owner : String
  attrs : List Attribute

/-- The carriers in the declaration of an enumeration: its variants, and the enumeration itself
unless it asks for generation. -/
def TypeItem.carriers (item : TypeItem) : List Carrier :=
  match item.body with
  | .enumeration variants =>
    (if asksForGeneration item.attrs then [] else [⟨item.name, item.attrs⟩]) ++
      variants.map fun variant => ⟨item.name ++ "::" ++ variant.name, variant.attrs⟩
  | .named _ | .tuple _ | .unit | .union => []

/-- The carriers in an item that is no module: enumerations, variants, functions and methods. -/
def Item.carriers : Item → List Carrier
  | .type declared => declared.carriers
  | .function declared => [⟨declared.name, declared.attrs⟩]
  | .implementation methods => methods.map fun method => ⟨method.name, method.attrs⟩
  | .module _ | .other => []

/-- The name of an enumeration. -/
def Item.enumeration? : Item → Option String
  | .type ⟨_, _, name, _, .enumeration _⟩ => some name
  | _ => none

/-- The misplaced directives of a carrier, one for every key that can be read. -/
def Carrier.misplaced (carrier : Carrier) : List Misplacement :=
  misplacements carrier.owner carrier.attrs

/-- What is found in items none of which is a module. -/
def foundIn (items : List Item) : Survey where
  types := ((items.filterMap Item.declared?).filter TypeItem.isConcerned).map TypeItem.surveyed
  misplaced := (items.flatMap Item.carriers).flatMap Carrier.misplaced
  enumerations := items.filterMap Item.enumeration?

theorem foundIn_append (first second : List Item) :
    foundIn (first ++ second) = foundIn first ++ foundIn second := by
  simp [foundIn, Survey.append_eq]

/-- What the declaration of a type contributes is what is found in it. -/
theorem surveyDeclared_eq (item : TypeItem) : surveyDeclared item = foundIn [.type item] := by
  obtain ⟨attrs, visibility, name, generics, body⟩ := item
  cases body with
  | enumeration variants =>
    cases derives : asksForGeneration attrs <;>
      simp [surveyDeclared, surveyEnumeration, surveyVariants, foundIn, Item.declared?,
        Item.carriers, Item.enumeration?, TypeItem.isConcerned, TypeItem.surveyed,
        TypeItem.carriers, Carrier.misplaced, derives, List.flatMap_map]
  | named _ | tuple _ | unit | union =>
    simp [surveyDeclared, surveyType, foundIn, Item.declared?, Item.carriers, Item.enumeration?,
      TypeItem.isConcerned, TypeItem.isAnnotated, TypeItem.carriers, TypeBody.fields,
      List.filter_cons]
    split <;> rfl

mutual

/-- What an item contributes is what is found in the items it comes to. -/
theorem surveyItem_eq : ∀ item : Item, surveyItem item = foundIn item.opened
  | .module items => survey_eq items
  | .type declared => surveyDeclared_eq declared
  | .function declared => by
    simp [surveyItem, surveyCallable, foundIn, Item.opened, Item.declared?, Item.carriers,
      Item.enumeration?, Carrier.misplaced]
  | .implementation methods => by
    simp [surveyItem, foundIn, Item.opened, Item.declared?, Item.carriers, Item.enumeration?,
      Carrier.misplaced, List.flatMap_map]
    rfl
  | .other => rfl

/-- The survey of a file is what is found in its items, with all modules opened up. -/
theorem survey_eq : ∀ items : List Item, survey items = foundIn (openedItems items)
  | [] => rfl
  | first :: rest => by
    rw [survey, openedItems, foundIn_append, surveyItem_eq first, survey_eq rest]

end

/-! ## Modules of their own -/

theorem openedItems_append (first second : List Item) :
    openedItems (first ++ second) = openedItems first ++ openedItems second := by
  induction first with
  | nil => rfl
  | cons item rest ih => rw [List.cons_append, openedItems, openedItems, ih, List.append_assoc]

/-- Items in a module of their own come to the same items. -/
theorem Wrapped.openedItems_eq {items items' : List Item} (wrapped : Wrapped items items') :
    openedItems items' = openedItems items := by
  induction wrapped with
  | here before run after =>
    rw [openedItems_append, openedItems_append, openedItems_append, List.append_assoc]
    rfl
  | within before after _ ih =>
    rw [openedItems_append, openedItems_append, openedItems, openedItems, Item.opened, Item.opened,
      ih]

/-- The survey of a file does not change if items are put into a module of their own. -/
theorem Wrapped.survey_eq {items items' : List Item} (wrapped : Wrapped items items') :
    survey items' = survey items := by
  rw [Source.survey_eq, Source.survey_eq, wrapped.openedItems_eq]

end RecordCoding.Source
