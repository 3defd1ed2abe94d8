import RecordCoding.Source.TypeExpr

/-!
# Items of source text

The declarations of a source file, as far as generation looks into them: types with their
attributes, generics and fields; functions and methods with their attributes; modules with their
items.
-/

namespace RecordCoding.Source

/-- What is written behind the path of an attribute. -/
inductive AttributeBody where
  | nothing
  | arguments (tokens : List Token)
  | value
  deriving Repr, Inhabited

/-- An attribute. -/
structure Attribute where
  /-- The path, where it is a single identifier. -/
  name : Option String
  body : AttributeBody
  tokens : List Token
  deriving Repr, Inhabited

/-- The three kinds of generic parameters. -/
inductive ParameterKind where
  | lifetime
  | type
  | const
  deriving Repr, DecidableEq, Inhabited

/-- A generic parameter, without its default. -/
structure Parameter where
  kind : ParameterKind
  attrs : List Token
  /-- The name; that of a lifetime has two tokens. -/
  name : List Token
  /-- What is behind the colon, if there is anything; the type of a constant. -/
  bounds : List Token
  /-- Whether a comma follows. -/
  hasComma : Bool
  deriving Repr, Inhabited

/-- A condition on generic parameters. -/
structure Predicate where
  tokens : List Token
  /-- Whether a comma follows. -/
  hasComma : Bool
  deriving Repr, Inhabited

/-- The generic parameters of an item, and the conditions on them. -/
structure Generics where
  parameters : List Parameter
  predicates : List Predicate
  deriving Repr, Inhabited

/-- A field of a type. -/
structure SourceField where
  attrs : List Attribute
  name : Option String
  type : TypeExpr
  deriving Inhabited

/-- A variant of an enumeration. -/
structure Variant where
  attrs : List Attribute
  name : String
  deriving Inhabited

/-- What a type consists of. -/
inductive TypeBody where
  | named (fields : List SourceField)
  | tuple (fields : List SourceField)
  | unit
  | enumeration (variants : List Variant)
  | union
  deriving Inhabited

/-- The declaration of a type. -/
structure TypeItem where
  attrs : List Attribute
  visibility : List Token
  name : String
  generics : Generics
  body : TypeBody
  deriving Inhabited

/-- A function or method. -/
structure Callable where
  attrs : List Attribute
  name : String
  deriving Inhabited

/-- An item of a file. -/
inductive Item where
  | type (declared : TypeItem)
  | function (declared : Callable)
  /-- The methods of an implementation. -/
  | implementation (methods : List Callable)
  /-- The items of a module that is written in place. -/
  | module (items : List Item)
  | other
  deriving Inhabited

namespace TypeBody

/-- The fields that are looked into. -/
def fields : TypeBody → List SourceField
  | named fields | tuple fields => fields
  | unit | enumeration _ | union => []

/-- The shape of a type. -/
def shape : TypeBody → Shape
  | named _ => .record
  | tuple _ => .tuple
  | unit => .unit
  | enumeration _ => .enumeration
  | union => .union

end TypeBody

namespace Generics

/-- No parameters and no conditions. -/
def none : Generics := ⟨[], []⟩

/-- The parameters between angle brackets, lifetimes first; nothing where there are none. -/
def bracketed (text : Parameter → List Token) (generics : Generics) : List Token :=
  if generics.parameters.isEmpty then []
  else Entry.bracketed (generics.parameters.map fun p =>
    ⟨p.kind == .lifetime, text p, p.hasComma⟩)

/-- The parameters as an implementation introduces them. -/
def introduction (generics : Generics) : List Token :=
  generics.bracketed fun p =>
    p.attrs ++ (if p.kind == .const then [.ident "const"] else []) ++ p.name ++
      if p.bounds.isEmpty then [] else .punct ':' false :: p.bounds

/-- The parameters as arguments of the type they belong to. -/
def application (generics : Generics) : List Token := generics.bracketed (·.name)

/-- The conditions, with their keyword. -/
def conditions (generics : Generics) : List Token :=
  if generics.predicates.isEmpty then []
  else .ident "where" :: generics.predicates.flatMap fun p =>
    p.tokens ++ if p.hasComma then [.punct ',' false] else []

/-- One more condition at the end. -/
def require (generics : Generics) (condition : List Token) : Generics :=
  let closed := match generics.predicates.reverse with
    | [] => []
    | last :: before => ({ last with hasComma := true } :: before).reverse
  { generics with predicates := closed ++ [⟨condition, false⟩] }

/-- One more lifetime in front. -/
def withLifetime (generics : Generics) (name : String) : Generics :=
  { generics with
    parameters :=
      ⟨.lifetime, [], [.punct '\'' true, .ident name], [], !generics.parameters.isEmpty⟩ ::
        generics.parameters }

/-- The names of the type parameters. -/
def typeNames (generics : Generics) : List (List Token) :=
  (generics.parameters.filter (·.kind == .type)).map (·.name)

end Generics

end RecordCoding.Source
