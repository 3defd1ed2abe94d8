import RecordCoding.Expansion.Phrase
import RecordCoding.Source.Item

/-!
# Implementations

What the implementations of a type have in common: their heading, the conditions on the type's
parameters, and how a key table, its keys and the result of a routine are written.
-/

namespace RecordCoding.Expansion

open Source

/-- The implementation of an interface for a type, under conditions on its parameters. -/
def implementation (item : TypeItem) (generics : Generics) (interface : List Token)
    (body : List Token) : List Token :=
  attribution (phrase "automatically_derived") ++ phrase "impl" ++ generics.introduction ++
    interface ++ phrase "for" ++ [.ident item.name] ++ item.generics.application ++
    generics.conditions ++ [braces body]

/-- The parameters of a type, with one more condition on every type among them. -/
def requireOfTypes (generics : Generics) (bound : List Token) : Generics :=
  generics.typeNames.foldl (fun g name => g.require (name ++ phrase ":" ++ bound)) generics

/-- Conditions on types leave the parameters as they are. -/
theorem parameters_requireOfTypes (generics : Generics) (bound : List Token) :
    (requireOfTypes generics bound).parameters = generics.parameters := by
  unfold requireOfTypes
  generalize generics.typeNames = names
  induction names generalizing generics with
  | nil => rfl
  | cons name rest ih => rw [List.foldl_cons, ih]; rfl

/-- A container for the keys of a table. -/
def containerOf (table : String) : List Token :=
  phrase "container :: <" ++ [.ident table] ++ phrase ">" ++ [parens []]

/-- A key of a table. -/
def keyOf (table identifier : String) : List Token :=
  [.ident table] ++ phrase "::" ++ [.ident identifier]

/-- The type of a result. -/
def resultOf (type : List Token) : List Token :=
  phrase ":: core :: result :: Result <" ++ type ++ phrase ", :: codify :: CodingError >"

/-- A result that is no failure. -/
def succeedWith (content : List Token) : List Token :=
  phrase ":: core :: result :: Result :: Ok" ++ [parens content]

end RecordCoding.Expansion
