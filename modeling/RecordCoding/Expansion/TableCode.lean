import RecordCoding.Expansion.Obstacle
import RecordCoding.KeyTable

/-!
# Code of a key table

A key table becomes an enumeration with one variant for every stored field, the wire key of every
variant, and the list of all variants.
-/

namespace RecordCoding.Expansion

open Source

/-- A variant of a key table, with its wire key. -/
structure KeyVariant where
  identifier : String
  key : String
  deriving Repr, DecidableEq

/-- The code of a key table. -/
structure TableCode where
  identifier : String
  variants : List KeyVariant
  deriving Repr, DecidableEq

/-- The variant for an entry of a key table. -/
def keyVariant (entry : KeyEntry) : Except Obstacle KeyVariant :=
  (fieldIdentifier entry.field).map fun identifier => ⟨identifier, entry.key⟩

namespace TableCode

/-- The code for a key table under an identifier. -/
def ofTable (identifier : String) (table : KeyTable) : Except Obstacle TableCode :=
  (table.entries.mapM keyVariant).map fun variants => ⟨identifier, variants⟩

/-- A variant of the enumeration that is being implemented. -/
def ofSelf (variant : KeyVariant) : List Token := phrase "Self ::" ++ [.ident variant.identifier]

/-- The enumeration. -/
def enumeration (item : TypeItem) (code : TableCode) : List Token :=
  attribution (phrase "doc =" ++ [literal (" Wire keys of [`" ++ item.name ++ "`].")]) ++
    attribution (phrase "allow" ++ [parens (phrase "non_camel_case_types")]) ++
    attribution (phrase "derive" ++
      [parens (phrase "Debug , Clone , Copy , PartialEq , Eq , Hash")]) ++
    item.visibility ++ phrase "enum" ++ [.ident code.identifier] ++
    [braces (code.variants.flatMap fun variant => [.ident variant.identifier, .punct ',' false])]

/-- The wire key of every variant. -/
def stringValue (code : TableCode) : List Token :=
  phrase "fn string_value" ++ [parens (phrase "& self")] ++ phrase "-> & 'static str" ++
    [braces (phrase "match * self" ++
      [braces (code.variants.flatMap fun variant =>
        ofSelf variant ++ phrase "=>" ++ [literal variant.key] ++ phrase ",")])]

/-- The list of all variants. -/
def allKeys (code : TableCode) : List Token :=
  phrase "fn all_keys" ++ [parens []] ++ phrase "-> & 'static" ++ [brackets (phrase "Self")] ++
    [braces (phrase "&" ++
      [brackets (code.variants.flatMap fun variant => ofSelf variant ++ phrase ",")])]

/-- The tokens of the code of a key table. -/
def tokens (item : TypeItem) (code : TableCode) : List Token :=
  code.enumeration item ++ attribution (phrase "automatically_derived") ++
    phrase "impl :: codify :: CodingKey for" ++ [.ident code.identifier] ++
    [braces (code.stringValue ++ code.allKeys)]

end TableCode

end RecordCoding.Expansion
