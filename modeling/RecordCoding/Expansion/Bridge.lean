import RecordCoding.Expansion.Implementation

/-!
# The bridge to the serialization framework

Two implementations by which values of a type can stand inside values of other types: they hand
over to the type's own routines, whether these are generated or written by hand.
-/

namespace RecordCoding.Expansion

open Source

/-- The lifetime that the bridge introduces. -/
def bridgeLifetime : String := "__de"

/-- The parameters of a type, on the condition that the type itself implements an interface. -/
def requireOfSelf (item : TypeItem) (interface : List Token) : Generics :=
  item.generics.require ([.ident item.name] ++ item.generics.application ++ phrase ":" ++ interface)

/-- A function of the bridge that is open in one type; it hands its arguments on. -/
def bridgeFunction (name open_ : String) (parameters result bound arguments : List Token) :
    List Token :=
  phrase "fn" ++ [.ident name] ++ phrase "<" ++ [.ident open_] ++ phrase ">" ++
    [parens parameters] ++ phrase "-> :: core :: result :: Result <" ++ result ++ phrase "," ++
    [.ident open_] ++ phrase ":: Error > where" ++ [.ident open_] ++
    phrase ": :: codify :: __private :: serde ::" ++ bound ++ phrase "," ++
    [braces (phrase ":: codify :: __private ::" ++ [.ident name, parens arguments])]

/-- The implementation for writing. -/
def writingBridge (item : TypeItem) : List Token :=
  implementation item (requireOfSelf item (phrase ":: codify :: Encodable"))
    (phrase ":: codify :: __private :: serde :: Serialize")
    (bridgeFunction "serialize" "__S" (phrase "& self , serializer : __S ,") (phrase "__S :: Ok")
      (phrase "Serializer") (phrase "self , serializer"))

/-- The implementation for reading. -/
def readingBridge (item : TypeItem) : List Token :=
  implementation item
    ((requireOfSelf item (phrase ":: codify :: Decodable")).withLifetime bridgeLifetime)
    (phrase ":: codify :: __private :: serde :: Deserialize < '__de >")
    (bridgeFunction "deserialize" "__D" (phrase "deserializer : __D") (phrase "Self")
      (phrase "Deserializer < '__de >") (phrase "deserializer"))

/-- The tokens of the bridge. -/
def bridge (item : TypeItem) : List Token := writingBridge item ++ readingBridge item

end RecordCoding.Expansion
