import RecordCoding.Text.CaseMapping

/-!
# Case styles of wire keys

An identifier is cut into lowercase words and joined again in the requested style. Underscores
and hyphens separate words and disappear; an uppercase letter directly after a lowercase letter
also begins a new word. Which letters are uppercase or lowercase and how they are mapped is a
parameter, `LetterRules`, so that the cutting can be studied apart from Unicode; `unicodeLetters`
is the instance in use.
-/

namespace RecordCoding

/-- What a tokenizer has to know about letters. -/
structure LetterRules where
  isUpper : Char → Bool
  isLower : Char → Bool
  lower : Char → List Char
  upper : Char → List Char

/-- The letters of Unicode with their full case mappings. -/
def unicodeLetters : LetterRules where
  isUpper := Text.isUppercase
  isLower := Text.isLowercase
  lower := Text.toLower
  upper := Text.toUpper

/-- The characters between words. -/
def isWordSeparator (c : Char) : Bool := c == '_' || c == '-'

namespace LetterRules

/-- A finished word; nothing when it is empty. -/
def flush (word : List Char) : List (List Char) :=
  if word.isEmpty then [] else [word]

/-- Cuts the rest of an identifier. `word` is the lowercase word being collected, `previous` the
given character before the rest, absent at the start and after a separator. -/
def wordsFrom (rules : LetterRules) : List Char → Option Char → List Char → List (List Char)
  | word, _, [] => flush word
  | word, previous, c :: rest =>
    if isWordSeparator c then
      flush word ++ wordsFrom rules [] none rest
    else if rules.isUpper c && previous.any rules.isLower then
      flush word ++ wordsFrom rules (rules.lower c) (some c) rest
    else
      wordsFrom rules (word ++ rules.lower c) (some c) rest

/-- The lowercase words of an identifier. -/
def words (rules : LetterRules) (identifier : List Char) : List (List Char) :=
  rules.wordsFrom [] none identifier

/-- A word in capitals. -/
def shout (rules : LetterRules) (word : List Char) : List Char :=
  word.flatMap rules.upper

/-- A word with a capital first letter. -/
def capitalize (rules : LetterRules) : List Char → List Char
  | [] => []
  | c :: rest => rules.upper c ++ rest

end LetterRules

/-- How the letters of the words are written. -/
inductive Casing where
  | lower
  | upper
  | capitalized
  /-- The first word in lowercase, the others capitalized. -/
  | camel
  deriving Repr, DecidableEq

/-- A word at position `index` in a casing. -/
def Casing.write (rules : LetterRules) (casing : Casing) (index : Nat) (word : List Char) :
    List Char :=
  match casing with
  | .lower => word
  | .upper => rules.shout word
  | .capitalized => rules.capitalize word
  | .camel => if index = 0 then word else rules.capitalize word

/-- A naming convention for keys. -/
inductive CaseStyle where
  | camel
  | flat
  | pascal
  | upper
  | snake
  | camelSnake
  | pascalSnake
  | screamingSnake
  | kebab
  | camelKebab
  | pascalKebab
  | screamingKebab
  | noChange
  deriving Repr, DecidableEq

namespace CaseStyle

/-- Every style, in the order in which they are listed to users. -/
def all : List CaseStyle :=
  [camel, flat, pascal, upper, snake, camelSnake, pascalSnake, screamingSnake, kebab, camelKebab,
    pascalKebab, screamingKebab, noChange]

/-- The tag that names a style in a declaration. -/
def tag : CaseStyle → String
  | camel => "camelCase"
  | flat => "flatCase"
  | pascal => "PascalCase"
  | upper => "UPPERCASE"
  | snake => "snake_case"
  | camelSnake => "camel_Snake_Case"
  | pascalSnake => "Pascal_Snake_Case"
  | screamingSnake => "SCREAMING_SNAKE_CASE"
  | kebab => "kebab-case"
  | camelKebab => "camel-Kebab-Case"
  | pascalKebab => "Pascal-Kebab-Case"
  | screamingKebab => "SCREAMING-KEBAB-CASE"
  | noChange => "noChange"

/-- Every tag, separated by commas. -/
def tagList : String := ", ".intercalate (all.map tag)

/-- The style a tag names. -/
def ofTag? (text : String) : Option CaseStyle := all.find? (·.tag == text)

/-- What is said about a tag that names no style. -/
def unknownMessage (text : String) : String := "unknown case style `" ++ text ++ "`"

/-- The separator and casing of a style; `noChange` has neither. -/
def layout : CaseStyle → Option (List Char × Casing)
  | camel => some ([], .camel)
  | flat => some ([], .lower)
  | pascal => some ([], .capitalized)
  | upper => some ([], .upper)
  | snake => some (['_'], .lower)
  | camelSnake => some (['_'], .camel)
  | pascalSnake => some (['_'], .capitalized)
  | screamingSnake => some (['_'], .upper)
  | kebab => some (['-'], .lower)
  | camelKebab => some (['-'], .camel)
  | pascalKebab => some (['-'], .capitalized)
  | screamingKebab => some (['-'], .upper)
  | noChange => none

/-- An identifier, given by its characters, in a style. -/
def applyChars (rules : LetterRules) (style : CaseStyle) (identifier : List Char) : List Char :=
  match style.layout with
  | none => identifier
  | some (separator, casing) =>
    separator.intercalate ((rules.words identifier).mapIdx (casing.write rules))

/-- An identifier in a style. -/
def apply (style : CaseStyle) (identifier : String) : String :=
  String.ofList (style.applyChars unicodeLetters identifier.toList)

end CaseStyle

/-- The lowercase words of an identifier, by Unicode's rules. -/
def identifierWords (identifier : String) : List String :=
  (unicodeLetters.words identifier.toList).map String.ofList

end RecordCoding
