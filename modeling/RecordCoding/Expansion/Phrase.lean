import RecordCoding.Source.Token
import RecordCoding.Text.Quoted

/-!
# Phrases of generated code

The fixed parts of generated code are written as phrases, whose words are separated by single
spaces: names, lifetimes, and pieces of punctuation. Groups and literals are put together from
phrases explicitly.
-/

namespace RecordCoding.Expansion

open Source

/-- The words of a phrase, given the beginning of the first in reverse. -/
def phraseWords (begun : List Char) : List Char → List (List Char)
  | [] => [begun.reverse]
  | c :: rest =>
    if c = ' ' then begun.reverse :: phraseWords [] rest else phraseWords (c :: begun) rest

/-- The tokens of one word. -/
def wordTokens : List Char → List Token
  | [] => []
  | '\'' :: name => [.punct '\'' true, .ident (String.ofList name)]
  | c :: rest =>
    if c.isAlpha || c = '_' then [.ident (String.ofList (c :: rest))]
    else Token.ofPunctuation (c :: rest)

/-- The tokens of a phrase. -/
def phrase (text : String) : List Token := (phraseWords [] text.toList).flatMap wordTokens

/-- Tokens in parentheses. -/
def parens (content : List Token) : Token := .group .parenthesis content

/-- Tokens in square brackets. -/
def brackets (content : List Token) : Token := .group .bracket content

/-- Tokens in curly braces. -/
def braces (content : List Token) : Token := .group .brace content

/-- A text as a string literal. -/
def literal (text : String) : Token := .literal (Text.quoteLiteral text)

/-- An attribute in front of an item. -/
def attribution (content : List Token) : List Token := [.punct '#' false, brackets content]

end RecordCoding.Expansion
