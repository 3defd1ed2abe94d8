import RecordCoding.Source.Cursor
import RecordCoding.Source.Item

/-!
# The recursion of the grammar

Types, expressions, patterns, statements and items contain one another. Each part of the grammar
is a reader that is given the readers of all parts for what it contains; one more level of depth
puts the parts around the readers of the level below.
-/

namespace RecordCoding.Source

/-- What has to be known about an expression that was read. -/
inductive ExpressionForm where
  /-- A literal, with its token where it is a single one. -/
  | literal (text : Option String)
  | range
  /-- A comparison, which no second one may follow. -/
  | comparison
  /-- An expression that ends itself, so that no semicolon or comma is needed behind it. -/
  | block
  /-- An invocation of a rule, and whether its arguments are in braces. -/
  | invocation (isBraced : Bool)
  /-- An expression that is kept as it stands in the source. -/
  | verbatim
  | other
  deriving Repr, DecidableEq

/-- An expression that was read, with its tokens. -/
structure Expression where
  form : ExpressionForm
  tokens : List Token
  deriving Repr

/-- Tokens in parentheses. -/
def parenthesized (tokens : List Token) : List Token := [.group .parenthesis tokens]

/-- An expression with attributes in front of it, in canonical form and as they stand in the
source. A range is put in parentheses, so that they do not belong to its start alone. -/
def Expression.attributed (e : Expression) (attrs source : List Token) : Expression :=
  match e.form with
  | .range => if attrs.isEmpty then e else ⟨.range, attrs ++ parenthesized e.tokens⟩
  | .verbatim => ⟨.verbatim, source ++ e.tokens⟩
  | form => ⟨form, attrs ++ e.tokens⟩

/-- Where an expression stands. -/
structure Place where
  /-- Whether a brace behind a path begins a struct literal. -/
  admitsStruct : Bool
  /-- Whether a block at the beginning is put in parentheses. -/
  groupsBlock : Bool
  deriving Repr, DecidableEq

namespace Place

/-- A place where nothing is mistaken. -/
def free : Place := ⟨true, false⟩

/-- The place in front of a block, which a brace begins. -/
def condition : Place := ⟨false, false⟩

/-- The place of an operand that has to follow. -/
def behindOperator (place : Place) : Place := ⟨place.admitsStruct, false⟩

/-- The place of an operand that could be missing: in front of a block it must not look like the
block. -/
def behindOptional (place : Place) : Place := ⟨place.admitsStruct, !place.admitsStruct⟩

/-- The place of the value of a loop that is left: braces are part of it, but where a block
follows it must not look like the block. -/
def behindBreak (place : Place) : Place := ⟨true, !place.admitsStruct⟩

end Place

/-- What has to be known about a pattern that was read. -/
inductive PatternForm where
  /-- A range, and whether one of its ends is left open. -/
  | range (isOpen : Bool)
  /-- A block that is run early, and the number of tokens in the attributes at its beginning. -/
  | block (attributes : Nat)
  /-- A pattern that is kept as it stands in the source. -/
  | verbatim
  | other
  deriving Repr, DecidableEq

/-- The tokens of a pattern with given attributes. A range is put in parentheses, the attributes of
a block are given up for those in front of it, and what is kept as it stands has no room for any. -/
def PatternForm.attributed (form : PatternForm) (attrs pattern : List Token) : List Token :=
  match form with
  | .range _ => attrs ++ if attrs.isEmpty then pattern else parenthesized pattern
  | .block attributes => attrs ++ pattern.map fun
    | .group delimiter content => .group delimiter (content.drop attributes)
    | token => token
  | .verbatim => pattern
  | .other => attrs ++ pattern

/-- What a bound is. -/
inductive BoundForm where
  | lifetime
  | trait
  /-- A list of the parameters that a type captures. -/
  | capture
  deriving Repr, DecidableEq

/-- Where bounds stand decides which of them are admitted. -/
structure BoundRules where
  admitsCapture : Bool
  admitsConst : Bool
  deriving Repr, DecidableEq

/-- Bounds as a type. -/
def BoundRules.ofType : BoundRules := ⟨false, false⟩

/-- Bounds of a type that is only known by them. -/
def BoundRules.ofOpaqueType : BoundRules := ⟨true, true⟩

/-- Bounds of a parameter. -/
def BoundRules.ofParameter : BoundRules := ⟨false, true⟩

/-- How strongly an operator binds. -/
inductive Precedence where
  | lowest
  | assign
  | range
  | disjunction
  | conjunction
  | comparison
  | bitOr
  | bitXor
  | bitAnd
  | shift
  | sum
  | product
  | cast
  deriving Repr, DecidableEq

/-- The position of a precedence in their order. -/
def Precedence.rank : Precedence → Nat
  | lowest => 0
  | assign => 1
  | range => 2
  | disjunction => 3
  | conjunction => 4
  | comparison => 5
  | bitOr => 6
  | bitXor => 7
  | bitAnd => 8
  | shift => 9
  | sum => 10
  | product => 11
  | cast => 12

/-- The readers of the parts that contain one another. -/
structure Grammar where
  /-- A type; the flag allows bounds joined by a plus sign. -/
  type : Bool → Parser TypeExpr
  bound : BoundRules → Parser BoundForm
  /-- An expression, which is not written down. -/
  expression : Place → Parser Expression
  /-- An operand, with the operators in front of it and the calls behind it; it is not written
  down. -/
  operand : Place → Parser Expression
  /-- An expression at the beginning of a statement or behind an arrow; it is not written down. -/
  leading : Parser Expression
  /-- An operand with what follows it, as long as it binds at least as strongly as given; it is not
  written down. -/
  operators : Place → Precedence → Expression → Parser Expression
  /-- A pattern without alternatives. -/
  pattern : Parser PatternForm
  /-- The statements of a block, up to its end. -/
  statements : Parser Unit
  item : Parser Item
  /-- Named fields in braces. -/
  fields : Parser (List SourceField)
  /-- One tree of imported names, and whether one in it begins at the root; the flag allows that. -/
  imports : Bool → Parser Bool

/-- A grammar that accepts nothing. -/
def Grammar.nothing : Grammar where
  type _ := throw (.leftover none)
  bound _ := throw (.leftover none)
  expression _ := throw (.leftover none)
  operand _ := throw (.leftover none)
  leading := throw (.leftover none)
  operators _ _ _ := throw (.leftover none)
  pattern := throw (.leftover none)
  statements := throw (.leftover none)
  item := throw (.leftover none)
  fields := throw (.leftover none)
  imports _ := throw (.leftover none)

namespace Grammar

open Source.Parser

/-- An expression that is written down. -/
def written (p : Parser Expression) : Parser ExpressionForm := do
  let e ← p
  emit e.tokens
  pure e.form

/-- An expression where nothing is mistaken. -/
def value (g : Grammar) : Parser ExpressionForm := written (g.expression .free)

/-- An expression in front of a block. -/
def subject (g : Grammar) : Parser ExpressionForm := written (g.expression .condition)

end Grammar

end RecordCoding.Source
