import Mathlib.Data.List.Forall2
import RecordCoding.Proofs.Source.Lexemes
import RecordCoding.Source.TypeExpr

/-!
# The structure of types

A type is a plain path with generic arguments, or it is put together from other types: references,
pointers, tuples, arrays, functions, and bounds on what is only known by them. Every such tree has
tokens in canonical form; those of a source text are the same, but for punctuation that happens to
be joined there.
-/

namespace RecordCoding.Source

/-! ## Names and constants -/

/-- A plain path: names that are not reserved, in a row. -/
structure NamePath where
  /-- Whether it begins at the root. -/
  isAbsolute : Bool
  names : List String
  present : names ≠ []
  identifiers : ∀ n ∈ names, IsIdentifierText n
  named : ∀ n ∈ names, isName n = true

/-- The text of a plain path. -/
def NamePath.text (path : NamePath) : String := TypeExpr.pathText path.isAbsolute path.names

/-- The last name of a plain path. -/
def NamePath.last (path : NamePath) : String := path.names.getLast path.present

/-- The path that is a single name. -/
def NamePath.ofName (name : String) (identifier : IsIdentifierText name)
    (named : isName name = true) : NamePath where
  isAbsolute := false
  names := [name]
  present := List.cons_ne_nil name []
  identifiers := by simpa using identifier
  named := by simpa using named

/-- A lifetime, by the word behind its mark. -/
structure Lifetime where
  name : String
  word : IsWord name.toList

/-- A number in decimal digits. -/
structure Numeral where
  text : String
  present : text ≠ ""
  digits : ∀ c ∈ text.toList, c.isDigit = true

/-- A text in quotes in which nothing is escaped and no space stands. -/
structure Quotation where
  content : List Char
  plain : ∀ c ∈ content, c ∉ ['"', '\\', '\r', ' ']

/-- A constant among generic arguments, other than a name. -/
inductive Constant where
  | number (isNegative : Bool) (numeral : Numeral)
  | truth (value : Bool)

/-- The number of elements of an array. -/
inductive ArrayLength where
  | number (numeral : Numeral)
  | named (path : NamePath)

/-- How functions are called. -/
inductive Convention where
  | standard
  | foreign (name : Option Quotation)

/-! ## Trees -/

mutual

/-- A type by its structure. -/
inductive TypeTree where
  /-- A path, with generic arguments behind its last name: lifetimes and then all others. -/
  | named (path : NamePath) (lifetimes : List Lifetime) (arguments : List ArgumentTree)
  /-- A type in parentheses. -/
  | paren (inner : TypeTree)
  | tuple (elements : List TypeTree)
  | slice (element : TypeTree)
  | array (element : TypeTree) (length : ArrayLength)
  | pointer (isMutable : Bool) (target : TypeTree)
  | reference (lifetime : Option Lifetime) (isMutable : Bool) (target : TypeTree)
  | never
  | inferred
  /-- Functions, which may introduce lifetimes. -/
  | function (introduced : List Lifetime) (isUnsafe : Bool) (convention : Convention)
      (arguments : List TypeTree) (result : Option TypeTree)
  /-- Objects behind bounds, or a type that is only known by them. Lifetimes may stand in front of
  the first trait among the bounds. -/
  | bounded (isOpaque : Bool) (leading : List Lifetime) (first : TraitTree)
      (more : List BoundTree)

/-- A generic argument that is no lifetime. -/
inductive ArgumentTree where
  | type (type : TypeTree)
  | constant (constant : Constant)
  /-- The type that is meant by a name of a trait. -/
  | binding (name : String) (identifier : IsIdentifierText name) (named : isName name = true)
      (type : TypeTree)

/-- A bound that names a trait. -/
inductive TraitTree where
  | named (introduced : List Lifetime) (path : NamePath) (lifetimes : List Lifetime)
      (arguments : List ArgumentTree)
  | relaxed (path : NamePath)
  /-- A trait of functions with given arguments. -/
  | function (introduced : List Lifetime) (path : NamePath) (arguments : List TypeTree)
      (result : Option TypeTree)

/-- One bound. -/
inductive BoundTree where
  | lifetime (lifetime : Lifetime)
  | trait (trait : TraitTree)

end

namespace TypeTree

/-- Whether bounds are joined at the end of a type, so that it needs parentheses where no plus sign
is admitted. -/
def joinsBounds : TypeTree → Bool
  | bounded _ leading _ more => !leading.isEmpty || !more.isEmpty
  | _ => false

/-- A type as it stands where no plus sign is admitted. -/
def closed (type : TypeTree) : TypeTree := if type.joinsBounds then paren type else type

end TypeTree

/-! ## Canonical tokens -/

/-- The mark between the names of a path. -/
def colons : List Token := Token.ofPunctuation "::".toList

/-- Further names of a path. -/
def moreNames (names : List String) : List Token := names.flatMap fun n => colons ++ [.ident n]

/-- The names of a path in a row. -/
def nameTokens : List String → List Token
  | [] => []
  | first :: more => .ident first :: moreNames more

/-- The tokens of a plain path. -/
def NamePath.tokens (path : NamePath) : List Token :=
  (if path.isAbsolute then colons else []) ++ nameTokens path.names

/-- The tokens of a lifetime. -/
def Lifetime.tokens (lifetime : Lifetime) : List Token := [.punct '\'' true, .ident lifetime.name]

/-- The token of a number. -/
def Numeral.token (numeral : Numeral) : Token := .literal numeral.text

/-- The token of a text in quotes. -/
def Quotation.token (quotation : Quotation) : Token :=
  .literal (String.ofList ('"' :: quotation.content ++ ['"']))

/-- The tokens of a constant. -/
def Constant.tokens : Constant → List Token
  | number isNegative numeral =>
    (if isNegative then [.punct '-' false] else []) ++ [numeral.token]
  | truth value => [.ident (if value then "true" else "false")]

/-- The tokens of the length of an array. -/
def ArrayLength.tokens : ArrayLength → List Token
  | number numeral => [numeral.token]
  | named path => path.tokens

/-- The tokens of a calling convention. -/
def Convention.tokens : Convention → List Token
  | standard => []
  | foreign name => .ident "extern" :: (name.map (·.token)).toList

/-- Parts in a row, with a mark between two of them. -/
def separated (mark : Char) : List (List Token) → List Token
  | [] => []
  | first :: more => first ++ more.flatMap (.punct mark false :: ·)

/-- Generic arguments in angle brackets, if there are any. -/
def bracketed : List (List Token) → List Token
  | [] => []
  | first :: more => .punct '<' false :: separated ',' (first :: more) ++ [.punct '>' false]

/-- The lifetimes that a type introduces for itself, if it does. -/
def introducing : List Lifetime → List Token
  | [] => []
  | first :: more => .ident "for" :: bracketed ((first :: more).map (·.tokens))

/-- The elements of a tuple; a single one has a comma behind it. -/
def tupled : List (List Token) → List Token
  | [single] => single ++ [.punct ',' false]
  | elements => separated ',' elements

/-- Tokens in parentheses if there is need for them. -/
def enclosedIf (isNeeded : Bool) (tokens : List Token) : List Token :=
  if isNeeded then [.group .parenthesis tokens] else tokens

mutual

/-- The tokens of a type. -/
def TypeTree.tokens : TypeTree → List Token
  | .named path lifetimes arguments =>
    path.tokens ++ bracketed (lifetimes.map (·.tokens) ++ ArgumentTree.tokensOfEach arguments)
  | .paren inner => [.group .parenthesis inner.tokens]
  | .tuple elements => [.group .parenthesis (tupled (TypeTree.tokensOfEach elements))]
  | .slice element => [.group .bracket element.tokens]
  | .array element length =>
    [.group .bracket (element.tokens ++ .punct ';' false :: length.tokens)]
  | .pointer isMutable target =>
    .punct '*' false :: .ident (if isMutable then "mut" else "const") ::
      enclosedIf target.joinsBounds target.tokens
  | .reference lifetime isMutable target =>
    .punct '&' false :: ((lifetime.map (·.tokens)).getD [] ++
      ((if isMutable then [.ident "mut"] else []) ++ enclosedIf target.joinsBounds target.tokens))
  | .never => [.punct '!' false]
  | .inferred => [.ident "_"]
  | .function introduced isUnsafe convention arguments result =>
    introducing introduced ++ ((if isUnsafe then [.ident "unsafe"] else []) ++ (convention.tokens ++
      (.ident "fn" :: .group .parenthesis (separated ',' (TypeTree.tokensOfEach arguments)) ::
        TypeTree.tokensOfResult result)))
  | .bounded isOpaque leading first more =>
    .ident (if isOpaque then "impl" else "dyn") ::
      separated '+' (leading.map (·.tokens) ++ first.tokens :: BoundTree.tokensOfEach more)

/-- The tokens of each of several types. -/
def TypeTree.tokensOfEach : List TypeTree → List (List Token)
  | [] => []
  | first :: more => first.tokens :: TypeTree.tokensOfEach more

/-- The tokens of a result behind its arrow, if there is one. -/
def TypeTree.tokensOfResult : Option TypeTree → List Token
  | none => []
  | some type =>
    .punct '-' true :: .punct '>' false :: enclosedIf type.joinsBounds type.tokens

/-- The tokens of a generic argument. -/
def ArgumentTree.tokens : ArgumentTree → List Token
  | .type type => type.tokens
  | .constant constant => constant.tokens
  | .binding name _ _ type => .ident name :: .punct '=' false :: type.tokens

/-- The tokens of each of several generic arguments. -/
def ArgumentTree.tokensOfEach : List ArgumentTree → List (List Token)
  | [] => []
  | first :: more => first.tokens :: ArgumentTree.tokensOfEach more

/-- The tokens of a bound that names a trait. -/
def TraitTree.tokens : TraitTree → List Token
  | .named introduced path lifetimes arguments =>
    introducing introduced ++ (path.tokens ++
      bracketed (lifetimes.map (·.tokens) ++ ArgumentTree.tokensOfEach arguments))
  | .relaxed path => .punct '?' false :: path.tokens
  | .function introduced path arguments result =>
    introducing introduced ++ (path.tokens ++
      (.group .parenthesis (separated ',' (TypeTree.tokensOfEach arguments)) ::
        TypeTree.tokensOfResult result))

/-- The tokens of a bound. -/
def BoundTree.tokens : BoundTree → List Token
  | .lifetime lifetime => lifetime.tokens
  | .trait trait => trait.tokens

/-- The tokens of each of several bounds. -/
def BoundTree.tokensOfEach : List BoundTree → List (List Token)
  | [] => []
  | first :: more => first.tokens :: BoundTree.tokensOfEach more

end

@[simp] theorem TypeTree.tokensOfEach_eq (types : List TypeTree) :
    TypeTree.tokensOfEach types = types.map (·.tokens) := by
  induction types with
  | nil => rfl
  | cons first more ih => rw [TypeTree.tokensOfEach, ih, List.map_cons]

@[simp] theorem ArgumentTree.tokensOfEach_eq (arguments : List ArgumentTree) :
    ArgumentTree.tokensOfEach arguments = arguments.map (·.tokens) := by
  induction arguments with
  | nil => rfl
  | cons first more ih => rw [ArgumentTree.tokensOfEach, ih, List.map_cons]

@[simp] theorem BoundTree.tokensOfEach_eq (bounds : List BoundTree) :
    BoundTree.tokensOfEach bounds = bounds.map (·.tokens) := by
  induction bounds with
  | nil => rfl
  | cons first more ih => rw [BoundTree.tokensOfEach, ih, List.map_cons]

/-- Where no plus sign is admitted, a type stands in parentheses if there is need for them. -/
theorem TypeTree.tokens_closed (type : TypeTree) :
    type.closed.tokens = enclosedIf type.joinsBounds type.tokens := by
  rw [closed, enclosedIf]
  split
  · rw [tokens]
  · rfl

/-! ## What is read -/

mutual

/-- A type as it is read. -/
def TypeTree.expr : TypeTree → TypeExpr
  | .named path lifetimes arguments =>
    .path (TypeTree.tokens (.named path lifetimes arguments)) path.isAbsolute path.names
      (ArgumentTree.exprs arguments)
  | .paren inner => .paren (TypeTree.tokens (.paren inner)) inner.expr
  | .tuple elements => .other (TypeTree.tokens (.tuple elements))
  | .slice element => .other (TypeTree.tokens (.slice element))
  | .array element length => .other (TypeTree.tokens (.array element length))
  | .pointer isMutable target => .other (TypeTree.tokens (.pointer isMutable target))
  | .reference lifetime isMutable target =>
    .other (TypeTree.tokens (.reference lifetime isMutable target))
  | .never => .other (TypeTree.tokens .never)
  | .inferred => .other (TypeTree.tokens .inferred)
  | .function introduced isUnsafe convention arguments result =>
    .other (TypeTree.tokens (.function introduced isUnsafe convention arguments result))
  | .bounded isOpaque leading first more =>
    .other (TypeTree.tokens (.bounded isOpaque leading first more))

/-- The types among several generic arguments as they are read. -/
def ArgumentTree.exprs : List ArgumentTree → List TypeExpr
  | [] => []
  | .type type :: more => type.expr :: ArgumentTree.exprs more
  | .constant _ :: more => ArgumentTree.exprs more
  | .binding .. :: more => ArgumentTree.exprs more

end

@[simp] theorem TypeTree.tokens_expr (type : TypeTree) : type.expr.tokens = type.tokens := by
  cases type <;> rw [TypeTree.expr, TypeExpr.tokens]

/-! ## Parts -/

/-- The types that a generic argument contains. -/
def ArgumentTree.parts : ArgumentTree → List TypeTree
  | .type inner => [inner]
  | .constant _ => []
  | .binding name identifier named inner =>
    [.named (.ofName name identifier named) [] [], inner]

/-- The types that a bound contains which names a trait. -/
def TraitTree.parts : TraitTree → List TypeTree
  | .named _ _ _ arguments => arguments.flatMap (·.parts)
  | .relaxed _ => []
  | .function _ _ arguments result => arguments ++ result.toList.map (·.closed)

/-- The types that a bound contains. -/
def BoundTree.parts : BoundTree → List TypeTree
  | .lifetime _ => []
  | .trait named => named.parts

/-- The types that a type is put together from, as they stand in it. -/
def TypeTree.parts : TypeTree → List TypeTree
  | .named _ _ arguments => arguments.flatMap (·.parts)
  | .paren inner => [inner]
  | .tuple elements => elements
  | .slice element | .array element _ => [element]
  | .pointer _ target | .reference _ _ target => [target.closed]
  | .never | .inferred => []
  | .function _ _ _ arguments result => arguments ++ result.toList.map (·.closed)
  | .bounded _ _ first more => first.parts ++ more.flatMap (·.parts)

/-! ## Weights -/

/-- How many tokens a type has, with those in groups. -/
def TypeTree.weight (type : TypeTree) : Nat := Token.weightOfAll type.tokens

open Token

/-- Parts in a row weigh at least as much as each of them. -/
theorem weightOfAll_le_separated {mark : Char} {parts : List (List Token)} {part : List Token}
    (member : part ∈ parts) : weightOfAll part ≤ weightOfAll (separated mark parts) := by
  have behind (more : List (List Token)) (member : part ∈ more) :
      weightOfAll part ≤ weightOfAll (more.flatMap (.punct mark false :: ·)) := by
    induction more with
    | nil => cases member
    | cons first more ih =>
      rw [List.flatMap_cons, weightOfAll_append, weightOfAll]
      rcases List.mem_cons.mp member with rfl | later
      · omega
      · have := ih later
        omega
  cases parts with
  | nil => cases member
  | cons first more =>
    rw [separated, weightOfAll_append]
    rcases List.mem_cons.mp member with rfl | later
    · omega
    · have := behind more later
      omega

theorem weightOfAll_lt_bracketed {parts : List (List Token)} {part : List Token}
    (member : part ∈ parts) : weightOfAll part < weightOfAll (bracketed parts) := by
  cases parts with
  | nil => cases member
  | cons first more =>
    have within := @weightOfAll_le_separated ',' _ _ member
    simp only [bracketed, weightOfAll_append, List.cons_append, weightOfAll, weight]
    omega

theorem weightOfAll_le_tupled {parts : List (List Token)} {part : List Token}
    (member : part ∈ parts) : weightOfAll part ≤ weightOfAll (tupled parts) := by
  unfold tupled
  split
  · rename_i single
    rw [List.mem_singleton] at member
    rw [member, weightOfAll_append]
    omega
  · exact weightOfAll_le_separated member

/-- A result weighs less than the result with its arrow. -/
theorem weight_closed_lt {result : Option TypeTree} {type : TypeTree} (member : type ∈ result) :
    type.closed.weight < weightOfAll (TypeTree.tokensOfResult result) := by
  obtain rfl : result = some type := member
  rw [TypeTree.weight, TypeTree.tokens_closed, TypeTree.tokensOfResult, weightOfAll, weightOfAll]
  simp only [weight]
  omega

/-- What is in the arguments of functions, or is their result, weighs less than both together. -/
theorem weight_lt_of_mem_function {arguments : List TypeTree} {result : Option TypeTree}
    {part : TypeTree} (member : part ∈ arguments ++ result.toList.map (·.closed)) :
    part.weight < weightOfAll (.group .parenthesis (separated ',' (arguments.map (·.tokens))) ::
      TypeTree.tokensOfResult result) := by
  rw [weightOfAll, weight]
  rcases List.mem_append.mp member with inside | behind
  · have listed : part.tokens ∈ arguments.map (·.tokens) := List.mem_map_of_mem inside
    have within := @weightOfAll_le_separated ',' _ _ listed
    simp only [TypeTree.weight]
    omega
  · obtain ⟨type, found, rfl⟩ := List.mem_map.mp behind
    have within := weight_closed_lt (Option.mem_toList.mp found)
    omega

theorem ArgumentTree.weight_le {argument : ArgumentTree} {part : TypeTree}
    (member : part ∈ argument.parts) : part.weight ≤ weightOfAll argument.tokens := by
  cases argument with
  | type type =>
    rw [parts, List.mem_singleton] at member
    rw [member, ArgumentTree.tokens, TypeTree.weight]
  | constant constant => cases member
  | binding name identifier named type =>
    simp only [parts, List.mem_cons, List.not_mem_nil, or_false] at member
    rcases member with rfl | rfl <;>
      simp [ArgumentTree.tokens, TypeTree.weight, TypeTree.tokens, weightOfAll, weight,
        NamePath.tokens, NamePath.ofName, nameTokens, moreNames, bracketed]
    omega

/-- What generic arguments contain weighs less than these in their brackets. -/
theorem weight_lt_of_mem_arguments (lifetimes : List Lifetime) {arguments : List ArgumentTree}
    {part : TypeTree} (member : part ∈ arguments.flatMap (·.parts)) :
    part.weight <
      weightOfAll (bracketed (lifetimes.map (·.tokens) ++ arguments.map (·.tokens))) := by
  obtain ⟨argument, inside, member⟩ := List.mem_flatMap.mp member
  have within := ArgumentTree.weight_le member
  have listed : argument.tokens ∈ lifetimes.map (·.tokens) ++ arguments.map (·.tokens) :=
    List.mem_append_right _ (List.mem_map_of_mem inside)
  have := weightOfAll_lt_bracketed listed
  omega

theorem TraitTree.weight_lt {trait : TraitTree} {part : TypeTree} (member : part ∈ trait.parts) :
    part.weight < weightOfAll trait.tokens := by
  cases trait with
  | named introduced path lifetimes arguments =>
    have within := weight_lt_of_mem_arguments lifetimes member
    rw [TraitTree.tokens, ArgumentTree.tokensOfEach_eq, weightOfAll_append, weightOfAll_append]
    omega
  | relaxed path => cases member
  | function introduced path arguments result =>
    have within := weight_lt_of_mem_function member
    rw [TraitTree.tokens, TypeTree.tokensOfEach_eq, weightOfAll_append, weightOfAll_append]
    omega

theorem BoundTree.weight_lt {bound : BoundTree} {part : TypeTree} (member : part ∈ bound.parts) :
    part.weight < weightOfAll bound.tokens := by
  cases bound with
  | lifetime lifetime => cases member
  | trait trait => exact TraitTree.weight_lt member

/-- Every part of a type has fewer tokens than the type. -/
theorem TypeTree.weight_lt {type part : TypeTree} (member : part ∈ type.parts) :
    part.weight < type.weight := by
  cases type with
  | named path lifetimes arguments =>
    have within := weight_lt_of_mem_arguments lifetimes member
    simp only [weight, tokens, ArgumentTree.tokensOfEach_eq, weightOfAll_append] at within ⊢
    omega
  | tuple elements =>
    have listed : part.tokens ∈ elements.map (·.tokens) := List.mem_map_of_mem member
    have within := weightOfAll_le_tupled listed
    simp only [weight, tokens, weightOfAll, Token.weight, tokensOfEach_eq]
    omega
  | paren inner | slice element | array element length =>
    obtain rfl := List.mem_singleton.mp member
    simp only [weight, tokens, weightOfAll, Token.weight, weightOfAll_append]
    omega
  | pointer isMutable target | reference lifetime isMutable target =>
    obtain rfl := List.mem_singleton.mp member
    simp only [weight, tokens_closed, tokens, weightOfAll, Token.weight, weightOfAll_append]
    omega
  | never | inferred => cases member
  | function introduced isUnsafe convention arguments result =>
    have within := weight_lt_of_mem_function member
    simp only [weight, tokens, weightOfAll, weightOfAll_append, tokensOfEach_eq] at within ⊢
    omega
  | bounded isOpaque leading first more =>
    have joined {bound : List Token} (listed : bound ∈ first.tokens :: more.map (·.tokens)) :
        weightOfAll bound ≤ weightOfAll (separated '+' (leading.map (·.tokens) ++
          first.tokens :: more.map (·.tokens))) :=
      weightOfAll_le_separated (List.mem_append_right _ listed)
    have within : part.weight < weightOfAll (separated '+' (leading.map (·.tokens) ++
        first.tokens :: more.map (·.tokens))) := by
      rcases List.mem_append.mp member with inside | later
      · exact (TraitTree.weight_lt inside).trans_le (joined List.mem_cons_self)
      · obtain ⟨bound, present, inside⟩ := List.mem_flatMap.mp later
        exact (BoundTree.weight_lt inside).trans_le
          (joined (List.mem_cons_of_mem _ (List.mem_map_of_mem present)))
    simp only [weight, tokens, weightOfAll, BoundTree.tokensOfEach_eq] at within ⊢
    omega

/-- What holds of a type if it holds of its parts holds of all types. -/
theorem TypeTree.induct {P : TypeTree → Prop}
    (step : ∀ type, (∀ part ∈ type.parts, P part) → P type) (type : TypeTree) : P type :=
  step type fun part member =>
    have := TypeTree.weight_lt member
    induct step part
termination_by type.weight

/-! ## Joined punctuation -/

/-- A token is another one, but for punctuation in it that is joined to what is behind it. -/
inductive Token.Loosens : Token → Token → Prop
  | same (token : Token) : Loosens token token
  | joined (char : Char) : Loosens (.punct char true) (.punct char false)
  | group (delimiter : Delimiter) {content content' : List Token}
    (within : List.Forall₂ Loosens content content') :
    Loosens (.group delimiter content) (.group delimiter content')

/-- Tokens that are read like others in canonical form: some more of them may be joined. -/
abbrev Loosened : List Token → List Token → Prop := List.Forall₂ Token.Loosens

namespace Loosened

variable {tokens others more : List Token}

theorem refl (tokens : List Token) : Loosened tokens tokens :=
  List.forall₂_same.mpr fun token _ => .same token

/-- What is behind an identifier. -/
theorem of_ident {name : String} (loosened : Loosened tokens (.ident name :: others)) :
    ∃ rest, tokens = .ident name :: rest ∧ Loosened rest others := by
  obtain ⟨token, rest, first, behind, rfl⟩ := List.forall₂_cons_right_iff.mp loosened
  cases first
  exact ⟨rest, rfl, behind⟩

/-- What is behind a literal. -/
theorem of_literal {text : String} (loosened : Loosened tokens (.literal text :: others)) :
    ∃ rest, tokens = .literal text :: rest ∧ Loosened rest others := by
  obtain ⟨token, rest, first, behind, rfl⟩ := List.forall₂_cons_right_iff.mp loosened
  cases first
  exact ⟨rest, rfl, behind⟩

/-- What is behind a punctuation character, which may be joined to it. -/
theorem of_mark {char : Char} (loosened : Loosened tokens (.punct char false :: others)) :
    ∃ joined rest, tokens = .punct char joined :: rest ∧ Loosened rest others := by
  obtain ⟨token, rest, first, behind, rfl⟩ := List.forall₂_cons_right_iff.mp loosened
  cases first with
  | same => exact ⟨false, rest, rfl, behind⟩
  | joined => exact ⟨true, rest, rfl, behind⟩

/-- What is behind a punctuation character that is joined to it. -/
theorem of_joined {char : Char} (loosened : Loosened tokens (.punct char true :: others)) :
    ∃ rest, tokens = .punct char true :: rest ∧ Loosened rest others := by
  obtain ⟨token, rest, first, behind, rfl⟩ := List.forall₂_cons_right_iff.mp loosened
  cases first
  exact ⟨rest, rfl, behind⟩

/-- What is behind the mark between two names. -/
theorem of_colons (loosened : Loosened tokens (colons ++ others)) :
    ∃ joined rest, tokens = .punct ':' true :: .punct ':' joined :: rest ∧
      Loosened rest others := by
  have shape : colons ++ others = .punct ':' true :: .punct ':' false :: others := rfl
  rw [shape] at loosened
  obtain ⟨_, rfl, second⟩ := of_joined loosened
  obtain ⟨joined, rest, rfl, behind⟩ := of_mark second
  exact ⟨joined, rest, rfl, behind⟩

/-- What is in a group, and what is behind it. -/
theorem of_group {delimiter : Delimiter} {content : List Token}
    (loosened : Loosened tokens (.group delimiter content :: others)) :
    ∃ content' rest, tokens = .group delimiter content' :: rest ∧ Loosened content' content ∧
      Loosened rest others := by
  obtain ⟨token, rest, first, behind, rfl⟩ := List.forall₂_cons_right_iff.mp loosened
  cases first with
  | same => exact ⟨content, rest, rfl, refl content, behind⟩
  | group _ within => exact ⟨_, rest, rfl, within, behind⟩

/-- Parts are read like parts. -/
theorem of_append (loosened : Loosened tokens (others ++ more)) :
    ∃ first rest, tokens = first ++ rest ∧ Loosened first others ∧ Loosened rest more :=
  ⟨_, _, (List.take_append_drop others.length tokens).symm,
    List.forall₂_take_append _ _ _ loosened, List.forall₂_drop_append _ _ _ loosened⟩

end Loosened

end RecordCoding.Source
