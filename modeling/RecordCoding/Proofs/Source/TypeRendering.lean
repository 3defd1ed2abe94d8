import RecordCoding.Expansion.Obstacle
import RecordCoding.Proofs.Source.FieldTypeText

/-!
# Types written out again

A type is described by a field type, and that is written out as a type again. Nothing is lost that
way but the path in front of the known names of optional types and arrays, and parentheses around a
type, as long as no known name has arguments that are not looked at; at any depth, with all other
types as they are.
-/

namespace RecordCoding.Source

open TypeExpr

/-! ## Known names -/

/-- How many arguments are looked at behind a known name. -/
def arity (name : String) : Option Nat :=
  if name = "Option" ∨ name = "Vec" ∨ name = "LosslessValue" ∨ name ∈ setNames then some 1
  else if name ∈ mapNames then some 2
  else none

/-- Whether a name is looked behind if so many of its arguments are types. Further ones behind a
collection do not matter there. -/
def looksBehind (name : String) (count : Nat) : Bool :=
  if name ∈ setNames ++ mapNames then (arity name).any (· ≤ count) else arity name == some count

/-- The path that is written of a path with a known name. -/
def NamePath.shortened (path : NamePath) : NamePath :=
  if path.last = "Option" then optionPath else if path.last = "Vec" then vecPath else path

/-- A path with any other name is written as it is. -/
theorem NamePath.shortened_of_notMem {path : NamePath} (other : path.last ∉ ["Option", "Vec"]) :
    path.shortened = path := by
  simp only [List.mem_cons, List.not_mem_nil, or_false, not_or] at other
  rw [shortened, if_neg other.1, if_neg other.2]

mutual

/-- A type without the paths in front of the known names that are looked behind, and without
parentheses around it or around what is found there. -/
def TypeTree.shortened : TypeTree → TypeTree
  | .named path lifetimes arguments =>
    if looksBehind path.last (ArgumentTree.exprs arguments).length then
      .named path.shortened lifetimes (ArgumentTree.shortenedAll arguments)
    else .named path lifetimes arguments
  | .paren inner => inner.shortened
  | .tuple elements => .tuple elements
  | .slice element => .slice element
  | .array element length => .array element length
  | .pointer isMutable target => .pointer isMutable target
  | .reference lifetime isMutable target => .reference lifetime isMutable target
  | .never => .never
  | .inferred => .inferred
  | .function introduced isUnsafe convention arguments result =>
    .function introduced isUnsafe convention arguments result
  | .bounded isOpaque leading first more => .bounded isOpaque leading first more

/-- Several arguments, the types among them without these. -/
def ArgumentTree.shortenedAll : List ArgumentTree → List ArgumentTree
  | [] => []
  | .type type :: more => .type type.shortened :: ArgumentTree.shortenedAll more
  | .constant constant :: more => .constant constant :: ArgumentTree.shortenedAll more
  | .binding name identifier named type :: more =>
    .binding name identifier named type :: ArgumentTree.shortenedAll more

end

mutual

/-- Whether no name that is looked behind has arguments that are not looked at. -/
def TypeTree.HasNoSurplus : TypeTree → Prop
  | .named path lifetimes arguments =>
    looksBehind path.last (ArgumentTree.exprs arguments).length = true →
      lifetimes = [] ∧ arity path.last = some arguments.length ∧
        ArgumentTree.HaveNoSurplus arguments
  | .paren inner => inner.HasNoSurplus
  | .tuple _ | .slice _ | .array _ _ | .pointer _ _ | .reference _ _ _ | .never | .inferred => True
  | .function _ _ _ _ _ | .bounded _ _ _ _ => True

/-- Whether several arguments are all types of which that holds. -/
def ArgumentTree.HaveNoSurplus : List ArgumentTree → Prop
  | [] => True
  | .type type :: more => type.HasNoSurplus ∧ ArgumentTree.HaveNoSurplus more
  | .constant _ :: _ | .binding .. :: _ => False

end

/-- Arguments without surplus are types. -/
theorem ArgumentTree.exists_types {arguments : List ArgumentTree}
    (noSurplus : HaveNoSurplus arguments) : ∃ types : List TypeTree,
      arguments = types.map .type ∧ ∀ type ∈ types, type.HasNoSurplus := by
  induction arguments with
  | nil => exact ⟨[], rfl, nofun⟩
  | cons first more ih =>
    cases first with
    | type type =>
      rw [HaveNoSurplus] at noSurplus
      obtain ⟨types, rfl, all⟩ := ih noSurplus.2
      exact ⟨type :: types, rfl, List.forall_mem_cons.mpr ⟨noSurplus.1, all⟩⟩
    | constant | binding => exact absurd noSurplus (by rw [HaveNoSurplus]; exact id)

theorem ArgumentTree.shortenedAll_types (types : List TypeTree) :
    shortenedAll (types.map .type) = (types.map (·.shortened)).map .type := by
  induction types with
  | nil => rfl
  | cons first more ih => rw [List.map_cons, shortenedAll, ih, List.map_cons, List.map_cons]

/-- Where a name is not looked behind, the type is taken by its text. -/
theorem describe_of_not_looksBehind {path : NamePath} {lifetimes : List Lifetime}
    {arguments : List ArgumentTree}
    (other : looksBehind path.last (ArgumentTree.exprs arguments).length = false) :
    (TypeTree.expr (.named path lifetimes arguments)).describe = .scalar
      (String.ofList (closedChars (TypeTree.tokens (.named path lifetimes arguments)))) := by
  rw [describe_named, describePath.eq_def, path.getLast?_names]
  have counted {types : List FieldType}
      (same : (ArgumentTree.exprs arguments).map (·.describe) = types) :
      (ArgumentTree.exprs arguments).length = types.length := by
    rw [← same, List.length_map]
  split
  case h_10 => rfl
  all_goals
    rename_i name found
    rw [counted found, name] at other
    simp [looksBehind, arity, setNames, mapNames] at other

/-- A path with a known name that has the arguments looked at is described by them. -/
inductive Known (path : NamePath) : List TypeTree → Prop
  | optional (name : path.last = "Option") (inner : TypeTree) : Known path [inner]
  | array (name : path.last = "Vec") (element : TypeTree) : Known path [element]
  | set (name : path.last ∈ setNames) (element : TypeTree) : Known path [element]
  | map (name : path.last ∈ mapNames) (key value : TypeTree) : Known path [key, value]
  | wrapper (name : path.last = "LosslessValue") (inner : TypeTree) : Known path [inner]

/-- As many arguments as are looked at make one of the known forms. -/
theorem known_of_arity {path : NamePath} {types : List TypeTree}
    (counted : arity path.last = some types.length) : Known path types := by
  unfold arity at counted
  split at counted
  · rename_i name
    obtain ⟨argument, rfl⟩ := List.length_eq_one_iff.mp (Option.some.inj counted).symm
    rcases name with name | name | name | name
    · exact .optional name argument
    · exact .array name argument
    · exact .wrapper name argument
    · exact .set name argument
  · split at counted
    · rename_i name
      obtain ⟨key, value, rfl⟩ := List.length_eq_two.mp (Option.some.inj counted).symm
      exact .map name key value
    · cases counted

/-- The text of what a known path with its arguments stands for writes the path, shortened, with
what is written of these. -/
theorem Known.writes {path : NamePath} {types : List TypeTree} (known : Known path types)
    (writes : ∀ type ∈ types, Writes type.expr.describe.text type.shortened) :
    Writes (TypeTree.applied path types).expr.describe.text
      (.applied path.shortened (types.map (·.shortened))) := by
  have apart : ∀ name ∈ setNames ++ mapNames ++ ["LosslessValue"],
      name ∉ ["Option", "Vec"] := by decide
  cases known with
  | optional name inner =>
    have path_ : path.shortened = optionPath := if_pos name
    rw [describe_optional name, path_]
    exact (writes inner List.mem_cons_self).one rfl
  | array name element =>
    have path_ : path.shortened = vecPath := by simp [NamePath.shortened, name]
    rw [describe_array name, path_]
    exact (writes element List.mem_cons_self).one rfl
  | set name element =>
    rw [describe_set name, NamePath.shortened_of_notMem (apart _ (by simp [name]))]
    exact (writes element List.mem_cons_self).one rfl
  | map name key value =>
    rw [describe_map name, NamePath.shortened_of_notMem (apart _ (by simp [name]))]
    exact (writes key (by simp)).two (writes value (by simp)) rfl
  | wrapper name inner =>
    rw [describe_wrapper name, NamePath.shortened_of_notMem (apart _ (by simp [name]))]
    exact (writes inner List.mem_cons_self).one rfl

/-- The text of what a type stands for writes the type without what is left out. -/
theorem writes_text_describe (type : TypeTree) (noSurplus : type.HasNoSurplus) :
    Writes type.expr.describe.text type.shortened := by
  induction type using TypeTree.induct with
  | step type ih =>
    -- What no name is looked behind in is taken by the text of its tokens.
    have whole (type : TypeTree)
        (scalar : type.expr.describe = .scalar (String.ofList (closedChars type.tokens))) :
        Writes type.expr.describe.text type := by
      rw [scalar]
      exact .closed type
    cases type with
    | named path lifetimes arguments =>
      rw [TypeTree.HasNoSurplus] at noSurplus
      rw [TypeTree.shortened]
      cases looked : looksBehind path.last (ArgumentTree.exprs arguments).length with
      | false =>
        rw [if_neg Bool.false_ne_true]
        exact whole _ (describe_of_not_looksBehind looked)
      | true =>
        obtain ⟨rfl, counted, within⟩ := noSurplus looked
        obtain ⟨types, rfl, all⟩ := ArgumentTree.exists_types within
        rw [List.length_map] at counted
        rw [if_pos rfl, ArgumentTree.shortenedAll_types]
        refine (known_of_arity counted).writes fun type member => ih type ?_ (all type member)
        exact List.mem_flatMap.mpr ⟨.type type, List.mem_map_of_mem member, List.mem_cons_self⟩
    | paren inner =>
      rw [TypeTree.expr, TypeExpr.describe_paren, TypeTree.shortened]
      exact ih inner List.mem_cons_self noSurplus
    | tuple | slice | array | pointer | reference | never | inferred | function | bounded =>
      rw [TypeTree.shortened]
      exact whole _ (by rw [TypeTree.expr, describe]; rfl)

/-- A text with the tokens of a type, however they are spaced, is read as the type. What that is
described by is written out as the same type again, and goes into code with all tokens of it, but
for the paths in front of `Option` and `Vec`, and parentheses. -/
theorem typeTokens_describe {text : String} {tokens : List Token} {type : TypeTree}
    (lexed : tokenize? text = some tokens) (written : Loosened tokens type.tokens)
    (noSurplus : type.HasNoSurplus) :
    ∃ read, readType text = .ok read ∧
      readType read.describe.text = .ok type.shortened.expr ∧
      Expansion.typeTokens read.describe = .ok type.shortened.tokens := by
  have again := (writes_text_describe type noSurplus).readType_eq
  refine ⟨type.expr, readType_of_loosened lexed written, again, ?_⟩
  rw [Expansion.typeTokens, again]
  dsimp only
  rw [TypeTree.tokens_expr]

/-- The type that is a single name. -/
def TypeTree.ofName (name : String) (identifier : IsIdentifierText name)
    (named : isName name = true) : TypeTree := .applied (.ofName name identifier named) []

/-- The type of arrays of maps from borrowed texts to boxed functions. -/
def boxes : TypeTree :=
  let byte : TypeTree := .ofName "u8" (by decide) (by decide)
  let lifetime : Lifetime := ⟨"a", by decide⟩
  let four : Numeral := ⟨"4", by decide, forall_mem_of_all (by decide)⟩
  let trait : TraitTree := .function [] (.ofName "Fn" (by decide) (by decide)) [byte]
    (some (.array byte (.number four)))
  let grid : TypeTree :=
    .named (.ofName "Grid" (by decide) (by decide)) [] [.constant (.number false four)]
  .applied ⟨false, ["std", "vec", "Vec"], by decide, by decide, by decide⟩
    [.applied (.ofName "HashMap" (by decide) (by decide))
      [.reference (some lifetime) false (.ofName "str" (by decide) (by decide)),
        .tuple [grid, .applied (.ofName "Box" (by decide) (by decide))
          [.bounded false [] trait [.lifetime lifetime]]]]]

/-- Of that type only the path of the array is lost. -/
theorem typeTokens_describe_boxes : ∃ tokens,
    tokenize? "std::vec::Vec<HashMap<&'a str, (Grid<4>, Box<dyn Fn (u8) -> [u8; 4] + 'a>)>>" =
      some tokens ∧
    Loosened tokens boxes.tokens ∧ boxes.HasNoSurplus ∧
    Token.textOfAll boxes.shortened.tokens =
      "Vec < HashMap < & 'a str , (Grid < 4 > , Box < dyn Fn (u8) -> [u8 ; 4] + 'a >) > >" ∧
    ∃ read, readType
        "std::vec::Vec<HashMap<&'a str, (Grid<4>, Box<dyn Fn (u8) -> [u8; 4] + 'a>)>>" = .ok read ∧
      readType read.describe.text = .ok boxes.shortened.expr ∧
      Expansion.typeTokens read.describe = .ok boxes.shortened.tokens := by
  have text : String.ofList (closedChars boxes.tokens) =
      "std::vec::Vec<HashMap<&'a str, (Grid<4>, Box<dyn Fn (u8) -> [u8; 4] + 'a>)>>" := by
    decide +kernel
  have noSurplus : boxes.HasNoSurplus := by
    simp [boxes, TypeTree.applied, TypeTree.HasNoSurplus, ArgumentTree.HaveNoSurplus, NamePath.last,
      NamePath.ofName, arity, setNames, mapNames]
  have writes := Writes.closed boxes
  rw [text] at writes
  obtain ⟨tokens, lexed, written⟩ := writes.exists_tokens
  refine ⟨tokens, lexed, written, noSurplus, ?_, typeTokens_describe lexed written noSurplus⟩
  decide +kernel

/-- A space in front of a comma is lost within a literal too, and the type becomes another one. -/
theorem typeTokens_describe_literal :
    (readType "[u8; \"a , b\".len()]").toOption.map (Token.textOfAll ·.tokens) =
      some "[u8 ; \"a , b\" . len ()]" ∧
    ((readType "[u8; \"a , b\".len()]").toOption.bind fun read =>
      (Expansion.typeTokens read.describe).toOption).map Token.textOfAll =
      some "[u8 ; \"a, b\" . len ()]" := by
  decide +kernel

-- What stands behind the key and the value of a map is lost.
example : (readType "Vec<HashMap<u8, u8, S>>").toOption.map (Token.textOfAll ·.tokens) =
      some "Vec < HashMap < u8 , u8 , S > >" ∧
    ((readType "Vec<HashMap<u8, u8, S>>").toOption.bind fun read =>
      (Expansion.typeTokens read.describe).toOption).map Token.textOfAll =
      some "Vec < HashMap < u8 , u8 > >" := by
  decide +kernel

end RecordCoding.Source
