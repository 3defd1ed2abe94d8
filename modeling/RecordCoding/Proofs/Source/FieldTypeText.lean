import RecordCoding.Proofs.Source.ClosedText
import RecordCoding.Proofs.Source.TypeReading

/-!
# The text of field types

A field type is written out as a type and read back as one. Where its names are plain paths, and
those of collections and wrappers are known ones, reading gives the same field type again.
-/

namespace RecordCoding.Source

open Text Lexer

/-! ## The text of plain paths -/

theorem PlainTokens.append {tokens others : List Token} (first : PlainTokens tokens)
    (second : PlainTokens others) : PlainTokens (tokens ++ others) := by
  induction first with
  | nil => exact second
  | name identifier _ ih => exact .name identifier ih
  | lifetime lifetime _ ih => exact .lifetime lifetime ih
  | numeral numeral _ ih => exact .numeral numeral ih
  | quotation quotation _ ih => exact .quotation quotation ih
  | mark mark _ ih => exact .mark mark ih
  | pair first second _ ih => exact .pair first second ih
  | group noBrace within _ _ ih => exact .group noBrace within ih

/-- Names in a row are tokens of a type. -/
theorem plainTokens_nameTokens {names : List String}
    (identifiers : ∀ n ∈ names, IsIdentifierText n) : PlainTokens (nameTokens names) := by
  have further (more : List String) (identifiers : ∀ n ∈ more, IsIdentifierText n) :
      PlainTokens (moreNames more) := by
    induction more with
    | nil => exact .nil
    | cons second more ih =>
      rw [List.forall_mem_cons] at identifiers
      exact .pair (by decide) (by decide) (.name identifiers.1 (ih identifiers.2))
  cases names with
  | nil => exact .nil
  | cons first more =>
    rw [List.forall_mem_cons] at identifiers
    exact .name identifiers.1 (further more identifiers.2)

/-- No space is left between two names and the mark between them. -/
theorem closedChars_colons {second : Token} {rest : List Token}
    (tokens : PlainTokens (second :: rest)) :
    closedChars (colons ++ second :: rest) = ':' :: ':' :: closedChars (second :: rest) := by
  have colon : IsVisible ':' := (isPlain_of_mem_plainMarks (by decide)).visible
  have tight : gap (.punct ':' false) second = [] := by
    have text : (Token.punct ':' false).text.toList = [':'] := by simp [Token.text]
    rw [gap, text]
    rfl
  have shape : colons ++ second :: rest =
      .punct ':' true :: .punct ':' false :: second :: rest := rfl
  have solid := List.forall_mem_cons.mpr ⟨isSolid_punct false colon, tokens.isSolid⟩
  rw [shape, closedChars_punct true colon solid, textBehind_joined,
    closedChars_punct false colon tokens.isSolid, textBehind, tight]
  rfl

/-- Names in a row are written with the mark between them. -/
theorem closedChars_nameTokens : ∀ {names : List String},
    (∀ n ∈ names, IsIdentifierText n) →
      closedChars (nameTokens names) = ("::".intercalate names).toList
  | [], _ => rfl
  | [first], identifiers =>
    @closedChars_single (.ident first)
      (IdentifierChars.notMem (identifiers first List.mem_cons_self) ' ' (by decide))
  | first :: second :: more, identifiers => by
    rw [List.forall_mem_cons] at identifiers
    have tight : gap (.ident first) (.punct ':' true) = [] := by
      have text : (Token.punct ':' true).text.toList = [':'] := by simp [Token.text]
      rw [gap, text]
      simp [TypeExpr.closesUpBefore]
    have shape : nameTokens (first :: second :: more) =
        .ident first :: .punct ':' true :: .punct ':' false :: nameTokens (second :: more) := rfl
    have names := plainTokens_nameTokens identifiers.2
    have others : PlainTokens
        (.punct ':' true :: .punct ':' false :: nameTokens (second :: more)) :=
      .pair (by decide) (by decide) names
    have behind : closedChars (.punct ':' true :: .punct ':' false :: nameTokens (second :: more)) =
        ':' :: ':' :: closedChars (nameTokens (second :: more)) :=
      closedChars_colons names
    have single := @closedChars_single (.ident first)
      (IdentifierChars.notMem identifiers.1 ' ' (by decide))
    rw [shape, closedChars_cons (isSolid_ident identifiers.1) others.isSolid, single, textBehind,
      tight, behind, closedChars_nameTokens identifiers.2, String.intercalate_cons_cons]
    simp [Token.text]

namespace NamePath

/-- The tokens of a plain path are tokens of a type. -/
theorem plainTokens (path : NamePath) : PlainTokens path.tokens := by
  have names := plainTokens_nameTokens path.identifiers
  rw [tokens]
  split
  · exact .pair (by decide) (by decide) names
  · exact names

/-- The tokens of a plain path are written as its text. -/
theorem closedChars_tokens (path : NamePath) : closedChars path.tokens = path.text.toList := by
  have written := closedChars_nameTokens path.identifiers
  have tokens := plainTokens_nameTokens path.identifiers
  obtain ⟨isAbsolute, names, present, identifiers, named⟩ := path
  obtain ⟨first, more, rfl⟩ := List.exists_cons_of_ne_nil present
  cases isAbsolute with
  | false => simpa [NamePath.tokens, text, TypeExpr.pathText] using written
  | true =>
    have whole := (closedChars_colons tokens).trans (congrArg (':' :: ':' :: ·) written)
    simpa [NamePath.tokens, nameTokens, text, TypeExpr.pathText] using whole

/-- The text of a plain path spells its tokens. -/
theorem spells (path : NamePath) : Spells path.text.toList path.tokens :=
  path.closedChars_tokens ▸ path.plainTokens.spells

end NamePath

/-! ## The text of types -/

section Rows

variable {parts : List (List Token)}

theorem plainTokens_separated {mark : Char} (mark_ : mark ∈ plainMarks)
    (plain : ∀ part ∈ parts, PlainTokens part) : PlainTokens (separated mark parts) := by
  have further (more : List (List Token)) (plain : ∀ part ∈ more, PlainTokens part) :
      PlainTokens (more.flatMap (.punct mark false :: ·)) := by
    induction more with
    | nil => exact .nil
    | cons first more ih =>
      rw [List.forall_mem_cons] at plain
      exact .mark mark_ (plain.1.append (ih plain.2))
  cases parts with
  | nil => exact .nil
  | cons first more =>
    rw [List.forall_mem_cons] at plain
    exact plain.1.append (further more plain.2)

theorem plainTokens_bracketed (plain : ∀ part ∈ parts, PlainTokens part) :
    PlainTokens (bracketed parts) := by
  cases parts with
  | nil => exact .nil
  | cons first more =>
    exact .mark (by decide)
      ((plainTokens_separated (by decide) plain).append (.mark (by decide) .nil))

theorem plainTokens_tupled (plain : ∀ part ∈ parts, PlainTokens part) :
    PlainTokens (tupled parts) := by
  unfold tupled
  split
  · exact (plain _ List.mem_cons_self).append (.mark (by decide) .nil)
  · exact plainTokens_separated (by decide) plain

end Rows

theorem plainTokens_lifetimes {lifetimes : List Lifetime} :
    ∀ part ∈ lifetimes.map (·.tokens), PlainTokens part := by
  rintro part member
  obtain ⟨lifetime, -, rfl⟩ := List.mem_map.mp member
  exact .lifetime lifetime .nil

theorem plainTokens_introducing (introduced : List Lifetime) :
    PlainTokens (introducing introduced) := by
  cases introduced with
  | nil => exact .nil
  | cons first more => exact .name (by decide) (plainTokens_bracketed plainTokens_lifetimes)

theorem Constant.plainTokens (constant : Constant) : PlainTokens constant.tokens := by
  cases constant with
  | number isNegative numeral =>
    cases isNegative with
    | true => exact .mark (by decide) (.numeral numeral .nil)
    | false => exact .numeral numeral .nil
  | truth value => cases value <;> exact .name (by decide) .nil

theorem ArrayLength.plainTokens (length : ArrayLength) : PlainTokens length.tokens := by
  cases length with
  | number numeral => exact .numeral numeral .nil
  | named path => exact path.plainTokens

theorem Convention.plainTokens (convention : Convention) : PlainTokens convention.tokens := by
  cases convention with
  | standard => exact .nil
  | foreign name =>
    cases name with
    | none => exact .name (by decide) .nil
    | some quotation => exact .name (by decide) (.quotation quotation .nil)

section Parts

variable {arguments : List TypeTree} {result : Option TypeTree}

/-- The result of functions is of tokens of types if it is in itself. -/
theorem plainTokens_result
    (plain : ∀ part ∈ result.toList.map (·.closed), PlainTokens part.tokens) :
    PlainTokens (TypeTree.tokensOfResult result) := by
  cases result with
  | none =>
    rw [TypeTree.tokensOfResult]
    exact .nil
  | some type =>
    have inner := plain type.closed (by simp)
    rw [TypeTree.tokens_closed] at inner
    rw [TypeTree.tokensOfResult]
    exact .pair (by decide) (by decide) inner

/-- So are the arguments of functions with their result. -/
theorem plainTokens_function
    (plain : ∀ part ∈ arguments ++ result.toList.map (·.closed), PlainTokens part.tokens) :
    PlainTokens (.group .parenthesis (separated ',' (arguments.map (·.tokens))) ::
      TypeTree.tokensOfResult result) := by
  rw [List.forall_mem_append] at plain
  have listed : ∀ part ∈ arguments.map (·.tokens), PlainTokens part := by
    rintro part member
    obtain ⟨argument, inside, rfl⟩ := List.mem_map.mp member
    exact plain.1 argument inside
  exact .group (by decide) (plainTokens_separated (by decide) listed) (plainTokens_result plain.2)

end Parts

theorem ArgumentTree.plainTokens {argument : ArgumentTree}
    (plain : ∀ part ∈ argument.parts, PlainTokens part.tokens) : PlainTokens argument.tokens := by
  cases argument with
  | type type => exact plain type List.mem_cons_self
  | constant constant => exact constant.plainTokens
  | binding name identifier named type =>
    exact .name identifier (.mark (by decide) (plain type (by simp [ArgumentTree.parts])))

/-- Generic arguments with the lifetimes in front are of tokens of types. -/
theorem plainTokens_arguments {lifetimes : List Lifetime} {arguments : List ArgumentTree}
    (plain : ∀ part ∈ arguments.flatMap (·.parts), PlainTokens part.tokens) :
    PlainTokens (bracketed (lifetimes.map (·.tokens) ++ arguments.map (·.tokens))) := by
  refine plainTokens_bracketed (List.forall_mem_append.mpr ⟨plainTokens_lifetimes, ?_⟩)
  intro part member
  obtain ⟨argument, inside, rfl⟩ := List.mem_map.mp member
  exact ArgumentTree.plainTokens fun part within =>
    plain part (List.mem_flatMap.mpr ⟨argument, inside, within⟩)

theorem TraitTree.plainTokens {trait : TraitTree}
    (plain : ∀ part ∈ trait.parts, PlainTokens part.tokens) : PlainTokens trait.tokens := by
  cases trait with
  | named introduced path lifetimes arguments =>
    rw [TraitTree.tokens, ArgumentTree.tokensOfEach_eq]
    exact (plainTokens_introducing introduced).append
      (path.plainTokens.append (plainTokens_arguments plain))
  | relaxed path => exact .mark (by decide) path.plainTokens
  | function introduced path arguments result =>
    rw [TraitTree.tokens, TypeTree.tokensOfEach_eq]
    exact (plainTokens_introducing introduced).append
      (path.plainTokens.append (plainTokens_function plain))

theorem BoundTree.plainTokens {bound : BoundTree}
    (plain : ∀ part ∈ bound.parts, PlainTokens part.tokens) : PlainTokens bound.tokens := by
  cases bound with
  | lifetime lifetime => exact .lifetime lifetime .nil
  | trait trait => exact TraitTree.plainTokens plain

/-- The tokens of a type are of the kinds that types are made of. -/
theorem TypeTree.plainTokens (type : TypeTree) : PlainTokens type.tokens := by
  induction type using TypeTree.induct with
  | step type ih =>
    cases type with
    | named path lifetimes arguments =>
      rw [tokens, ArgumentTree.tokensOfEach_eq]
      exact path.plainTokens.append (plainTokens_arguments ih)
    | paren inner => exact .group (by decide) (ih inner List.mem_cons_self) .nil
    | tuple elements =>
      rw [tokens, tokensOfEach_eq]
      have listed : ∀ part ∈ elements.map (·.tokens), PlainTokens part := by
        rintro part member
        obtain ⟨element, inside, rfl⟩ := List.mem_map.mp member
        exact ih element inside
      exact .group (by decide) (plainTokens_tupled listed) .nil
    | slice element => exact .group (by decide) (ih element List.mem_cons_self) .nil
    | array element length =>
      have element_ := ih element List.mem_cons_self
      exact .group (by decide) (element_.append (.mark (by decide) length.plainTokens)) .nil
    | pointer isMutable target =>
      have inner := ih target.closed List.mem_cons_self
      rw [tokens_closed] at inner
      rw [tokens]
      cases isMutable <;> exact .mark (by decide) (.name (by decide) inner)
    | reference lifetime isMutable target =>
      have inner := ih target.closed List.mem_cons_self
      rw [tokens_closed] at inner
      have mutable : PlainTokens (if isMutable then [.ident "mut"] else []) := by
        cases isMutable with
        | true => exact .name (by decide) .nil
        | false => exact .nil
      have life : PlainTokens ((lifetime.map (·.tokens)).getD []) := by
        cases lifetime with
        | some lifetime => exact .lifetime lifetime .nil
        | none => exact .nil
      rw [tokens]
      exact .mark (by decide) (life.append (mutable.append inner))
    | never => exact .mark (by decide) .nil
    | inferred => exact .name (by decide) .nil
    | function introduced isUnsafe convention arguments result =>
      have safety : PlainTokens (if isUnsafe then [.ident "unsafe"] else []) := by
        cases isUnsafe with
        | true => exact .name (by decide) .nil
        | false => exact .nil
      rw [tokens, tokensOfEach_eq]
      exact (plainTokens_introducing introduced).append (safety.append
        (convention.plainTokens.append (.name (by decide) (plainTokens_function ih))))
    | bounded isOpaque leading first more =>
      have bounds : ∀ part ∈ leading.map (·.tokens) ++ first.tokens :: more.map (·.tokens),
          PlainTokens part := by
        refine List.forall_mem_append.mpr ⟨plainTokens_lifetimes, List.forall_mem_cons.mpr ⟨?_, ?_⟩⟩
        · exact TraitTree.plainTokens fun part within => ih part (List.mem_append_left _ within)
        · intro part member
          obtain ⟨bound, inside, rfl⟩ := List.mem_map.mp member
          exact BoundTree.plainTokens fun part within => ih part
            (List.mem_append_right _ (List.mem_flatMap.mpr ⟨bound, inside, within⟩))
      rw [tokens, BoundTree.tokensOfEach_eq]
      cases isOpaque <;> exact .name (by decide) (plainTokens_separated (by decide) bounds)

/-! ## Texts that are read -/

/-- A text with the tokens of a type, joined or not, is read as the type. -/
theorem readType_of_loosened {text : String} {tokens : List Token} {type : TypeTree}
    (lexed : tokenize? text = some tokens) (loosened : Loosened tokens type.tokens) :
    readType text = .ok type.expr := by
  rw [readType, readText, lexed]
  dsimp only
  rw [readTokens_of_loosened loosened]
  rfl

/-- A text is a way to write a type. -/
structure Writes (text : String) (type : TypeTree) : Prop where
  begins : ∃ c rest, text.toList = c :: rest ∧ IsVisible c
  spells : Spells text.toList type.tokens

/-- A path with types behind its last name. -/
def TypeTree.applied (path : NamePath) (arguments : List TypeTree) : TypeTree :=
  .named path [] (arguments.map .type)

theorem TypeTree.tokens_applied (path : NamePath) (arguments : List TypeTree) :
    (applied path arguments).tokens = path.tokens ++ bracketed (arguments.map (·.tokens)) := by
  simp [applied, tokens, ArgumentTree.tokens, Function.comp_def]

theorem ArgumentTree.exprs_types (arguments : List TypeTree) :
    exprs (arguments.map .type) = arguments.map (·.expr) := by
  induction arguments with
  | nil => rfl
  | cons first more ih => rw [List.map_cons, exprs, ih, List.map_cons]

namespace Writes

/-- A text has the tokens of the type it writes, some of them joined. -/
theorem exists_tokens {text : String} {type : TypeTree} (writes : Writes text type) :
    ∃ tokens, tokenize? text = some tokens ∧ Loosened tokens type.tokens := by
  obtain ⟨⟨c, chars, shape, visible⟩, spells⟩ := writes
  obtain ⟨found, loosened, lexes⟩ := spells endsToken_nil
  rw [List.append_nil] at lexes
  have unmarked : text.toList.head? ≠ some '\ufeff' := by
    simpa [shape] using visible.noByteOrder
  exact ⟨found, lexes.tokenize?_eq unmarked, loosened⟩

/-- A text is read as the type it writes. -/
theorem readType_eq {text : String} {type : TypeTree} (writes : Writes text type) :
    readType text = .ok type.expr := by
  obtain ⟨tokens, lexed, loosened⟩ := writes.exists_tokens
  exact readType_of_loosened lexed loosened

/-- The tokens of a type, written without the spaces that are not wanted, write the type. -/
theorem closed (type : TypeTree) : Writes (String.ofList (closedChars type.tokens)) type := by
  have plain := type.plainTokens
  have spells := plain.spells
  have begins := TypeTree.beginsType (Loosened.refl type.tokens) (@EndsType.nothing true)
  rw [List.append_nil] at begins
  obtain ⟨first, rest, shape⟩ := List.exists_cons_of_ne_nil begins.ne_nil
  rw [shape] at plain
  obtain ⟨c, others, written, -, visible⟩ := head?_closedChars plain.isSolid
  constructor <;> rw [String.toList_ofList]
  · exact ⟨c, others, by rw [shape, written], visible⟩
  · exact spells

/-- A plain path writes itself. -/
theorem path (path : NamePath) : Writes path.text (.applied path []) := by
  have closed := closed (.applied path [])
  rwa [TypeTree.tokens_applied, List.map_nil, bracketed, List.append_nil, path.closedChars_tokens,
    String.ofList_toList] at closed

variable {text text' : String} {type type' : TypeTree}

/-- Arguments in angle brackets are written behind a path. -/
theorem applied {path : NamePath} (chars : List Char) {first : TypeTree} {more : List TypeTree}
    (written : text.toList = path.text.toList ++ '<' :: (chars ++ ['>']))
    (spells : Spells chars (separated ',' ((first :: more).map (·.tokens)))) :
    Writes text (.applied path (first :: more)) := by
  obtain ⟨c, rest, begins, visible⟩ := (Writes.path path).begins
  constructor
  · exact ⟨c, _, by rw [written, begins]; rfl, visible⟩
  · have close : Spells ['>'] [.punct '>' false] := Spells.nil.mark (by decide)
    have inner := spells.append close (endsToken_cons (by decide) [])
    have ends : EndsToken ('<' :: (chars ++ ['>'])) := endsToken_cons (by decide) _
    have whole := path.spells.append (inner.mark (c := '<') (by decide)) ends
    rw [written, TypeTree.tokens_applied]
    exact whole

/-- One argument is written between the brackets. -/
theorem one {path : NamePath} (argument : Writes text type)
    (written : text' = path.text ++ "<" ++ text ++ ">") : Writes text' (.applied path [type]) := by
  refine applied text.toList ?_ ?_
  · simp [written]
  · simpa [separated] using argument.spells

/-- Two arguments are written with a comma and a space between them. -/
theorem two {path : NamePath} {whole : String} (key : Writes text type)
    (value : Writes text' type')
    (written : whole = path.text ++ "<" ++ text ++ ", " ++ text' ++ ">") :
    Writes whole (.applied path [type, type']) := by
  have spaced : Spells (' ' :: text'.toList) type'.tokens := by
    obtain ⟨c, rest, begins, visible⟩ := value.begins
    have spells := value.spells
    rw [begins] at spells ⊢
    exact spells.space visible
  have ends : EndsToken (',' :: ' ' :: text'.toList) := endsToken_cons (by decide) _
  have spells := key.spells.append (spaced.mark (c := ',') (by decide)) ends
  refine applied (text.toList ++ ',' :: ' ' :: text'.toList) ?_ ?_
  · simp [written]
  · simpa [separated] using spells

end Writes

/-! ## What types stand for -/

open TypeExpr

/-- The names of collections without repeated elements. -/
def setNames : List String := ["HashSet", "BTreeSet", "IndexSet"]

/-- The names of collections with keys. -/
def mapNames : List String := ["HashMap", "BTreeMap", "IndexMap"]

/-- The path of optional types. -/
def optionPath : NamePath := .ofName "Option" (by decide) (by decide)

/-- The path of arrays. -/
def vecPath : NamePath := .ofName "Vec" (by decide) (by decide)

theorem NamePath.getLast?_names (path : NamePath) : path.names.getLast?.getD "" = path.last := by
  rw [List.getLast?_eq_getLast_of_ne_nil path.present, Option.getD_some, NamePath.last]

/-- Types are described one by one. -/
theorem describeAll_eq_map (types : List TypeExpr) :
    describeAll types = types.map (·.describe) := by
  induction types with
  | nil => rfl
  | cons first more ih => rw [describeAll, ih, List.map_cons]

/-- A path stands for what its last name and the types behind it say. -/
theorem describe_named (path : NamePath) (lifetimes : List Lifetime)
    (arguments : List ArgumentTree) :
    (TypeTree.expr (.named path lifetimes arguments)).describe =
      describePath path.isAbsolute path.names ((ArgumentTree.exprs arguments).map (·.describe))
        (String.ofList (closedChars (TypeTree.tokens (.named path lifetimes arguments)))) := by
  rw [TypeTree.expr, describe, describeAll_eq_map]
  rfl

/-- With nothing else behind its last name, these are all of its arguments. -/
theorem describe_applied (path : NamePath) (arguments : List TypeTree) :
    (TypeTree.applied path arguments).expr.describe =
      describePath path.isAbsolute path.names (arguments.map (·.expr.describe))
        (String.ofList (closedChars (TypeTree.applied path arguments).tokens)) := by
  rw [TypeTree.applied, describe_named, ArgumentTree.exprs_types, List.map_map]
  rfl

/-- A path without arguments stands for its text. -/
theorem describe_path (path : NamePath) :
    (TypeTree.applied path []).expr.describe = .scalar path.text := by
  have text : String.ofList (closedChars (TypeTree.applied path []).tokens) = path.text := by
    rw [TypeTree.tokens_applied, List.map_nil, bracketed, List.append_nil, path.closedChars_tokens,
      String.ofList_toList]
  rw [describe_applied, text, List.map_nil]
  unfold describePath
  split <;> first | rfl | contradiction

section Known

variable {path : NamePath}

theorem describe_optional (name : path.last = "Option") (inner : TypeTree) :
    (TypeTree.applied path [inner]).expr.describe = .optional inner.expr.describe := by
  simp [describe_applied, describePath, path.getLast?_names, name]

theorem describe_array (name : path.last = "Vec") (element : TypeTree) :
    (TypeTree.applied path [element]).expr.describe = .array element.expr.describe := by
  simp [describe_applied, describePath, path.getLast?_names, name]

theorem describe_set (name : path.last ∈ setNames) (element : TypeTree) :
    (TypeTree.applied path [element]).expr.describe = .set path.text element.expr.describe := by
  simp only [setNames, List.mem_cons, List.not_mem_nil, or_false] at name
  rcases name with name | name | name <;>
    simp [describe_applied, describePath, path.getLast?_names, name, NamePath.text]

theorem describe_map (name : path.last ∈ mapNames) (key value : TypeTree) :
    (TypeTree.applied path [key, value]).expr.describe =
      .map path.text key.expr.describe value.expr.describe := by
  simp only [mapNames, List.mem_cons, List.not_mem_nil, or_false] at name
  rcases name with name | name | name <;>
    simp [describe_applied, describePath, path.getLast?_names, name, NamePath.text]

theorem describe_wrapper (name : path.last = "LosslessValue") (inner : TypeTree) :
    (TypeTree.applied path [inner]).expr.describe = .wrapper path.text inner.expr.describe := by
  simp [describe_applied, describePath, path.getLast?_names, name, NamePath.text]

end Known

/-- A field type whose leaves are plain paths, and whose collections and wrappers are such paths
that end in a known name. -/
inductive PlainlyNamed : FieldType → Prop
  | scalar (path : NamePath) : PlainlyNamed (.scalar path.text)
  | optional {inner : FieldType} (plain : PlainlyNamed inner) : PlainlyNamed (.optional inner)
  | array {element : FieldType} (plain : PlainlyNamed element) : PlainlyNamed (.array element)
  | set {element : FieldType} (path : NamePath) (known : path.last ∈ setNames)
    (plain : PlainlyNamed element) : PlainlyNamed (.set path.text element)
  | map {key value : FieldType} (path : NamePath) (known : path.last ∈ mapNames)
    (plainKey : PlainlyNamed key) (plainValue : PlainlyNamed value) :
    PlainlyNamed (.map path.text key value)
  | wrapper {inner : FieldType} (path : NamePath) (known : path.last = "LosslessValue")
    (plain : PlainlyNamed inner) : PlainlyNamed (.wrapper path.text inner)

/-- The text of a plainly named field type writes a type that stands for it. -/
theorem PlainlyNamed.exists_writes {type : FieldType} (plain : PlainlyNamed type) :
    ∃ written : TypeTree, Writes type.text written ∧ written.expr.describe = type := by
  induction plain with
  | scalar path => exact ⟨.applied path [], .path path, describe_path path⟩
  | optional _ ih =>
    obtain ⟨inner, writes, rfl⟩ := ih
    exact ⟨.applied optionPath [inner], writes.one rfl, describe_optional rfl inner⟩
  | array _ ih =>
    obtain ⟨element, writes, rfl⟩ := ih
    exact ⟨.applied vecPath [element], writes.one rfl, describe_array rfl element⟩
  | set path known _ ih =>
    obtain ⟨element, writes, rfl⟩ := ih
    exact ⟨.applied path [element], writes.one rfl, describe_set known element⟩
  | map path known _ _ ihKey ihValue =>
    obtain ⟨key, writesKey, rfl⟩ := ihKey
    obtain ⟨value, writesValue, rfl⟩ := ihValue
    exact ⟨.applied path [key, value], writesKey.two writesValue rfl, describe_map known key value⟩
  | wrapper path known _ ih =>
    obtain ⟨inner, writes, rfl⟩ := ih
    exact ⟨.applied path [inner], writes.one rfl, describe_wrapper known inner⟩

/-- Reading the text of a plainly named field type gives the same field type again. -/
theorem describe_readType_text {type : FieldType} (plain : PlainlyNamed type) :
    (readType type.text).map describe = .ok type := by
  obtain ⟨written, writes, stands⟩ := plain.exists_writes
  rw [writes.readType_eq, Except.map, stands]

/-- A map whose values are arrays of optional sets is read back. -/
theorem describe_readType_text_nested : ∃ type : FieldType, PlainlyNamed type ∧
    type.text = "BTreeMap<String, Vec<Option<::indexmap::IndexSet<u64>>>>" ∧
    (readType type.text).map describe = .ok type := by
  have leaf (name : String) (identifier : IsIdentifierText name) (named : isName name = true) :
      PlainlyNamed (.scalar (NamePath.ofName name identifier named).text) := .scalar _
  have set := PlainlyNamed.set ⟨true, ["indexmap", "IndexSet"], by decide, by decide, by decide⟩
    (by decide) (leaf "u64" (by decide) (by decide))
  have plain := PlainlyNamed.map (.ofName "BTreeMap" (by decide) (by decide)) (by decide)
    (leaf "String" (by decide) (by decide)) (.array (.optional set))
  refine ⟨_, plain, ?_, describe_readType_text plain⟩
  simp [FieldType.text, NamePath.text, NamePath.ofName, pathText]

end RecordCoding.Source
