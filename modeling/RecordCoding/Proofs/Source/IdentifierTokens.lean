import RecordCoding.Proofs.Expansion.Spelling
import RecordCoding.Proofs.Source.Lexing

/-!
# Identifiers among the tokens of a text

Whatever is lexed as an identifier is written as one, at every depth, and a name that is written
so has an identifier of its own once the mark of raw identifiers is taken off.
-/

namespace RecordCoding.Source

open Text Lexer

/-! ## Tokens whose identifiers are written as such -/

/-- All identifiers among tokens are written as identifiers. -/
def Spelt (tokens : List Token) : Prop :=
  ∀ name ∈ Token.identifiersOfAll tokens, IsIdentifierText name

theorem spelt_nil : Spelt [] := nofun

theorem spelt_append {first second : List Token} :
    Spelt (first ++ second) ↔ Spelt first ∧ Spelt second := by
  rw [Spelt, Token.identifiersOfAll_append, List.forall_mem_append]
  rfl

theorem spelt_cons {token : Token} {rest : List Token} :
    Spelt (token :: rest) ↔ Spelt [token] ∧ Spelt rest := by
  rw [← List.singleton_append, spelt_append]

/-- Each token counts for itself. -/
theorem spelt_iff {tokens : List Token} : Spelt tokens ↔ ∀ token ∈ tokens, Spelt [token] := by
  induction tokens with
  | nil => exact ⟨fun _ => nofun, fun _ => spelt_nil⟩
  | cons token rest ih => rw [spelt_cons, ih, List.forall_mem_cons]

theorem spelt_reverse {tokens : List Token} : Spelt tokens.reverse ↔ Spelt tokens := by
  rw [spelt_iff, @spelt_iff tokens]
  simp only [List.mem_reverse]

/-- What is left of tokens has no other identifiers. -/
theorem Spelt.of_suffix {tokens rest : List Token} (spelt : Spelt tokens)
    (suffix : rest <:+ tokens) : Spelt rest := by
  obtain ⟨_, rfl⟩ := suffix
  exact (spelt_append.mp spelt).2

@[simp] theorem spelt_ident {name : String} : Spelt [.ident name] ↔ IsIdentifierText name :=
  List.forall_mem_singleton

@[simp] theorem spelt_literal (text : String) : Spelt [.literal text] := nofun

@[simp] theorem spelt_punct (char : Char) (joined : Bool) : Spelt [.punct char joined] := nofun

@[simp] theorem spelt_group {delimiter : Delimiter} {content : List Token} :
    Spelt [.group delimiter content] ↔ Spelt content := by
  rw [Spelt, Token.identifiersOfAll_cons_group, Token.identifiersOfAll, List.append_nil]
  rfl

/-! ## Lexing -/

/-- A plain identifier is a word. -/
theorem exists_of_word {input rest : List Char} (read : Lexer.word input = some rest) :
    ∃ chars, IsWord chars ∧ input = chars ++ rest := by
  cases input with
  | nil => cases read
  | cons c behind =>
    obtain ⟨start, same⟩ := Option.ite_none_right_eq_some.mp read
    obtain rfl := Option.some.inj same
    exact ⟨c :: behind.takeWhile isIdentifierContinue,
      .mk start fun d => List.mem_takeWhile_imp,
      congrArg (c :: ·) List.takeWhile_append_dropWhile.symm⟩

/-- An identifier is a word, or one behind the mark of raw identifiers that may be written so. -/
theorem exists_of_identifier {input rest : List Char} (read : identifier input = some rest) :
    ∃ chars, IdentifierChars chars ∧ input = chars ++ rest := by
  unfold identifier at read
  split at read
  · rename_i raw
    obtain ⟨after, found, allowed⟩ := Option.bind_eq_some_iff.mp read
    obtain ⟨chars, word, rfl⟩ := exists_of_word found
    rw [consumed_append] at allowed
    obtain ⟨free, same⟩ := Option.ite_none_left_eq_some.mp allowed
    obtain rfl := Option.some.inj same
    exact ⟨_, .raw word fun reserved => free (List.contains_iff_mem.mpr reserved), rfl⟩
  · obtain ⟨chars, word, same⟩ := exists_of_word read
    exact ⟨chars, .plain word, same⟩

/-- A token that is no group is no identifier unless it is written as one. -/
theorem spelt_of_leaf? {bound : Nat} {input rest : List Char} {token : Token}
    (read : leaf? bound input = some (token, rest)) : Spelt [token] := by
  unfold leaf? at read
  split at read
  · cases read
    exact spelt_literal _
  split at read
  · rename_i found punctuated
    cases read
    obtain ⟨c, -, made⟩ := Option.bind_eq_some_iff.mp punctuated
    dsimp only at made
    split at made
    · obtain ⟨after, -, lifetime⟩ := Option.bind_eq_some_iff.mp made
      obtain ⟨-, same⟩ := Option.ite_none_left_eq_some.mp lifetime
      cases same
      exact spelt_punct _ _
    · cases made
      exact spelt_punct _ _
  split at read
  · rename_i found
    cases read
    obtain ⟨-, named⟩ := Option.ite_none_left_eq_some.mp found
    obtain ⟨chars, identifier, rfl⟩ := exists_of_identifier named
    rw [consumed_append, spelt_ident]
    exact isIdentifierText_ofList identifier
  · obtain ⟨_, -, same⟩ := Option.map_eq_some_iff.mp read
    cases same
    exact spelt_literal _

/-- The attribute of a documentation comment has a name that is written as such. -/
theorem spelt_documentationTokens (body : List Char) (isInner : Bool) :
    Spelt (documentationTokens body isInner) := by
  have name : IsIdentifierText "doc" := by decide
  unfold documentationTokens
  rw [List.cons_append, spelt_cons, spelt_append, spelt_group]
  refine ⟨spelt_punct _ _, ?_, ?_⟩
  · split
    · exact spelt_punct _ _
    · exact spelt_nil
  · rw [spelt_iff]
    simp [name]

/-- Reading on adds no identifiers that are not written as such. -/
theorem spelt_of_readFrom {bound : Nat} {input : List Char} {tokens found : List Token}
    {groups : List OpenGroup} (read : readFrom bound input tokens groups = some found)
    (spelt : Spelt tokens) (around : ∀ group ∈ groups, Spelt group.before) : Spelt found := by
  induction bound generalizing input tokens groups with
  | zero => cases read
  | succ bound ih =>
    rw [readFrom] at read
    dsimp only at read
    split at read
    · refine ih read (spelt_append.mpr ⟨?_, spelt⟩) around
      exact spelt_reverse.mpr (spelt_documentationTokens _ _)
    split at read
    · obtain ⟨-, same⟩ := Option.ite_none_right_eq_some.mp read
      obtain rfl := Option.some.inj same
      exact spelt_reverse.mpr spelt
    split at read
    · exact ih read spelt_nil (List.forall_mem_cons.mpr ⟨spelt, around⟩)
    split at read
    · obtain ⟨-, goesOn⟩ := Option.ite_none_right_eq_some.mp read
      obtain ⟨before, outside⟩ := List.forall_mem_cons.mp around
      refine ih goesOn (spelt_cons.mpr ⟨?_, before⟩) outside
      exact spelt_group.mpr (spelt_reverse.mpr spelt)
    · cases read
    · obtain ⟨⟨token, rest⟩, leaf, goesOn⟩ := Option.bind_eq_some_iff.mp read
      exact ih goesOn (spelt_cons.mpr ⟨spelt_of_leaf? leaf, spelt⟩) around

/-- All identifiers among the tokens of a text are written as such. -/
theorem spelt_of_tokenize? {text : String} {tokens : List Token}
    (read : tokenize? text = some tokens) : Spelt tokens :=
  spelt_of_readFrom read spelt_nil nofun

/-! ## Names -/

/-- A plain word is lexed as one identifier. -/
theorem tokenize?_of_isWord {name : String} (word : IsWord name.toList) :
    tokenize? name = some [.ident name] := by
  have whole : Lexes name.toList [.ident name] [] := by
    have lexes := lexes_word word endsWord_nil
    rwa [List.append_nil, String.ofList_toList] at lexes
  refine Lexes.tokenize?_eq (fun marked => ?_) whole
  generalize name.toList = chars at word marked
  obtain ⟨start, -⟩ := word
  exact (isPlain_of_start start).visible.noByteOrder (Option.some.inj marked)

/-- There is no mark of raw identifiers in a plain word. -/
theorem unraw_of_isWord {name : String} (word : IsWord name.toList) : unraw name = name := by
  unfold unraw
  split
  · rename_i marked
    rw [marked] at word
    obtain ⟨-, continues⟩ := word
    have stops := not_continue_of_quote '#' (by simp)
    rw [continues '#' (by simp)] at stops
    cases stops
  · rfl

/-- What a name is without the mark of raw identifiers has an identifier. -/
theorem isIdentifier_unraw {name : String} (written : IsIdentifierText name)
    (named : isName name = true) : Expansion.IsIdentifier (unraw name) := by
  unfold IsIdentifierText at written
  generalize chars : name.toList = text at written
  cases written with
  | plain word =>
    subst chars
    rw [unraw_of_isWord word]
    exact ⟨tokenize?_of_isWord word, unraw_of_isWord word, fun reserved => by
      rw [isName_of_mem_neverRawWords reserved] at named
      cases named⟩
  | @raw text word allowed =>
    have unmarked : unraw name = String.ofList text := by
      rw [unraw, chars]
      rfl
    have bare : IsWord (String.ofList text).toList := by rwa [String.toList_ofList]
    rw [unmarked]
    exact ⟨tokenize?_of_isWord bare, unraw_of_isWord bare, allowed⟩

end RecordCoding.Source

namespace RecordCoding.Expansion.IsIdentifier

open Source

/-- A name that has an identifier is a plain word. -/
theorem isWord {name : String} (identifier : IsIdentifier name) :
    IsWord name.toList := by
  have written : IsIdentifierText name := spelt_ident.mp (spelt_of_tokenize? identifier.token)
  unfold IsIdentifierText at written
  generalize chars : name.toList = text at written
  cases written with
  | plain word => exact word
  | @raw text word allowed =>
    -- A raw identifier would have become shorter.
    have shorter : name = String.ofList text := by
      rw [← identifier.unmarked, unraw, chars]
      rfl
    rw [shorter, String.toList_ofList] at chars
    have length := congrArg List.length chars
    simp only [List.length_cons] at length
    omega

end RecordCoding.Expansion.IsIdentifier
