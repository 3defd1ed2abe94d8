import RecordCoding.Proofs.Source.LexingLiterals
import RecordCoding.Proofs.Source.TypeTrees

/-!
# The text of types

The text of a type is made of its tokens by leaving out spaces. For the tokens that types are put
together from it is known where a space is left, and that lexing the text gives these tokens again,
some of them joined that were not.
-/

namespace RecordCoding.Source

open Text Lexer

/-! ## Spelling tokens -/

/-- Lexing a text gives certain tokens, some of them joined, wherever the last of them ends. -/
def Spells (chars : List Char) (tokens : List Token) : Prop :=
  ∀ ⦃rest : List Char⦄, EndsToken rest →
    ∃ found, Loosened found tokens ∧ Lexes (chars ++ rest) found rest

/-- A token ends in front of a text if it ends in front of the parts of it. -/
theorem EndsToken.append {chars rest : List Char} (first : EndsToken chars)
    (behind : EndsToken rest) : EndsToken (chars ++ rest) := by
  cases chars with
  | nil => exact behind
  | cons c chars => exact first

theorem endsToken_nil : EndsToken [] := nofun

theorem endsToken_cons {c : Char} (ends : c ∈ tokenEnds) (rest : List Char) :
    EndsToken (c :: rest) := by
  rintro d first
  cases first
  exact ends

namespace Spells

variable {chars chars' : List Char} {tokens tokens' : List Token}

theorem nil : Spells [] [] := fun rest _ => ⟨[], .nil, Lexes.refl rest⟩

/-- Texts are put behind one another where the last token of the first one ends. -/
theorem append (first : Spells chars tokens) (second : Spells chars' tokens')
    (ends : EndsToken chars') : Spells (chars ++ chars') (tokens ++ tokens') := by
  intro rest behind
  obtain ⟨found, loosened, lexes⟩ := first (ends.append behind)
  obtain ⟨found', loosened', lexes'⟩ := second behind
  refine ⟨found ++ found', List.rel_append loosened loosened', ?_⟩
  rw [List.append_assoc]
  exact lexes.trans lexes'

/-- An identifier is spelled by its characters. -/
theorem identifier {name : String} (identifier : IsIdentifierText name) :
    Spells name.toList [.ident name] := by
  intro rest behind
  have lexes := lexes_identifier identifier behind.endsWord
  rw [String.ofList_toList] at lexes
  exact ⟨_, Loosened.refl _, lexes⟩

/-- A lifetime is spelled by its mark and its word. -/
theorem lifetime (lifetime : Lifetime) :
    Spells ('\'' :: lifetime.name.toList) lifetime.tokens := by
  intro rest behind
  have lexes := lexes_lifetime lifetime.word behind.endsWord
  rw [String.ofList_toList] at lexes
  exact ⟨_, Loosened.refl _, lexes⟩

/-- A number is spelled by its digits. -/
theorem numeral (numeral : Numeral) : Spells numeral.text.toList [numeral.token] := by
  intro rest behind
  obtain ⟨c, chars, shape⟩ : ∃ c chars, numeral.text.toList = c :: chars :=
    List.exists_cons_of_ne_nil (by simpa using numeral.present)
  have digits := numeral.digits
  rw [shape] at digits
  have lexes := lexes_number digits behind
  rw [← shape, String.ofList_toList, ← List.cons_append, ← shape] at lexes
  exact ⟨_, Loosened.refl _, lexes⟩

/-- A text in quotes is spelled by itself. -/
theorem quotation (quotation : Quotation) :
    Spells ('"' :: quotation.content ++ ['"']) [quotation.token] := by
  intro rest behind
  have plain : ∀ c ∈ quotation.content, c ∉ ['"', '\\', '\r'] := by
    intro c member
    have apart := quotation.plain c member
    simp only [List.mem_cons, List.not_mem_nil, or_false, not_or] at apart ⊢
    exact ⟨apart.1, apart.2.1, apart.2.2.1⟩
  have lexes := lexes_quotation plain behind
  refine ⟨_, Loosened.refl _, ?_⟩
  rw [List.cons_append, List.cons_append, List.append_assoc]
  exact lexes

/-- A punctuation character is put in front, joined or not. -/
theorem mark {c : Char} (mark : c ∈ plainMarks) (behind : Spells chars tokens) :
    Spells (c :: chars) (.punct c false :: tokens) := by
  intro rest ends
  obtain ⟨found, loosened, lexes⟩ := behind ends
  refine ⟨.punct c (joins (chars ++ rest)) :: found, .cons ?_ loosened,
    (lexes_mark mark (chars ++ rest)).cons lexes⟩
  cases joins (chars ++ rest) with
  | true => exact .joined c
  | false => exact .same _

/-- Two punctuation characters that belong together are put in front. -/
theorem pair {c d : Char} (first : c ∈ plainMarks) (second : d ∈ plainMarks)
    (behind : Spells chars tokens) :
    Spells (c :: d :: chars) (.punct c true :: .punct d false :: tokens) := by
  intro rest ends
  obtain ⟨found, loosened, lexes⟩ := behind.mark second ends
  have joined : joins (d :: (chars ++ rest)) = true := by
    rw [joins, punctuationChar?_of_mem second, Option.isSome_some]
  have front := lexes_mark first (d :: (chars ++ rest))
  rw [joined] at front
  exact ⟨.punct c true :: found, .cons (.same _) loosened, front.cons lexes⟩

/-- A space is put in front of something visible. -/
theorem space {c : Char} (visible : IsVisible c) (behind : Spells (c :: chars) tokens) :
    Spells (' ' :: c :: chars) tokens := by
  intro rest ends
  obtain ⟨found, loosened, lexes⟩ := behind ends
  exact ⟨found, loosened, (lexes_space visible (chars ++ rest)).trans lexes⟩

/-- A group is put around something that does not begin with a slash. -/
theorem group {delimiter : Delimiter} (noBrace : delimiter ≠ .brace)
    (noSlash : chars.head? ≠ some '/') (content : Spells chars tokens) :
    Spells (delimiter.opening :: chars ++ [delimiter.closing]) [.group delimiter tokens] := by
  intro rest _
  have closes : delimiter.closing ∈ tokenEnds := by
    cases delimiter with
    | parenthesis | bracket => decide
    | brace => exact absurd rfl noBrace
  obtain ⟨found, loosened, lexes⟩ := content (endsToken_cons closes rest)
  refine ⟨[.group delimiter found], .cons (.group delimiter loosened) .nil, ?_⟩
  rw [List.cons_append, List.cons_append, List.append_assoc]
  exact lexes_group noSlash lexes

end Spells

/-! ## Leaving out spaces -/

open TypeExpr

/-- A character other than a space is kept. -/
theorem closeUp_cons {c : Char} (noSpace : c ≠ ' ') (previous : Option Char) (rest : List Char) :
    closeUp previous (c :: rest) = c :: closeUp (some c) rest := by
  rw [closeUp]
  rintro rfl
  exact absurd rfl noSpace

/-- A space is kept unless one of its neighbours closes up. -/
theorem closeUp_space (previous : Option Char) (rest : List Char) :
    closeUp previous (' ' :: rest) =
      if previous.any closesUpBehind || rest.head?.any closesUpBefore then closeUp previous rest
      else ' ' :: closeUp (some ' ') rest := by
  rw [closeUp]

/-- Characters in a row close up one after the other, if no space is between them. -/
theorem closeUp_append {chars : List Char} (ends : chars.getLast? ≠ some ' ')
    (previous : Option Char) (rest : List Char) :
    closeUp previous (chars ++ rest) =
      closeUp previous chars ++ closeUp (chars.getLast?.or previous) rest := by
  induction chars generalizing previous with
  | nil => rfl
  | cons c chars ih =>
    rcases eq_or_ne c ' ' with rfl | noSpace
    · obtain ⟨d, more, rfl⟩ : ∃ d more, chars = d :: more := by
        cases chars with
        | nil => exact absurd rfl ends
        | cons d more => exact ⟨d, more, rfl⟩
      rw [List.getLast?_cons_cons] at ends ⊢
      have last (before : Option Char) : (d :: more).getLast?.or before = (d :: more).getLast? := by
        rw [List.getLast?_cons, Option.some_or]
      have whole (before : Option Char) := ih ends before
      simp only [last] at whole ⊢
      rw [List.cons_append, closeUp_space, closeUp_space, whole, whole]
      by_cases closes : (previous.any closesUpBehind ||
          (d :: more).head?.any closesUpBefore) = true
      · rw [if_pos closes]
        exact if_pos closes
      · rw [if_neg closes]
        exact if_neg closes
    · have last : (c :: chars).getLast?.or previous = chars.getLast?.or (some c) := by
        rw [List.getLast?_cons]
        cases chars.getLast? <;> rfl
      have ends' : chars.getLast? ≠ some ' ' := by
        cases chars with
        | nil => simp
        | cons d more => rwa [List.getLast?_cons_cons] at ends
      rw [List.cons_append, closeUp_cons noSpace, closeUp_cons noSpace, ih ends', last]
      rfl

/-- Characters other than spaces are kept. -/
theorem closeUp_of_noSpace {chars : List Char} (noSpace : ' ' ∉ chars) (previous : Option Char) :
    closeUp previous chars = chars := by
  induction chars generalizing previous with
  | nil => rfl
  | cons c chars ih =>
    rw [List.mem_cons, not_or] at noSpace
    rw [closeUp_cons (Ne.symm noSpace.1), ih noSpace.2]

theorem IsVisible.ne_space {c : Char} (visible : IsVisible c) : c ≠ ' ' := by
  rintro rfl
  exact absurd visible.notBlank (by decide)

/-- What is in front of something visible does not matter to it. -/
theorem closeUp_of_isVisible {chars : List Char} (visible : ∀ c ∈ chars.head?, IsVisible c)
    (previous : Option Char) : closeUp previous chars = closeUp none chars := by
  cases chars with
  | nil => rfl
  | cons c chars =>
    have noSpace : c ≠ ' ' := (visible c rfl).ne_space
    rw [closeUp_cons noSpace, closeUp_cons noSpace]

/-! ## Gaps -/

/-- Characters that begin with something visible, and do not end in a space. -/
structure IsSolid (chars : List Char) : Prop where
  visible : ∀ c ∈ chars.head?, IsVisible c
  ends : chars.getLast? ≠ some ' '

/-- A token that is written as something solid. -/
structure Token.IsSolid (token : Token) : Prop where
  present : token.text.toList ≠ []
  solid : Source.IsSolid token.text.toList

/-- The characters of tokens without the spaces that are not wanted. -/
def closedChars (tokens : List Token) : List Char := closeUp none (Token.textOfAll tokens).toList

/-- What is left of the space between two tokens. -/
def gap (first second : Token) : List Char :=
  if first.isJoined || first.text.toList.getLast?.any closesUpBehind ||
    second.text.toList.head?.any closesUpBefore then [] else [' ']

/-- What is written behind a token, with the gap in front of it. -/
def textBehind (first : Token) : List Token → List Char
  | [] => []
  | second :: rest => gap first second ++ closedChars (second :: rest)

/-- Tokens in a row begin with the first one. -/
theorem exists_textOfAll_cons (first : Token) (rest : List Token) :
    ∃ behind, (Token.textOfAll (first :: rest)).toList = first.text.toList ++ behind := by
  cases rest with
  | nil => exact ⟨[], (List.append_nil _).symm⟩
  | cons second rest =>
    rw [Token.textOfAll, String.toList_append, String.toList_append, List.append_assoc]
    exact ⟨_, rfl⟩

/-- Tokens that are solid are written in a row that is solid. -/
theorem isSolid_textOfAll {tokens : List Token} (solid : ∀ token ∈ tokens, token.IsSolid) :
    IsSolid (Token.textOfAll tokens).toList := by
  induction tokens with
  | nil => exact ⟨nofun, nofun⟩
  | cons first rest ih =>
    rw [List.forall_mem_cons] at solid
    obtain ⟨behind, begins⟩ := exists_textOfAll_cons first rest
    constructor
    · obtain ⟨c, others, shape⟩ := List.exists_cons_of_ne_nil solid.1.present
      have visible := solid.1.solid.visible
      rw [shape] at visible
      rw [begins, shape]
      exact visible
    · cases rest with
      | nil => exact solid.1.solid.ends
      | cons second rest =>
        obtain ⟨behind, later⟩ := exists_textOfAll_cons second rest
        have some : (Token.textOfAll (second :: rest)).toList ≠ [] := by
          rw [later]
          simp [(List.forall_mem_cons.mp solid.2).1.present]
        rw [Token.textOfAll, String.toList_append, List.getLast?_append_of_ne_nil _ some]
        exact (ih solid.2).ends

/-- Tokens in a row are written one after the other, with gaps between them. -/
theorem closedChars_cons {first : Token} {rest : List Token} (solid : first.IsSolid)
    (others : ∀ token ∈ rest, token.IsSolid) :
    closedChars (first :: rest) = closedChars [first] ++ textBehind first rest := by
  cases rest with
  | nil => rw [textBehind, List.append_nil]
  | cons second rest =>
    have tail := isSolid_textOfAll others
    have spaced : (if first.isJoined then "" else " " : String).toList =
        if first.isJoined then [] else [' '] := by
      split <;> rfl
    have head : (Token.textOfAll (second :: rest)).toList.head? = second.text.toList.head? := by
      obtain ⟨behind, begins⟩ := exists_textOfAll_cons second rest
      obtain ⟨c, more, shape⟩ :=
        List.exists_cons_of_ne_nil (others second List.mem_cons_self).present
      rw [begins, shape]
      rfl
    have same (previous : Option Char) :
        closeUp previous (Token.textOfAll (second :: rest)).toList = closedChars (second :: rest) :=
      closeUp_of_isVisible tail.visible previous
    rw [closedChars, Token.textOfAll, String.toList_append, String.toList_append, List.append_assoc,
      closeUp_append solid.solid.ends, spaced, Option.or_none, textBehind, gap]
    congr 1
    cases first.isJoined with
    | true => exact same _
    | false =>
      rw [if_neg Bool.false_ne_true, Bool.false_or, List.singleton_append, closeUp_space, head,
        same, same]
      split <;> rfl

/-- A token without spaces is written as it is. -/
theorem closedChars_single {token : Token} (noSpace : ' ' ∉ token.text.toList) :
    closedChars [token] = token.text.toList := closeUp_of_noSpace noSpace none

/-- A group is written with its delimiters around it. -/
theorem text_group {delimiter : Delimiter} (noBrace : delimiter ≠ .brace) (content : List Token) :
    (Token.group delimiter content).text.toList =
      delimiter.opening :: ((Token.textOfAll content).toList ++ [delimiter.closing]) := by
  cases delimiter with
  | parenthesis | bracket => simp [Token.text, Delimiter.opening, Delimiter.closing]
  | brace => exact absurd rfl noBrace

/-- Spaces are left out within the delimiters of a group. -/
theorem closedChars_group {delimiter : Delimiter} {content : List Token}
    (noBrace : delimiter ≠ .brace) (solid : ∀ token ∈ content, token.IsSolid) :
    closedChars [.group delimiter content] =
      delimiter.opening :: closedChars content ++ [delimiter.closing] := by
  have inner := isSolid_textOfAll solid
  obtain ⟨opening, closing⟩ := delimiter.isVisible
  rw [closedChars, Token.textOfAll, text_group noBrace, closeUp_cons opening.ne_space,
    closeUp_append inner.ends, closeUp_of_isVisible inner.visible, closeUp_cons closing.ne_space]
  rfl

/-! ## The tokens of types -/

/-- Tokens of the kinds that types are made of. -/
inductive PlainTokens : List Token → Prop
  | nil : PlainTokens []
  | name {name : String} (identifier : IsIdentifierText name) {rest : List Token}
    (behind : PlainTokens rest) : PlainTokens (.ident name :: rest)
  | lifetime (lifetime : Lifetime) {rest : List Token} (behind : PlainTokens rest) :
    PlainTokens (.punct '\'' true :: .ident lifetime.name :: rest)
  | numeral (numeral : Numeral) {rest : List Token} (behind : PlainTokens rest) :
    PlainTokens (numeral.token :: rest)
  | quotation (quotation : Quotation) {rest : List Token} (behind : PlainTokens rest) :
    PlainTokens (quotation.token :: rest)
  | mark {c : Char} (mark : c ∈ plainMarks) {rest : List Token} (behind : PlainTokens rest) :
    PlainTokens (.punct c false :: rest)
  | pair {c d : Char} (first : c ∈ plainMarks) (second : d ∈ plainMarks) {rest : List Token}
    (behind : PlainTokens rest) : PlainTokens (.punct c true :: .punct d false :: rest)
  | group {delimiter : Delimiter} (noBrace : delimiter ≠ .brace) {content rest : List Token}
    (within : PlainTokens content) (behind : PlainTokens rest) :
    PlainTokens (.group delimiter content :: rest)

/-- No space is in an identifier, nor anything that closes up what is behind it. -/
theorem IdentifierChars.notMem {chars : List Char} (identifier : IdentifierChars chars) :
    ∀ c ∈ ['<', ':', '(', '&', '[', ' '], c ∉ chars := by
  have other : ∀ c ∈ ['<', ':', '(', '&', '[', ' '], isIdentifierStart c = false ∧
      isIdentifierContinue c = false ∧ c ≠ 'r' ∧ c ≠ '#' :=
    forall_mem_of_all (by decide)
  have word {chars : List Char} (word : IsWord chars) :
      ∀ c ∈ ['<', ':', '(', '&', '[', ' '], c ∉ chars := by
    obtain ⟨start, continues⟩ := word
    intro c special member
    obtain ⟨noStart, noContinue, -⟩ := other c special
    rcases List.mem_cons.mp member with rfl | later
    · rw [start] at noStart
      cases noStart
    · rw [continues c later] at noContinue
      cases noContinue
  intro c special member
  cases identifier with
  | plain plain => exact word plain c special member
  | raw raw allowed =>
    obtain ⟨-, -, noR, noMark⟩ := other c special
    simp only [List.mem_cons, noR, noMark, false_or] at member
    exact word raw c special member

/-- The first character of an identifier begins a word. -/
theorem IdentifierChars.head {chars : List Char} (identifier : IdentifierChars chars) :
    ∃ c rest, chars = c :: rest ∧ isIdentifierStart c = true := by
  cases identifier with
  | plain word =>
    obtain ⟨start, -⟩ := word
    exact ⟨_, _, rfl, start⟩
  | raw => exact ⟨'r', _, rfl, by decide⟩

/-- A token that is written with something visible in front and no space is solid. -/
theorem Token.isSolid_of_noSpace {token : Token} {c : Char} {chars : List Char}
    (text : token.text.toList = c :: chars) (visible : IsVisible c)
    (noSpace : ' ' ∉ token.text.toList) : token.IsSolid := by
  refine ⟨by rw [text]; exact List.cons_ne_nil c chars, ?_, fun last => ?_⟩
  · rw [text]
    rintro d first
    cases first
    exact visible
  · exact noSpace (List.mem_of_getLast? last)

/-- An identifier is solid. -/
theorem isSolid_ident {name : String} (identifier : IsIdentifierText name) :
    (Token.ident name).IsSolid := by
  obtain ⟨c, others, shape, start⟩ := IdentifierChars.head identifier
  exact Token.isSolid_of_noSpace shape (isPlain_of_start start).visible
    (IdentifierChars.notMem identifier ' ' (by decide))

/-- A punctuation character is solid. -/
theorem isSolid_punct {c : Char} (joined : Bool) (visible : IsVisible c) :
    (Token.punct c joined).IsSolid := by
  have text : (Token.punct c joined).text.toList = [c] := by simp [Token.text]
  refine Token.isSolid_of_noSpace text visible ?_
  rw [text, List.mem_singleton]
  exact visible.ne_space.symm

/-- A number is solid. -/
theorem Numeral.isSolid (numeral : Numeral) : numeral.token.IsSolid := by
  obtain ⟨c, chars, shape⟩ : ∃ c chars, numeral.text.toList = c :: chars :=
    List.exists_cons_of_ne_nil (by simpa using numeral.present)
  have digit := numeral.digits c (by rw [shape]; exact List.mem_cons_self)
  exact Token.isSolid_of_noSpace shape (isPlain_of_isDigit digit).visible
    fun member => absurd (numeral.digits ' ' member) (by decide)

/-- A text in quotes is written as it is. -/
theorem Quotation.text_token (quotation : Quotation) :
    quotation.token.text.toList = '"' :: quotation.content ++ ['"'] := by
  simp [token, Token.text]

theorem Quotation.noSpace (quotation : Quotation) : ' ' ∉ quotation.token.text.toList := by
  rw [text_token, List.cons_append, List.mem_cons, List.mem_append, List.mem_singleton]
  rintro (none | inside | none)
  · cases none
  · exact quotation.plain ' ' inside (by decide)
  · cases none

/-- A text in quotes is solid. -/
theorem Quotation.isSolid (quotation : Quotation) : quotation.token.IsSolid :=
  Token.isSolid_of_noSpace quotation.text_token ⟨by decide, by decide, by decide⟩ quotation.noSpace

/-- A group is solid. -/
theorem isSolid_group {delimiter : Delimiter} (noBrace : delimiter ≠ .brace)
    (content : List Token) : (Token.group delimiter content).IsSolid := by
  obtain ⟨opening, closing⟩ := delimiter.isVisible
  have text := text_group noBrace content
  refine ⟨by rw [text]; exact List.cons_ne_nil _ _, ?_, ?_⟩ <;> rw [text]
  · rintro c first
    cases first
    exact opening
  · rw [← List.cons_append, List.getLast?_concat]
    exact fun same => closing.ne_space (Option.some.inj same)

/-- Every token of the kinds that types are made of is solid. -/
theorem PlainTokens.isSolid {tokens : List Token} (plain : PlainTokens tokens) :
    ∀ token ∈ tokens, token.IsSolid := by
  have marked {c : Char} (mark : c ∈ plainMarks) (joined : Bool) :
      (Token.punct c joined).IsSolid :=
    isSolid_punct joined (isPlain_of_mem_plainMarks mark).visible
  induction plain with
  | nil => nofun
  | name identifier _ ih => exact List.forall_mem_cons.mpr ⟨isSolid_ident identifier, ih⟩
  | lifetime lifetime _ ih =>
    have mark : (Token.punct '\'' true).IsSolid :=
      isSolid_punct true ⟨by decide, by decide, by decide⟩
    have word : (Token.ident lifetime.name).IsSolid := isSolid_ident (.plain lifetime.word)
    exact List.forall_mem_cons.mpr ⟨mark, List.forall_mem_cons.mpr ⟨word, ih⟩⟩
  | numeral numeral _ ih => exact List.forall_mem_cons.mpr ⟨numeral.isSolid, ih⟩
  | quotation quotation _ ih => exact List.forall_mem_cons.mpr ⟨quotation.isSolid, ih⟩
  | mark mark _ ih => exact List.forall_mem_cons.mpr ⟨marked mark false, ih⟩
  | pair first second _ ih =>
    exact List.forall_mem_cons.mpr
      ⟨marked first true, List.forall_mem_cons.mpr ⟨marked second false, ih⟩⟩
  | group noBrace _ _ _ ih => exact List.forall_mem_cons.mpr ⟨isSolid_group noBrace _, ih⟩

/-! ## What is behind a token -/

/-- The text of tokens begins with the first of them. -/
theorem head?_closedChars {first : Token} {rest : List Token}
    (solid : ∀ token ∈ first :: rest, token.IsSolid) :
    ∃ c others, closedChars (first :: rest) = c :: others ∧
      first.text.toList.head? = some c ∧ IsVisible c := by
  obtain ⟨behind, begins⟩ := exists_textOfAll_cons first rest
  obtain ⟨present, visible, -⟩ := solid first List.mem_cons_self
  obtain ⟨c, others, shape⟩ := List.exists_cons_of_ne_nil present
  rw [shape] at visible
  refine ⟨c, closeUp (some c) (others ++ behind), ?_, by rw [shape]; rfl, visible c rfl⟩
  rw [closedChars, begins, shape, List.cons_append, closeUp_cons (visible c rfl).ne_space]

/-- What is written behind a token spells the tokens there if their own text does. -/
theorem spells_textBehind (first : Token) {rest : List Token}
    (solid : ∀ token ∈ rest, token.IsSolid) (spells : Spells (closedChars rest) rest) :
    Spells (textBehind first rest) rest := by
  cases rest with
  | nil => exact Spells.nil
  | cons second rest =>
    obtain ⟨c, others, shape, -, visible⟩ := head?_closedChars solid
    rw [textBehind, gap]
    rw [shape] at spells ⊢
    split
    · exact spells
    · exact spells.space visible

/-- A token behind which a space is kept. -/
structure Token.IsLoose (token : Token) : Prop where
  unjoined : token.isJoined = false
  loose : token.text.toList.getLast?.any closesUpBehind = false

/-- Characters none of which closes up what is behind it. -/
theorem getLast?_any_closesUpBehind {chars : List Char} (others : ∀ c ∈ "<:(&[".toList, c ∉ chars) :
    chars.getLast?.any closesUpBehind = false := by
  rw [Option.any_eq_false]
  intro c last
  rw [closesUpBehind, ← Bool.not_eq_true, List.contains_iff_mem]
  exact fun member => others c member (List.mem_of_getLast? last)

theorem isLoose_ident {name : String} (identifier : IsIdentifierText name) :
    (Token.ident name).IsLoose := by
  have special : ∀ c ∈ "<:(&[".toList, c ∈ ['<', ':', '(', '&', '[', ' '] :=
    forall_mem_of_all (by decide)
  exact ⟨rfl, getLast?_any_closesUpBehind fun c member =>
    IdentifierChars.notMem identifier c (special c member)⟩

theorem Numeral.isLoose (numeral : Numeral) : numeral.token.IsLoose := by
  have unfit : ∀ c ∈ "<:(&[".toList, c.isDigit = false := forall_mem_of_all (by decide)
  refine ⟨rfl, getLast?_any_closesUpBehind fun c member inside => ?_⟩
  have digit := numeral.digits c inside
  rw [unfit c member] at digit
  cases digit

theorem Quotation.isLoose (quotation : Quotation) : quotation.token.IsLoose := by
  refine ⟨rfl, ?_⟩
  rw [quotation.text_token, List.getLast?_concat]
  rfl

theorem isLoose_group {delimiter : Delimiter} (noBrace : delimiter ≠ .brace)
    (content : List Token) : (Token.group delimiter content).IsLoose := by
  refine ⟨rfl, ?_⟩
  rw [text_group noBrace, ← List.cons_append, List.getLast?_concat]
  cases delimiter <;> rfl

/-- A token behind which a space is kept ends in front of what is written there. -/
theorem Token.IsLoose.endsToken {first : Token} {rest : List Token} (loose : first.IsLoose)
    (solid : ∀ token ∈ rest, token.IsSolid) : EndsToken (textBehind first rest) := by
  cases rest with
  | nil => exact endsToken_nil
  | cons second rest =>
    obtain ⟨c, others, shape, head, -⟩ := head?_closedChars solid
    rw [textBehind, gap, loose.unjoined, loose.loose, head, shape]
    split
    · rename_i tight
      refine endsToken_cons ?_ others
      have member : c ∈ "<>:,;)]".toList := by simpa [closesUpBefore] using tight
      exact List.mem_cons_of_mem ' ' member
    · exact endsToken_cons (by decide) (c :: others)

/-- A token behind which a space is kept goes in front of tokens that are spelled. -/
theorem Spells.token {first : Token} {rest : List Token}
    (own : Spells (closedChars [first]) [first]) (front : first.IsSolid) (loose : first.IsLoose)
    (solid : ∀ token ∈ rest, token.IsSolid) (spells : Spells (closedChars rest) rest) :
    Spells (closedChars (first :: rest)) (first :: rest) := by
  rw [closedChars_cons front solid]
  exact own.append (spells_textBehind first solid spells) (loose.endsToken solid)

/-- A punctuation character is written in front of what is behind it. -/
theorem closedChars_punct {c : Char} (joined : Bool) {rest : List Token} (visible : IsVisible c)
    (solid : ∀ token ∈ rest, token.IsSolid) :
    closedChars (.punct c joined :: rest) = c :: textBehind (.punct c joined) rest := by
  have text : (Token.punct c joined).text.toList = [c] := by simp [Token.text]
  have noSpace : ' ' ∉ (Token.punct c joined).text.toList := by
    simpa [text] using visible.ne_space.symm
  rw [closedChars_cons (isSolid_punct joined visible) solid, closedChars_single noSpace, text]
  rfl

/-- Nothing is between joined tokens. -/
theorem textBehind_joined (c : Char) (second : Token) (rest : List Token) :
    textBehind (.punct c true) (second :: rest) = closedChars (second :: rest) := rfl

theorem spells_ident {name : String} (identifier : IsIdentifierText name) :
    Spells (closedChars [.ident name]) [.ident name] := by
  have single := @closedChars_single (.ident name)
    (IdentifierChars.notMem identifier ' ' (by decide))
  rw [single]
  exact Spells.identifier identifier

theorem Numeral.spells (numeral : Numeral) :
    Spells (closedChars [numeral.token]) [numeral.token] := by
  have noSpace : ' ' ∉ numeral.text.toList := fun member =>
    absurd (numeral.digits ' ' member) (by decide)
  have single : closedChars [numeral.token] = numeral.text.toList := closedChars_single noSpace
  rw [single]
  exact Spells.numeral numeral

theorem Quotation.spells (quotation : Quotation) :
    Spells (closedChars [quotation.token]) [quotation.token] := by
  rw [closedChars_single quotation.noSpace, quotation.text_token]
  exact Spells.quotation quotation

/-- A group is spelled if its content is. -/
theorem spells_group {delimiter : Delimiter} {content : List Token}
    (noBrace : delimiter ≠ .brace) (solid : ∀ token ∈ content, token.IsSolid)
    (spells : Spells (closedChars content) content) :
    Spells (closedChars [.group delimiter content]) [.group delimiter content] := by
  rw [closedChars_group noBrace solid]
  refine Spells.group noBrace ?_ spells
  cases content with
  | nil => simp [closedChars, Token.textOfAll, closeUp]
  | cons first more =>
    obtain ⟨c, others, shape, -, visible⟩ := head?_closedChars solid
    rw [shape]
    exact fun slash => visible.noComment (Option.some.inj slash)

/-- A lifetime is written in front of what is behind its word. -/
theorem closedChars_lifetime (lifetime : Lifetime) {rest : List Token}
    (solid : ∀ token ∈ rest, token.IsSolid) :
    closedChars (.punct '\'' true :: .ident lifetime.name :: rest) =
      '\'' :: lifetime.name.toList ++ textBehind (.ident lifetime.name) rest := by
  have identifier : IsIdentifierText lifetime.name := .plain lifetime.word
  have word := isSolid_ident identifier
  have single := @closedChars_single (.ident lifetime.name)
    (IdentifierChars.notMem identifier ' ' (by decide))
  rw [closedChars_punct true ⟨by decide, by decide, by decide⟩
    (List.forall_mem_cons.mpr ⟨word, solid⟩), textBehind_joined, closedChars_cons word solid, single]
  rfl

/-- The text of tokens of types spells these tokens. -/
theorem PlainTokens.spells {tokens : List Token} (plain : PlainTokens tokens) :
    Spells (closedChars tokens) tokens := by
  -- From the end to the front: each token goes in front of a text that is spelled already, with
  -- the gap between them.
  induction plain with
  | nil => exact Spells.nil
  | @name name identifier rest behind ih =>
    exact Spells.token (spells_ident identifier) (isSolid_ident identifier)
      (isLoose_ident identifier) behind.isSolid ih
  | @lifetime lifetime rest behind ih =>
    rw [closedChars_lifetime lifetime behind.isSolid]
    exact (Spells.lifetime lifetime).append (spells_textBehind _ behind.isSolid ih)
      ((isLoose_ident (.plain lifetime.word)).endsToken behind.isSolid)
  | @numeral numeral rest behind ih =>
    exact Spells.token numeral.spells numeral.isSolid numeral.isLoose behind.isSolid ih
  | @quotation quotation rest behind ih =>
    exact Spells.token quotation.spells quotation.isSolid quotation.isLoose behind.isSolid ih
  | @mark c mark rest behind ih =>
    rw [closedChars_punct false (isPlain_of_mem_plainMarks mark).visible behind.isSolid]
    exact (spells_textBehind _ behind.isSolid ih).mark mark
  | @pair c d first second rest behind ih =>
    have visible {c : Char} (mark : c ∈ plainMarks) := (isPlain_of_mem_plainMarks mark).visible
    have solid : ∀ token ∈ .punct d false :: rest, token.IsSolid :=
      List.forall_mem_cons.mpr ⟨isSolid_punct false (visible second), behind.isSolid⟩
    rw [closedChars_punct true (visible first) solid, textBehind_joined,
      closedChars_punct false (visible second) behind.isSolid]
    exact (spells_textBehind _ behind.isSolid ih).pair first second
  | @group delimiter noBrace content rest within behind ih ih' =>
    exact Spells.token (spells_group noBrace within.isSolid ih) (isSolid_group noBrace content)
      (isLoose_group noBrace content) behind.isSolid ih'

end RecordCoding.Source
