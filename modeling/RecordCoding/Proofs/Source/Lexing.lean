import RecordCoding.Proofs.Source.Lexemes

/-!
# Lexing from the left

What lexing makes of the beginning of a text, whatever is behind it: an identifier, a punctuation
character and a space in front of something visible. Texts are lexed by putting such beginnings
behind one another.
-/

namespace RecordCoding.Source

open Text Lexer

/-! ## Beginnings -/

/-- A text begins with certain tokens, and lexing goes on with the rest. -/
def Lexes (input : List Char) (tokens : List Token) (rest : List Char) : Prop :=
  ∀ (bound : Nat) (before : List Token) (groups : List OpenGroup), input.length + 2 ≤ bound →
    ∃ bound', rest.length + 2 ≤ bound' ∧
      readFrom bound input before groups = readFrom bound' rest (tokens.reverse ++ before) groups

namespace Lexes

variable {input rest : List Char} {tokens : List Token}

/-- Nothing is at the beginning of every text. -/
theorem refl (input : List Char) : Lexes input [] input := fun bound _ _ room =>
  ⟨bound, room, rfl⟩

/-- Beginnings are put behind one another. -/
theorem trans {further : List Char} {others : List Token} (first : Lexes input tokens rest)
    (second : Lexes rest others further) : Lexes input (tokens ++ others) further := by
  intro bound before groups room
  obtain ⟨bound', room', reads⟩ := first bound before groups room
  obtain ⟨bound'', room'', reads'⟩ := second bound' (tokens.reverse ++ before) groups room'
  refine ⟨bound'', room'', ?_⟩
  rw [reads, reads', List.reverse_append, List.append_assoc]

/-- One token is put in front. -/
theorem cons {further : List Char} {token : Token} {others : List Token}
    (first : Lexes input [token] rest) (second : Lexes rest others further) :
    Lexes input (token :: others) further :=
  first.trans second

/-- Without the mark of a byte order there is nothing to take off. -/
theorem withoutMark_eq {chars : List Char} (unmarked : chars.head? ≠ some '\ufeff') :
    withoutMark chars = chars := by
  unfold withoutMark
  split
  · simp at unmarked
  · rfl

/-- What is lexed up to its end has just these tokens. -/
theorem tokenize?_eq {text : String} (unmarked : text.toList.head? ≠ some '\ufeff')
    (whole : Lexes text.toList tokens []) : tokenize? text = some tokens := by
  have same := withoutMark_eq unmarked
  obtain ⟨bound, room, reads⟩ := whole (text.toList.length + 2) [] [] le_rfl
  rw [tokenize?, same, reads, List.append_nil]
  obtain ⟨n, rfl⟩ : ∃ n, bound = n + 2 := ⟨bound - 2, by omega⟩
  have skipped : skipBlanks (n + 1) [] = [] := rfl
  rw [readFrom, skipped]
  simp [documentation?]

end Lexes

/-! ## Visible characters -/

/-- No comment begins with anything but a slash. -/
theorem comment?_of_isVisible {c : Char} (visible : IsVisible c) (rest : List Char) :
    comment? (c :: rest) = none := by
  unfold comment?
  split
  all_goals first
    | rfl
    | rename_i same; exact absurd (List.cons.inj same).1 visible.noComment

/-- No documentation begins with anything but a slash. -/
theorem documentation?_of_isVisible {c : Char} (visible : IsVisible c) (rest : List Char) :
    documentation? (c :: rest) = none := by
  unfold documentation?
  split
  all_goals first
    | rfl
    | rename_i same; exact absurd (List.cons.inj same).1 visible.noComment

/-- A visible character is not passed over. -/
theorem skipBlanks_of_isVisible {c : Char} (visible : IsVisible c) (rest : List Char)
    (bound : Nat) : skipBlanks bound (c :: rest) = c :: rest := by
  cases bound with
  | zero => rfl
  | succ bound =>
    rw [skipBlanks, comment?_of_isVisible visible]
    simp [visible.notBlank]

/-- At a visible character outside of the delimiters one token is read. -/
theorem readFrom_of_isPlain {c : Char} (plain : IsPlain c) (rest : List Char) (bound : Nat)
    (before : List Token) (groups : List OpenGroup) :
    readFrom (bound + 1) (c :: rest) before groups =
      (leaf? bound (c :: rest)).bind fun (token, rest) =>
        readFrom bound rest (token :: before) groups := by
  rw [readFrom, skipBlanks_of_isVisible plain.visible, documentation?_of_isVisible plain.visible]
  simp [plain.noOpening, plain.noClosing]

/-- A token is what can be read at its first character. -/
theorem lexes_of_leaf {c : Char} {chars rest : List Char} {token : Token} (plain : IsPlain c)
    (shorter : rest.length ≤ chars.length)
    (read : ∀ bound, chars.length < bound → leaf? bound (c :: chars) = some (token, rest)) :
    Lexes (c :: chars) [token] rest := by
  intro bound before groups room
  rw [List.length_cons] at room
  obtain ⟨n, rfl⟩ : ∃ n, bound = n + 1 := ⟨bound - 1, by omega⟩
  refine ⟨n, by omega, ?_⟩
  rw [readFrom_of_isPlain plain, read n (by omega)]
  rfl

/-- A space in front of something visible vanishes. -/
theorem lexes_space {c : Char} (visible : IsVisible c) (rest : List Char) :
    Lexes (' ' :: c :: rest) [] (c :: rest) := by
  intro bound before groups room
  simp only [List.length_cons] at room
  obtain ⟨n, rfl⟩ : ∃ n, bound = n + 2 := ⟨bound - 2, by omega⟩
  refine ⟨n + 2, by simp only [List.length_cons]; omega, ?_⟩
  have skipped : skipBlanks (n + 1) (' ' :: c :: rest) = skipBlanks (n + 1) (c :: rest) := by
    rw [skipBlanks_of_isVisible visible]
    exact skipBlanks_of_isVisible visible rest n
  rw [readFrom, skipped, readFrom]
  rfl

/-! ## Words -/

/-- What makes a literal of a word in front of it. -/
def literalMarks : List Char := ['"', '\'', '#']

/-- The word at the beginning of a text, if any, does not begin a literal. -/
def IsCalm (input : List Char) : Prop :=
  ∀ c ∈ (input.dropWhile isIdentifierContinue).head?, c ∉ literalMarks

/-- A word ends in front of a text, and is no beginning of a literal there. -/
structure EndsWord (rest : List Char) : Prop where
  ends : ∀ c ∈ rest.head?, isIdentifierContinue c = false
  calm : ∀ c ∈ rest.head?, c ∉ literalMarks

theorem endsWord_nil : EndsWord [] := ⟨by simp, by simp⟩

/-- A calm text has no beginning that goes on behind a word with what makes a literal. -/
theorem IsCalm.not_isPrefix {input chars rest : List Char} {mark : Char} (calm : IsCalm input)
    (word : ∀ c ∈ chars, isIdentifierContinue c = true) (special : mark ∈ literalMarks) :
    ¬ chars ++ mark :: rest <+: input := by
  rintro ⟨behind, rfl⟩
  refine calm mark ?_ special
  have stops : isIdentifierContinue mark = false := not_continue_of_quote mark special
  rw [List.append_assoc, List.dropWhile_append, List.dropWhile_eq_nil_iff.mpr word]
  simp [stops]

/-- What is dropped in front of something else is no more than that. -/
theorem dropWhile_of_stops {p : Char → Bool} {chars rest : List Char}
    (all : ∀ c ∈ chars, p c = true) (stops : ∀ c ∈ rest.head?, p c = false) :
    (chars ++ rest).dropWhile p = rest := by
  rw [List.dropWhile_append, List.dropWhile_eq_nil_iff.mpr all]
  cases rest with
  | nil => rfl
  | cons c rest => simp [stops c rfl]

/-- Behind a plain word a text is what is left of it. -/
theorem dropWhile_of_word {chars rest : List Char}
    (word : ∀ c ∈ chars, isIdentifierContinue c = true) (behind : EndsWord rest) :
    (chars ++ rest).dropWhile isIdentifierContinue = rest :=
  dropWhile_of_stops word behind.ends

/-- A text begins with another one exactly if that is its prefix. -/
theorem behind_of_not_isPrefix {chars : String} {input : List Char}
    (apart : ¬ chars.toList <+: input) : behind chars input = none := by
  rw [behind, if_neg]
  rwa [List.isPrefixOf_iff_prefix]

/-- What is behind a text is found. -/
theorem behind_append (chars : String) (rest : List Char) :
    behind chars (chars.toList ++ rest) = some rest := by
  rw [behind, if_pos (List.isPrefixOf_iff_prefix.mpr (List.prefix_append _ _)),
    ← String.length_toList, List.drop_left]

/-- What is dropped with the length of its first part is that part. -/
theorem drop_length_takeWhile {α : Type} (p : α → Bool) (xs : List α) :
    xs.drop (xs.takeWhile p).length = xs.dropWhile p :=
  calc xs.drop (xs.takeWhile p).length
    _ = (xs.takeWhile p ++ xs.dropWhile p).drop (xs.takeWhile p).length := by
      rw [List.takeWhile_append_dropWhile]
    _ = xs.dropWhile p := List.drop_left

/-- Nothing is escaped in a text only if a quote is behind its marks. -/
theorem rawText_of_unquoted {input : List Char} (letters : Letters)
    (unquoted : (input.dropWhile (· == '#')).head? ≠ some '"') : rawText letters input = none := by
  have unread : behind "\"" (input.drop (input.takeWhile (· == '#')).length) = none := by
    apply behind_of_not_isPrefix
    rw [drop_length_takeWhile]
    rintro ⟨rest, same⟩
    rw [← same] at unquoted
    exact unquoted rfl
  simp only [rawText, unread, Option.bind_none, ite_self]

/-- No text in quotes begins with a calm word. -/
theorem textLiteral_of_isCalm {opening : String} {input : List Char} (letters : Letters)
    (bound : Nat) (calm : IsCalm input)
    (word : ∀ c ∈ opening.toList, isIdentifierContinue c = true) :
    textLiteral opening letters bound input = none := by
  have apart : ¬ (opening ++ "\"").toList <+: input := by
    rw [String.toList_append]
    exact calm.not_isPrefix word (by decide)
  have continued : ∀ c ∈ (opening ++ "r").toList, isIdentifierContinue c = true := by
    rw [String.toList_append]
    exact List.forall_mem_append.mpr ⟨word, forall_mem_of_all (by decide)⟩
  have raw : (behind (opening ++ "r") input).bind (rawText letters) = none := by
    rcases Decidable.em ((opening ++ "r").toList <+: input) with ⟨rest, rfl⟩ | apart
    · rw [behind_append, Option.bind_some]
      apply rawText_of_unquoted
      cases rest with
      | nil => simp
      | cons c rest =>
        have ordinary : c ∉ literalMarks := fun special =>
          calm.not_isPrefix continued special List.prefix_rfl
        simp only [literalMarks, List.mem_cons, not_or] at ordinary
        simp [ordinary.1, ordinary.2.2.1]
    · rw [behind_of_not_isPrefix apart]
      rfl
  rw [textLiteral, behind_of_not_isPrefix apart, raw]
  rfl

/-- A number begins with a digit. -/
theorem number_of_not_isDigit {c : Char} (other : c.isDigit = false) (rest : List Char) :
    number (c :: rest) = none := by
  have fraction : fractionalDigits (c :: rest) = none := by
    simp [fractionalDigits, other]
  have base : (hexValue? c).any (· < 10) = false := by
    unfold hexValue?
    simp only [other]
    split
    · rename_i bad; cases bad
    · split
      · simp
      · split <;> simp
  have whole : wholeDigits (c :: rest) = none := by
    unfold wholeDigits
    split
    · rename_i same; cases same; cases other
    · rename_i same; cases same; cases other
    · rename_i same; cases same; cases other
    · rfl
    · rename_i padded
      have first : (c == '_' || (hexValue? c).any (· < 10)) = false := by
        rw [base, Bool.or_false, beq_eq_false_iff_ne]
        rintro rfl
        exact padded rest rfl
      simp [digitsOfBase, first]
  simp [number, fraction, whole]

/-- A literal is a text or a character in quotes, or a number. -/
theorem literal_of_isCalm {c : Char} {rest : List Char} (calm : IsCalm (c :: rest))
    (other : c.isDigit = false) (bound : Nat) : literal bound (c :: rest) = none := by
  have quoted (opening : List Char) (word : ∀ d ∈ opening, isIdentifierContinue d = true) :
      ¬ opening ++ ['\''] <+: c :: rest :=
    calm.not_isPrefix word (by decide)
  have byte : behind "b'" (c :: rest) = none :=
    behind_of_not_isPrefix (quoted ['b'] (forall_mem_of_all (by decide)))
  have char : behind "'" (c :: rest) = none :=
    behind_of_not_isPrefix (quoted [] nofun)
  rw [literal, textLiteral_of_isCalm .unicode bound calm (forall_mem_of_all (by decide)),
    textLiteral_of_isCalm .bytes bound calm (forall_mem_of_all (by decide)),
    textLiteral_of_isCalm .terminated bound calm (forall_mem_of_all (by decide)), byte, char,
    number_of_not_isDigit other]
  rfl

/-- Punctuation begins with a punctuation character. -/
theorem punctuationToken?_of_notMem {c : Char} (other : c ∉ punctuation) (rest : List Char) :
    punctuationToken? (c :: rest) = none := by
  have unseen : punctuationChar? (c :: rest) = none := by
    unfold punctuationChar?
    split
    · rfl
    · simpa using other
  rw [punctuationToken?, unseen]
  rfl

/-- No punctuation begins an identifier. -/
theorem punctuationToken?_of_start {c : Char} (start : isIdentifierStart c = true)
    (rest : List Char) : punctuationToken? (c :: rest) = none := by
  refine punctuationToken?_of_notMem (fun member => ?_) rest
  rw [not_start_of_punctuation c member] at start
  cases start

/-- What was consumed is in front of the rest. -/
theorem consumed_append (chars rest : List Char) : consumed (chars ++ rest) rest = chars := by
  simp [consumed]

/-- A token is the identifier that comes first, where nothing else does. -/
theorem leaf?_of_identifier {c : Char} {chars rest : List Char} {bound : Nat}
    (start : isIdentifierStart c = true)
    (apart : literal bound (c :: chars ++ rest) = none)
    (read : identifierToken (c :: chars ++ rest) = some rest) :
    leaf? bound (c :: chars ++ rest) = some (.ident (String.ofList (c :: chars)), rest) := by
  rw [leaf?, apart, List.cons_append, punctuationToken?_of_start start, ← List.cons_append, read]
  dsimp only
  rw [consumed_append]

/-- No text literal begins with a calm word. -/
theorem IsCalm.not_startsWith {input : List Char} (calm : IsCalm input) :
    literalOpenings.any (startsWith · input) = false := by
  have special : ∀ opening ∈ literalOpenings,
      (opening.toList.dropWhile isIdentifierContinue).head?.any
        (literalMarks.contains ·) = true := by
    decide
  rw [List.any_eq_false]
  intro opening member
  have marked := special opening member
  cases shape : opening.toList.dropWhile isIdentifierContinue with
  | nil => simp [shape] at marked
  | cons mark behind =>
    rw [shape] at marked
    rw [startsWith, List.isPrefixOf_iff_prefix,
      ← List.takeWhile_append_dropWhile (p := isIdentifierContinue) (l := opening.toList), shape]
    exact calm.not_isPrefix (fun c => List.mem_takeWhile_imp) (List.contains_iff_mem.mp marked)

/-- Where a word is calm, an identifier is not written raw. -/
theorem IsCalm.identifier_eq {input : List Char} (calm : IsCalm input) :
    identifier input = word input := by
  unfold identifier
  split
  · rename_i rest
    have unmarked : ¬ ['r'] ++ '#' :: rest <+: 'r' :: '#' :: rest :=
      calm.not_isPrefix (forall_mem_of_all (by decide)) (by decide)
    exact absurd List.prefix_rfl unmarked
  · rfl

theorem IsCalm.identifierToken_eq {input : List Char} (calm : IsCalm input) :
    identifierToken input = word input := by
  rw [identifierToken, if_neg (by simp [calm.not_startsWith]), calm.identifier_eq]

/-- A plain word is calm where it ends. -/
theorem isCalm_of_word {c : Char} {chars rest : List Char} (start : isIdentifierStart c = true)
    (continues : ∀ d ∈ chars, isIdentifierContinue d = true) (behind : EndsWord rest) :
    IsCalm (c :: chars ++ rest) := by
  rw [IsCalm, List.cons_append, List.dropWhile_cons]
  split
  · rw [dropWhile_of_word continues behind]
    exact behind.calm
  · rintro d first special
    cases first
    have unfit : ∀ mark ∈ literalMarks, isIdentifierStart mark = false :=
      forall_mem_of_all (by decide)
    rw [unfit c special] at start
    cases start

/-- A plain word is one token. -/
theorem lexes_word {chars rest : List Char} (word : IsWord chars) (behind : EndsWord rest) :
    Lexes (chars ++ rest) [.ident (String.ofList chars)] rest := by
  obtain ⟨start, continues⟩ := word
  have calm := isCalm_of_word start continues behind
  apply lexes_of_leaf (isPlain_of_start start) (by simp)
  intro bound _
  apply leaf?_of_identifier start
  · exact literal_of_isCalm calm (isDigit_of_start start) bound
  · rw [calm.identifierToken_eq]
    simp [Lexer.word, start, dropWhile_of_word continues behind]

/-- Nothing with another first character is a beginning. -/
theorem behind_of_head_ne {chars : String} {c : Char} (rest : List Char)
    (other : chars.toList.head? ≠ some c) (present : chars ≠ "") :
    behind chars (c :: rest) = none := by
  apply behind_of_not_isPrefix
  rintro ⟨behind, same⟩
  cases shape : chars.toList with
  | nil => exact present (String.toList_eq_nil_iff.mp shape)
  | cons d others =>
    rw [shape] at same other
    exact other (congrArg some (List.cons.inj same).1)

/-- A text in quotes begins with a quote or the letters in front of it. -/
theorem textLiteral_of_head_ne {opening : String} {c : Char} (letters : Letters) (bound : Nat)
    (rest : List Char) (noQuote : (opening ++ "\"").toList.head? ≠ some c)
    (noMark : (opening ++ "r").toList.head? ≠ some c) :
    textLiteral opening letters bound (c :: rest) = none := by
  have present (mark : String) (some : mark ≠ "") : opening ++ mark ≠ "" := by
    simp [String.append_eq_empty_iff, some]
  rw [textLiteral, behind_of_head_ne rest noQuote (present _ (by decide)),
    behind_of_head_ne rest noMark (present _ (by decide))]
  rfl

/-- A raw identifier is no literal. -/
theorem literal_of_raw {c : Char} (start : isIdentifierStart c = true) (rest : List Char)
    (bound : Nat) : literal bound ('r' :: '#' :: c :: rest) = none := by
  have unmarked : c ≠ '#' ∧ c ≠ '"' := by
    constructor <;> (rintro rfl; revert start; decide)
  have text : textLiteral "" .unicode bound ('r' :: '#' :: c :: rest) = none := by
    have raw : rawText .unicode ('#' :: c :: rest) = none :=
      rawText_of_unquoted .unicode (by simp [unmarked.1, unmarked.2])
    have first : behind ("" ++ "r") ('r' :: '#' :: c :: rest) = some ('#' :: c :: rest) :=
      behind_append "r" _
    rw [textLiteral, behind_of_head_ne _ (by decide) (by decide), first]
    exact raw
  have bytes : textLiteral "b" .bytes bound ('r' :: '#' :: c :: rest) = none :=
    textLiteral_of_head_ne .bytes bound _ (by decide) (by decide)
  have terminated : textLiteral "c" .terminated bound ('r' :: '#' :: c :: rest) = none :=
    textLiteral_of_head_ne .terminated bound _ (by decide) (by decide)
  rw [literal, text, bytes, terminated, behind_of_head_ne _ (by decide) (by decide),
    behind_of_head_ne _ (by decide) (by decide), number_of_not_isDigit (by decide)]
  rfl

/-- A raw identifier is one token. -/
theorem lexes_raw {chars rest : List Char} (word : IsWord chars)
    (allowed : String.ofList chars ∉ neverRawWords) (behind : EndsWord rest) :
    Lexes ('r' :: '#' :: chars ++ rest) [.ident (String.ofList ('r' :: '#' :: chars))] rest := by
  obtain ⟨start, continues⟩ := word
  rename_i c chars
  have unopened :
      literalOpenings.any (startsWith · ('r' :: '#' :: (c :: chars ++ rest))) = false := by
    have unmarked : c ≠ '#' ∧ c ≠ '"' := by
      constructor <;> (rintro rfl; revert start; decide)
    simp [literalOpenings, startsWith, List.isPrefixOf, unmarked.1.symm, unmarked.2.symm]
  apply lexes_of_leaf (isPlain_of_start (by decide)) (by simp; omega)
  intro bound _
  apply leaf?_of_identifier (by decide)
  · exact literal_of_raw start (chars ++ rest) bound
  · have name : Lexer.word (c :: chars ++ rest) = some rest := by
      simp [Lexer.word, start, dropWhile_of_word continues behind]
    have consumed : consumed (c :: chars ++ rest) rest = c :: chars := consumed_append _ rest
    rw [identifierToken, if_neg (by simpa using unopened)]
    have raw : identifier ('r' :: '#' :: (c :: chars ++ rest)) = some rest := by
      simp only [identifier, name, Option.bind_some, consumed, List.contains_iff_mem]
      rw [if_neg allowed]
    exact raw

/-- An identifier is one token where it ends. -/
theorem lexes_identifier {chars rest : List Char} (identifier : IdentifierChars chars)
    (behind : EndsWord rest) : Lexes (chars ++ rest) [.ident (String.ofList chars)] rest := by
  cases identifier with
  | plain word => exact lexes_word word behind
  | raw word allowed => exact lexes_raw word allowed behind

/-! ## Punctuation -/

/-- Whether punctuation is joined to what begins a text. -/
def joins (rest : List Char) : Bool := (punctuationChar? rest).isSome

/-- Punctuation that begins no comment is seen. -/
theorem punctuationChar?_of_mem {c : Char} (mark : c ∈ plainMarks) (rest : List Char) :
    punctuationChar? (c :: rest) = some c := by
  have all : ∀ c ∈ plainMarks, c ≠ '/' ∧ c ∈ punctuation := forall_mem_of_all (by decide)
  obtain ⟨noComment, member⟩ := all c mark
  simp [punctuationChar?, startsWith, List.isPrefixOf, noComment.symm, member]

/-- A punctuation character is one token. -/
theorem lexes_mark {c : Char} (mark : c ∈ plainMarks) (rest : List Char) :
    Lexes (c :: rest) [.punct c (joins rest)] rest := by
  have all : ∀ c ∈ plainMarks, c ∉ literalMarks ∧ isIdentifierContinue c = false ∧
      c.isDigit = false ∧ c ≠ '\'' :=
    forall_mem_of_all (by decide)
  obtain ⟨ordinary, stops, noDigit, noQuote⟩ := all c mark
  have calm : IsCalm (c :: rest) := by
    simpa [IsCalm, stops] using ordinary
  apply lexes_of_leaf (isPlain_of_mem_plainMarks mark) le_rfl
  intro bound _
  rw [leaf?, literal_of_isCalm calm noDigit, punctuationToken?, punctuationChar?_of_mem mark]
  simp [noQuote, joins]

end RecordCoding.Source
