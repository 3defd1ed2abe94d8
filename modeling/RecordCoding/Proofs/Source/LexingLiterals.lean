import RecordCoding.Proofs.Source.Lexing

/-!
# Lexing lifetimes, literals and groups

What else a text may begin with: a lifetime, a number in decimal digits, a text in quotes in which
nothing is escaped, and a group around what is lexed by itself.
-/

namespace RecordCoding.Source

open Text Lexer

/-- The characters in front of which every token ends. -/
def tokenEnds : List Char := " <>:,;)]".toList

/-- Every token ends in front of a text. -/
def EndsToken (rest : List Char) : Prop := ∀ c ∈ rest.head?, c ∈ tokenEnds

/-- Words are tokens too. -/
theorem EndsToken.endsWord {rest : List Char} (behind : EndsToken rest) : EndsWord rest := by
  have stops : ∀ c ∈ tokenEnds, isIdentifierContinue c = false ∧ c ∉ literalMarks :=
    forall_mem_of_all (by decide)
  exact ⟨fun c first => (stops c (behind c first)).1, fun c first => (stops c (behind c first)).2⟩

/-- No suffix of a literal is where tokens end. -/
theorem EndsToken.optionalWord_eq {rest : List Char} (behind : EndsToken rest) :
    optionalWord rest = rest := by
  have stops : ∀ c ∈ tokenEnds, isIdentifierStart c = false := forall_mem_of_all (by decide)
  cases rest with
  | nil => rfl
  | cons c rest => simp [optionalWord, word, stops c (behind c rfl)]

/-! ## Lifetimes -/

/-- Behind the mark of a lifetime there is a word, and no second mark. -/
theorem quotedChar_of_word {c : Char} {chars rest : List Char}
    (start : isIdentifierStart c = true)
    (continues : ∀ d ∈ chars, isIdentifierContinue d = true) (behind : EndsWord rest) :
    quotedChar .unicode (c :: (chars ++ rest)) = none := by
  have noEscape : c ≠ '\\' := by
    rintro rfl
    revert start
    decide
  have unmarked : (chars ++ rest).head? ≠ some '\'' := by
    intro first
    cases chars with
    | nil => exact behind.calm _ first (by decide)
    | cons d chars =>
      obtain rfl : d = '\'' := Option.some.inj first
      have stops := continues _ List.mem_cons_self
      rw [not_continue_of_quote _ (by decide)] at stops
      cases stops
  have unclosed : Lexer.behind "'" (chars ++ rest) = none := by
    cases shape : chars ++ rest with
    | nil => rfl
    | cons d others =>
      rw [shape] at unmarked
      exact behind_of_head_ne others (fun same => unmarked (by simpa using same.symm)) (by decide)
  have after : quotedChar .unicode (c :: (chars ++ rest)) =
      (Lexer.behind "'" (chars ++ rest)).map optionalWord := by
    unfold quotedChar
    split
    · rename_i same
      exact absurd (List.cons.inj same).1 noEscape
    · rename_i same
      obtain ⟨rfl, rfl⟩ := List.cons.inj same
      rfl
    · rename_i same
      cases same
  rw [after, unclosed]
  rfl

/-- A lifetime is no literal. -/
theorem literal_of_lifetime {c : Char} {chars rest : List Char}
    (start : isIdentifierStart c = true)
    (continues : ∀ d ∈ chars, isIdentifierContinue d = true) (behind : EndsWord rest)
    (bound : Nat) : literal bound ('\'' :: c :: (chars ++ rest)) = none := by
  have noText (opening : String) (letters : Letters) (letter : opening ∈ ["", "b", "c"]) :
      textLiteral opening letters bound ('\'' :: c :: (chars ++ rest)) = none := by
    have apart : ∀ opening ∈ ["", "b", "c"], (opening ++ "\"").toList.head? ≠ some '\'' ∧
        (opening ++ "r").toList.head? ≠ some '\'' := by
      decide
    exact textLiteral_of_head_ne letters bound _ (apart opening letter).1 (apart opening letter).2
  have quoted : (Lexer.behind "'" ('\'' :: c :: (chars ++ rest))).bind (quotedChar .unicode) =
      none := by
    have opened : Lexer.behind "'" ('\'' :: c :: (chars ++ rest)) = some (c :: (chars ++ rest)) :=
      behind_append "'" _
    rw [opened, Option.bind_some, quotedChar_of_word start continues behind]
  rw [literal, noText _ _ (by decide), noText _ _ (by decide), noText _ _ (by decide), quoted,
    behind_of_head_ne _ (by decide) (by decide), number_of_not_isDigit (by decide)]
  rfl

/-- A lifetime is its mark and a word. -/
theorem lexes_lifetime {chars rest : List Char} (word : IsWord chars) (behind : EndsWord rest) :
    Lexes ('\'' :: (chars ++ rest)) [.punct '\'' true, .ident (String.ofList chars)] rest := by
  have name := lexes_word word behind
  obtain ⟨start, continues⟩ := word
  rename_i c chars
  have plain : IsPlain '\'' := ⟨⟨by decide, by decide, by decide⟩, rfl, rfl⟩
  refine Lexes.cons (lexes_of_leaf plain le_rfl fun bound _ => ?_) name
  have seen : punctuationChar? ('\'' :: c :: (chars ++ rest)) = some '\'' := rfl
  have read : identifier (c :: chars ++ rest) = some rest := by
    rw [(isCalm_of_word start continues behind).identifier_eq]
    simp [Lexer.word, start, dropWhile_of_word continues behind]
  have unmarked (mark : Char) (special : mark ∈ literalMarks) :
      startsWith (String.singleton mark) rest = false := by
    cases rest with
    | nil => simp [startsWith]
    | cons d rest =>
      have other : mark ≠ d := by
        rintro rfl
        exact behind.calm mark rfl special
      simp [startsWith, List.isPrefixOf, other]
  have noQuote : startsWith "'" rest = false := unmarked '\'' (by decide)
  have noMark : startsWith "#" rest = false := unmarked '#' (by decide)
  rw [List.cons_append] at read ⊢
  rw [leaf?, literal_of_lifetime start continues behind, punctuationToken?, seen]
  simp [read, noQuote, noMark]

/-! ## Numbers -/

/-- What comes in front of something else is taken. -/
theorem takeWhile_of_stops {p : Char → Bool} {chars rest : List Char}
    (all : ∀ c ∈ chars, p c = true) (stops : ∀ c ∈ rest.head?, p c = false) :
    (chars ++ rest).takeWhile p = chars := by
  rw [List.takeWhile_append_of_pos all]
  cases rest with
  | nil => simp
  | cons c rest => simp [stops c rfl]

section Numbers

variable {c : Char} {chars rest : List Char}

/-- What does not begin with a quote or a letter in front of one is a literal if it is a number. -/
theorem literal_eq_number {c : Char} (other : c ∉ ['"', '\'', 'b', 'c', 'r']) (rest : List Char)
    (bound : Nat) : literal bound (c :: rest) = number (c :: rest) := by
  simp only [List.mem_cons, List.not_mem_nil, or_false, not_or] at other
  obtain ⟨noQuote, noMark, noB, noC, noR⟩ := other
  have noText (letters : Letters) : textLiteral "" letters bound (c :: rest) = none :=
    textLiteral_of_head_ne letters bound rest (by simpa using Ne.symm noQuote)
      (by simpa using Ne.symm noR)
  have noBytes (letters : Letters) : textLiteral "b" letters bound (c :: rest) = none :=
    textLiteral_of_head_ne letters bound rest (by simpa using Ne.symm noB)
      (by simpa using Ne.symm noB)
  have noTerminated (letters : Letters) : textLiteral "c" letters bound (c :: rest) = none :=
    textLiteral_of_head_ne letters bound rest (by simpa using Ne.symm noC)
      (by simpa using Ne.symm noC)
  rw [literal, noText, noBytes, noTerminated,
    behind_of_head_ne rest (by simpa using Ne.symm noB) (by decide),
    behind_of_head_ne rest (by simpa using Ne.symm noMark) (by decide)]
  rfl

/-- Digits alone have no fraction. -/
theorem fractionalDigits_of_whole (digits : ∀ d ∈ c :: chars, d.isDigit = true)
    (behind : EndsToken rest) : fractionalDigits (c :: (chars ++ rest)) = none := by
  have stops : ∀ d ∈ tokenEnds, isDecimalChar d = false ∧ d ≠ '.' ∧ d ≠ 'e' ∧ d ≠ 'E' :=
    forall_mem_of_all (by decide)
  have left : (c :: (chars ++ rest)).dropWhile isDecimalChar = rest := by
    rw [← List.cons_append]
    refine dropWhile_of_stops (fun d member => ?_) fun d first => (stops d (behind d first)).1
    rw [isDecimalChar, digits d member, Bool.true_or]
  unfold fractionalDigits
  rw [left]
  cases rest with
  | nil => simp
  | cons d rest =>
    obtain ⟨-, noPoint, noExponent⟩ := stops d (behind d rfl)
    simp [noPoint, noExponent]

/-- Decimal digits are read up to their end. -/
theorem digitsOfBase_of_digits (digits : ∀ d ∈ c :: chars, d.isDigit = true)
    (behind : EndsToken rest) : digitsOfBase 10 (c :: (chars ++ rest)) = some rest := by
  have stops : ∀ d ∈ tokenEnds, (d == '_' || (hexValue? d).any (· < 10)) = false ∧
      d.isDigit = false :=
    forall_mem_of_all (by decide)
  have value : ∀ d ∈ c :: chars, (d == '_' || (hexValue? d).any (· < 10)) = true := by
    intro d member
    obtain ⟨lower, upper⟩ := Char.isDigit_iff_toNat.mp (digits d member)
    have small : d.toNat - 48 < 10 := by
      have nine : '9'.toNat = 57 := rfl
      omega
    simp [hexValue?, digits d member, small]
  have unfit : ∀ d ∈ rest.head?, (d == '_' || (hexValue? d).any (· < 10)) = false :=
    fun d first => (stops d (behind d first)).1
  have noPadding : (c == '_') = false := by
    rw [beq_eq_false_iff_ne]
    rintro rfl
    cases digits '_' List.mem_cons_self
  have ends : (rest.head?.map Char.isDigit).getD false = false := by
    cases rest with
    | nil => rfl
    | cons d rest => exact (stops d (behind d rfl)).2
  simp only [digitsOfBase]
  rw [← List.cons_append, takeWhile_of_stops value unfit, dropWhile_of_stops value unfit,
    List.all_cons, noPadding, Bool.false_and, Bool.false_or, ends, if_neg Bool.false_ne_true]

/-- No letter of another base is behind a digit. -/
theorem wholeDigits_of_digits (digits : ∀ d ∈ c :: chars, d.isDigit = true)
    (behind : EndsToken rest) : wholeDigits (c :: (chars ++ rest)) = some rest := by
  have unmarked : ∀ d ∈ (chars ++ rest).head?, d ∉ ['x', 'o', 'b'] := by
    intro d first
    cases chars with
    | nil =>
      have stops : ∀ d ∈ tokenEnds, d ∉ ['x', 'o', 'b'] := forall_mem_of_all (by decide)
      exact stops d (behind d first)
    | cons e chars =>
      obtain rfl : e = d := Option.some.inj first
      have digit := digits e (by simp)
      intro member
      have unfit : ∀ d ∈ ['x', 'o', 'b'], d.isDigit = false := forall_mem_of_all (by decide)
      rw [unfit e member] at digit
      cases digit
  have letter (d : Char) (base : d ∈ ['x', 'o', 'b']) (others : List Char)
      (same : chars ++ rest = d :: others) : False :=
    unmarked d (by rw [same]; rfl) base
  unfold wholeDigits
  split
  · rename_i same
    exact (letter 'x' (by decide) _ (List.cons.inj same).2).elim
  · rename_i same
    exact (letter 'o' (by decide) _ (List.cons.inj same).2).elim
  · rename_i same
    exact (letter 'b' (by decide) _ (List.cons.inj same).2).elim
  · rename_i same
    obtain rfl := (List.cons.inj same).1
    cases digits '_' List.mem_cons_self
  · exact digitsOfBase_of_digits digits behind

/-- What begins with a digit is no delimiter, and is not passed over. -/
theorem isPlain_of_isDigit (digit : c.isDigit = true) : IsPlain c := by
  obtain ⟨lower, upper⟩ := Char.isDigit_iff_toNat.mp digit
  have notBlank : Lexer.isBlank c = false := eq_false_of_interval (by decide) lower upper
  have other : ∀ d ∈ ['/', '\ufeff', '(', '[', '\x7b', ')', ']', '\x7d'], c ≠ d := by
    rintro d member rfl
    have unfit : ∀ d ∈ ['/', '\ufeff', '(', '[', '\x7b', ')', ']', '\x7d'], d.isDigit = false :=
      forall_mem_of_all (by decide)
    rw [unfit c member] at digit
    cases digit
  refine ⟨⟨notBlank, other _ (by simp), other _ (by simp)⟩, ?_, ?_⟩
  · unfold Delimiter.ofOpening?
    split <;> first | rfl | exact absurd rfl (other _ (by simp))
  · unfold Delimiter.ofClosing?
    split <;> first | rfl | exact absurd rfl (other _ (by simp))

/-- A number in decimal digits is one token. -/
theorem lexes_number (digits : ∀ d ∈ c :: chars, d.isDigit = true) (behind : EndsToken rest) :
    Lexes (c :: (chars ++ rest)) [.literal (String.ofList (c :: chars))] rest := by
  have digit := digits c List.mem_cons_self
  have apart : c ∉ ['"', '\'', 'b', 'c', 'r'] := by
    intro member
    have unfit : ∀ d ∈ ['"', '\'', 'b', 'c', 'r'], d.isDigit = false :=
      forall_mem_of_all (by decide)
    rw [unfit c member] at digit
    cases digit
  have complete : endOfWord rest = some rest := by
    cases rest with
    | nil => rfl
    | cons d rest => simp [endOfWord, behind.endsWord.ends d rfl]
  have read (bound : Nat) : literal bound (c :: (chars ++ rest)) = some rest := by
    rw [literal_eq_number apart, number]
    dsimp only
    rw [fractionalDigits_of_whole digits behind, wholeDigits_of_digits digits behind,
      Option.bind_some, behind.optionalWord_eq, complete]
    rfl
  refine lexes_of_leaf (isPlain_of_isDigit digit) (by simp) fun bound _ => ?_
  rw [leaf?, read]
  dsimp only
  rw [← List.cons_append, consumed_append]

end Numbers

/-! ## Texts -/

/-- A text in which nothing is escaped goes up to its closing quote. -/
theorem quotedEnd_of_plain {content : List Char} (plain : ∀ c ∈ content, c ∉ ['"', '\\', '\r'])
    (rest : List Char) {bound : Nat} (room : content.length < bound) :
    quotedEnd .unicode bound (content ++ '"' :: rest) = some (optionalWord rest) := by
  induction content generalizing bound with
  | nil =>
    obtain ⟨bound, rfl⟩ := Nat.exists_eq_succ_of_ne_zero (Nat.ne_zero_of_lt room)
    simp [quotedEnd]
  | cons c content ih =>
    obtain ⟨bound, rfl⟩ := Nat.exists_eq_succ_of_ne_zero (Nat.ne_zero_of_lt room)
    obtain ⟨apart, others⟩ := List.forall_mem_cons.mp plain
    simp only [List.mem_cons, List.not_mem_nil, or_false, not_or] at apart
    rw [List.length_cons, Nat.succ_lt_succ_iff] at room
    rw [List.cons_append, quotedEnd, ih others room]
    · rfl
    all_goals simp [apart]

/-- A text in quotes, in which nothing is escaped, is one token. -/
theorem lexes_quotation {content rest : List Char} (plain : ∀ c ∈ content, c ∉ ['"', '\\', '\r'])
    (behind : EndsToken rest) :
    Lexes ('"' :: (content ++ '"' :: rest)) [.literal (String.ofList ('"' :: content ++ ['"']))]
      rest := by
  have quote : IsPlain '"' := ⟨⟨by decide, by decide, by decide⟩, rfl, rfl⟩
  refine lexes_of_leaf quote (by simp; omega) fun bound room => ?_
  have opened : Lexer.behind ("" ++ "\"") ('"' :: (content ++ '"' :: rest)) =
      some (content ++ '"' :: rest) := behind_append "\"" _
  have text : textLiteral "" .unicode bound ('"' :: (content ++ '"' :: rest)) = some rest := by
    have inside : content.length < bound := by
      rw [List.length_append] at room
      omega
    rw [textLiteral, opened, Option.bind_some, quotedEnd_of_plain plain rest inside,
      behind.optionalWord_eq]
    rfl
  have read : literal bound ('"' :: (content ++ '"' :: rest)) = some rest := by
    rw [literal, text]
    rfl
  have whole : '"' :: (content ++ '"' :: rest) = ('"' :: content ++ ['"']) ++ rest := by
    simp
  rw [leaf?, read]
  dsimp only
  rw [whole, consumed_append]

/-! ## Groups -/

theorem Delimiter.isVisible (d : Delimiter) : IsVisible d.opening ∧ IsVisible d.closing := by
  cases d <;> exact ⟨⟨by decide, by decide, by decide⟩, by decide, by decide, by decide⟩

theorem Delimiter.ofOpening?_closing (d : Delimiter) : ofOpening? d.closing = none := by
  cases d <;> rfl

/-- A group is what stands between its delimiters. -/
theorem lexes_group {delimiter : Delimiter} {chars rest : List Char} {tokens : List Token}
    (noError : chars.head? ≠ some '/')
    (content : Lexes (chars ++ delimiter.closing :: rest) tokens (delimiter.closing :: rest)) :
    Lexes (delimiter.opening :: (chars ++ delimiter.closing :: rest)) [.group delimiter tokens]
      rest := by
  intro bound before groups room
  simp only [List.length_append, List.length_cons] at room
  obtain ⟨n, rfl⟩ : ∃ n, bound = n + 1 := ⟨bound - 1, by omega⟩
  obtain ⟨bound', room', reads⟩ := content n [] (⟨delimiter, before⟩ :: groups) (by simp; omega)
  obtain ⟨m, rfl⟩ : ∃ m, bound' = m + 1 := ⟨bound' - 1, by simp at room'; omega⟩
  obtain ⟨opening, closing⟩ := delimiter.isVisible
  have readable : startsWith unreadable
      (delimiter.opening :: (chars ++ delimiter.closing :: rest)) = false := by
    have noSlash : (chars ++ delimiter.closing :: rest).head? ≠ some '/' := by
      cases chars with
      | nil => cases delimiter <;> simp [Delimiter.closing]
      | cons c chars => exact noError
    cases shape : chars ++ delimiter.closing :: rest with
    | nil => simp at shape
    | cons c behind =>
      rw [shape] at noSlash
      have other : '/' ≠ c := fun same => noSlash (by rw [← same]; rfl)
      simp [startsWith, unreadable, List.isPrefixOf, other]
  refine ⟨m, by simpa using room', ?_⟩
  rw [readFrom, skipBlanks_of_isVisible opening, documentation?_of_isVisible opening]
  dsimp only
  simp only [Option.filter_none, Delimiter.ofOpening?_opening, Option.filter_some, readable,
    Bool.not_false, if_true, reads]
  rw [readFrom, skipBlanks_of_isVisible closing, documentation?_of_isVisible closing]
  simp [Delimiter.ofOpening?_closing]
end RecordCoding.Source
