import Mathlib.Data.List.TakeWhile
import RecordCoding.Proofs.Expansion.Tokens
import RecordCoding.Source.Lexer

/-!
# Identifiers in source text

What an identifier is made of, and that lexing finds just that: an identifier in front of something
that does not go on with it is one token, and every identifier among the tokens of a text is one.
-/

namespace RecordCoding.Source

open Text Lexer

/-! ## Identifiers -/

/-- A plain word. -/
inductive IsWord : List Char → Prop
  | mk {c : Char} {rest : List Char} (start : isIdentifierStart c = true)
    (continues : ∀ d ∈ rest, isIdentifierContinue d = true) : IsWord (c :: rest)

/-- The characters of an identifier: a plain word, or one that is written raw. -/
inductive IdentifierChars : List Char → Prop
  | plain {chars : List Char} (word : IsWord chars) : IdentifierChars chars
  | raw {chars : List Char} (word : IsWord chars)
    (allowed : String.ofList chars ∉ neverRawWords) : IdentifierChars ('r' :: '#' :: chars)

/-- A text that is an identifier. -/
def IsIdentifierText (name : String) : Prop := IdentifierChars name.toList

instance decidableIsWord : DecidablePred IsWord
  | [] => .isFalse nofun
  | c :: rest =>
    decidable_of_iff (isIdentifierStart c = true ∧ rest.all isIdentifierContinue = true)
      ⟨fun ⟨start, continues⟩ => .mk start (List.all_eq_true.mp continues),
        fun (.mk start continues) => ⟨start, List.all_eq_true.mpr continues⟩⟩

instance decidableIdentifierChars : DecidablePred IdentifierChars := fun chars =>
  decidable_of_iff (IsWord chars ∨ chars.take 2 = ['r', '#'] ∧ IsWord (chars.drop 2) ∧
    String.ofList (chars.drop 2) ∉ neverRawWords) <| by
  constructor
  · rintro (word | ⟨marked, word, allowed⟩)
    · exact .plain word
    · rw [← List.take_append_drop 2 chars, marked]
      exact .raw word allowed
  · rintro (word | ⟨word, allowed⟩)
    · exact .inl word
    · exact .inr ⟨rfl, word, allowed⟩

instance decidableIsIdentifierText : DecidablePred IsIdentifierText := fun name =>
  decidableIdentifierChars name.toList

theorem isIdentifierText_ofList {chars : List Char} (identifier : IdentifierChars chars) :
    IsIdentifierText (String.ofList chars) := by
  rwa [IsIdentifierText, String.toList_ofList]

/-! ## Characters -/

/-- What was looked at for each element of a list holds of all of them. -/
theorem forall_mem_of_all {α : Type} {P : α → Prop} [DecidablePred P] {xs : List α}
    (all : (xs.all fun x => decide (P x)) = true) : ∀ x ∈ xs, P x := by
  simpa using all

/-- The characters that make quotes or mark raw identifiers go on with no word. -/
theorem not_continue_of_quote : ∀ c ∈ ['"', '\'', '#'], isIdentifierContinue c = false :=
  forall_mem_of_all (by decide)

/-- No identifier begins with what means something else. -/
theorem not_start_of_special : ∀ c ∈ ['"', '\'', '#', '/', '(', '[', '\x7b', ')', ']', '\x7d'],
    isIdentifierStart c = false :=
  forall_mem_of_all (by decide)

/-- No identifier begins with punctuation. -/
theorem not_start_of_punctuation : ∀ c ∈ punctuation, isIdentifierStart c = false :=
  forall_mem_of_all (by decide)

/-- What is in a table is in one of its intervals. -/
theorem exists_of_covers {table : List (Nat × Nat)} {n : Nat} (covered : covers table n = true) :
    ∃ interval ∈ table, interval.1 ≤ n ∧ n ≤ interval.2 := by
  induction table with
  | nil => cases covered
  | cons interval rest ih =>
    unfold covers at covered
    split at covered
    · cases covered
    · rename_i above
      rcases (Bool.or_eq_true _ _).mp covered with here | later
      · exact ⟨interval, List.mem_cons_self, Nat.le_of_not_lt above, of_decide_eq_true here⟩
      · obtain ⟨found, inside, bounds⟩ := ih later
        exact ⟨found, List.mem_cons_of_mem _ inside, bounds⟩

/-- No character of an interval passes a test if that was looked at for each of them. -/
theorem eq_false_of_interval {test : Char → Bool} {c : Char} {first last : Nat}
    (unfit : ∀ k ∈ List.range (last - first + 1), test (Char.ofNat (first + k)) = false)
    (lower : first ≤ c.toNat) (upper : c.toNat ≤ last) : test c = false := by
  have here := unfit (c.toNat - first) (List.mem_range.mpr (by omega))
  rwa [Nat.add_sub_cancel' lower, Char.ofNat_toNat] at here

/-- No white space begins an identifier. -/
theorem not_start_of_blankTable : ∀ interval ∈ blankTable,
    ∀ k ∈ List.range (interval.2 - interval.1 + 1),
      isIdentifierStart (Char.ofNat (interval.1 + k)) = false := by
  decide +kernel

/-- What begins an identifier is no digit. -/
theorem isDigit_of_start {c : Char} (start : isIdentifierStart c = true) : c.isDigit = false := by
  rw [← Bool.not_eq_true]
  intro digit
  obtain ⟨lower, upper⟩ := Char.isDigit_iff_toNat.mp digit
  have unfit : isIdentifierStart c = false :=
    eq_false_of_interval (by decide) lower upper
  exact absurd start (by simp [unfit])

/-- What begins an identifier is not passed over. -/
theorem isBlank_of_start {c : Char} (start : isIdentifierStart c = true) :
    Lexer.isBlank c = false := by
  have white : Text.isBlank c = false := by
    rw [← Bool.not_eq_true]
    intro covered
    obtain ⟨interval, inside, lower, upper⟩ := exists_of_covers covered
    have unfit : isIdentifierStart c = false :=
      eq_false_of_interval (not_start_of_blankTable interval inside) lower upper
    rw [start] at unfit
    cases unfit
  have unmarked : ∀ mark ∈ ['\u200e', '\u200f'], c ≠ mark := by
    rintro mark member rfl
    have unfit : ∀ mark ∈ ['\u200e', '\u200f'], isIdentifierStart mark = false :=
      forall_mem_of_all (by decide +kernel)
    rw [unfit c member] at start
    cases start
  simp only [Lexer.isBlank, white, Bool.false_or, Bool.or_eq_false_iff, beq_eq_false_iff_ne]
  exact ⟨unmarked _ (by simp), unmarked _ (by simp)⟩

/-- A character that is not passed over, wherever it stands. -/
structure IsVisible (c : Char) : Prop where
  notBlank : Lexer.isBlank c = false
  noComment : c ≠ '/'
  noByteOrder : c ≠ '\ufeff'

/-- A visible character that is not the delimiter of a group. -/
structure IsPlain (c : Char) : Prop where
  visible : IsVisible c
  noOpening : Delimiter.ofOpening? c = none
  noClosing : Delimiter.ofClosing? c = none

theorem isPlain_of_start {c : Char} (start : isIdentifierStart c = true) : IsPlain c := by
  have other : ∀ d ∈ ['"', '\'', '#', '/', '(', '[', '\x7b', ')', ']', '\x7d'], c ≠ d := by
    rintro d member rfl
    rw [not_start_of_special c member] at start
    cases start
  refine ⟨⟨isBlank_of_start start, other _ (by simp), ?_⟩, ?_, ?_⟩
  · rintro rfl
    have unfit : isIdentifierStart '\ufeff' = false := by decide +kernel
    rw [unfit] at start
    cases start
  · unfold Delimiter.ofOpening?
    split <;> first | rfl | exact absurd rfl (other _ (by simp))
  · unfold Delimiter.ofClosing?
    split <;> first | rfl | exact absurd rfl (other _ (by simp))

/-- Punctuation other than what may begin a comment, a lifetime or a literal. -/
def plainMarks : List Char := "~!@$%^&*-=+|;:,<.>?".toList

theorem isPlain_of_mem_plainMarks {c : Char} (mark : c ∈ plainMarks) : IsPlain c := by
  have all : ∀ c ∈ plainMarks, Lexer.isBlank c = false ∧ c ≠ '/' ∧ c ≠ '\ufeff' ∧
      Delimiter.ofOpening? c = none ∧ Delimiter.ofClosing? c = none :=
    forall_mem_of_all (by decide)
  obtain ⟨notBlank, noComment, noByteOrder, noOpening, noClosing⟩ := all c mark
  exact ⟨⟨notBlank, noComment, noByteOrder⟩, noOpening, noClosing⟩

end RecordCoding.Source
