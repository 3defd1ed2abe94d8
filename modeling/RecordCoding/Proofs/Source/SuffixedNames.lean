import Mathlib.Data.List.Chain
import RecordCoding.Configuration
import RecordCoding.Proofs.Source.Carrying
import RecordCoding.Proofs.Source.IdentifierTokens

/-!
# Words with a suffix

A suffix of letters, digits and underscores goes on with a word exactly if all its characters may
follow in an identifier. Letters and digits in the wide sense of Unicode do not all do that, `²` for
one, and then there are no tokens at all: such a character is no white space, and nothing begins
with it.
-/

namespace RecordCoding

namespace Text

/-! ## Characters -/

/-- The intervals of a table are in ascending order. -/
def IsAscending (table : List (Nat × Nat)) : Prop :=
  table.IsChain fun first second => first.1 < second.1

instance (table : List (Nat × Nat)) : Decidable (IsAscending table) :=
  inferInstanceAs (Decidable (table.IsChain _))

/-- Every point of an interval is covered, wherever in the table the interval is. -/
theorem covers_of_mem {table : List (Nat × Nat)} (ascending : IsAscending table)
    {interval : Nat × Nat} (member : interval ∈ table) {n : Nat} (lower : interval.1 ≤ n)
    (upper : n ≤ interval.2) : covers table n = true := by
  have sorted : table.Pairwise fun first second => first.1 < second.1 :=
    List.isChain_iff_pairwise.mp ascending
  clear ascending
  induction table with
  | nil => cases member
  | cons first rest ih =>
    obtain ⟨below, others⟩ := List.pairwise_cons.mp sorted
    rcases List.mem_cons.mp member with rfl | later
    · exact covers_head lower upper
    · have here : ¬ n < first.1 := by
        have less := below interval later
        omega
      rw [covers, if_neg here, ih later others, Bool.or_true]

/-- Whether every interval of an ascending table lies within one of another. -/
def areWithin : List (Nat × Nat) → List (Nat × Nat) → Bool
  | [], _ => true
  | interval :: rest, around =>
    match around.dropWhile (·.2 < interval.1) with
    | [] => false
    | outer :: others =>
      outer.1 ≤ interval.1 && interval.2 ≤ outer.2 && areWithin rest (outer :: others)

/-- Each interval has one around it. -/
theorem exists_around {table around : List (Nat × Nat)} (within : areWithin table around = true)
    {interval : Nat × Nat} (member : interval ∈ table) :
    ∃ outer ∈ around, outer.1 ≤ interval.1 ∧ interval.2 ≤ outer.2 := by
  induction table generalizing around with
  | nil => cases member
  | cons first rest ih =>
    unfold areWithin at within
    cases left : around.dropWhile (·.2 < first.1) with
    | nil => simp [left] at within
    | cons outer others =>
      have kept : outer :: others ⊆ around := left ▸ (List.dropWhile_sublist _).subset
      simp only [left, Bool.and_eq_true, decide_eq_true_eq] at within
      obtain ⟨⟨lower, upper⟩, onward⟩ := within
      rcases List.mem_cons.mp member with rfl | later
      · exact ⟨outer, kept List.mem_cons_self, lower, upper⟩
      · obtain ⟨found, inside, bounds⟩ := ih onward later
        exact ⟨found, kept inside, bounds⟩

/-- What begins an identifier may also follow in one. -/
theorem isIdentifierContinue_of_start {c : Char} (start : isIdentifierStart c = true) :
    isIdentifierContinue c = true := by
  unfold isIdentifierStart at start
  unfold isIdentifierContinue
  split at start
  · rename_i ascii
    rw [if_pos ascii]
    rcases (Bool.or_eq_true _ _).mp start with letter | underscore
    · simp [Char.isAlphanum, letter]
    · simp [underscore]
  · rename_i wide
    rw [if_neg wide]
    obtain ⟨interval, inside, lower, upper⟩ := Source.exists_of_covers start
    have within : areWithin identifierStartTable identifierContinueTable = true := by
      decide +kernel
    obtain ⟨outer, around, below, above⟩ := exists_around within inside
    exact covers_of_mem (by decide +kernel) around (below.trans lower) (upper.trans above)

/-- No white space is a letter or a digit. -/
theorem not_alphanumeric_of_blankTable : ∀ interval ∈ blankTable,
    ∀ k ∈ List.range (interval.2 - interval.1 + 1),
      isAlphanumeric (Char.ofNat (interval.1 + k)) = false := by
  decide +kernel

/-- Neither are the invisible marks of writing direction and of a byte order. -/
theorem not_alphanumeric_of_mark :
    ∀ mark ∈ ['\u200e', '\u200f', '\ufeff'], isAlphanumeric mark = false :=
  Source.forall_mem_of_all (by decide +kernel)

end Text

open Text RecordCoding.Configuration

/-- A character that a suffix may have, although no identifier goes on with it. -/
structure IsStranger (c : Char) : Prop where
  accepted : isSuffixChar c = true
  stops : isIdentifierContinue c = false

namespace IsStranger

variable {c : Char}

/-- There are no such characters in ASCII. -/
theorem wide (stranger : IsStranger c) : 128 ≤ c.toNat := by
  by_contra small
  have ascii : c.toNat < 128 := by omega
  have accepted := stranger.accepted
  have stops := stranger.stops
  rw [isIdentifierContinue, if_pos ascii] at stops
  rw [isSuffixChar, isAlphanumeric, if_pos ascii, stops] at accepted
  cases accepted

theorem ne_of_ascii (stranger : IsStranger c) {d : Char} (ascii : d.toNat < 128) : c ≠ d := by
  rintro rfl
  exact Nat.not_lt.mpr stranger.wide ascii

/-- It is a letter or a digit. -/
theorem isAlphanumeric (stranger : IsStranger c) : Text.isAlphanumeric c = true := by
  have accepted := stranger.accepted
  have other : (c == '_') = false := by simpa using stranger.ne_of_ascii (d := '_') (by decide)
  rwa [isSuffixChar, other, Bool.or_false] at accepted

theorem notMem_of_ascii (stranger : IsStranger c) {chars : List Char}
    (ascii : ∀ d ∈ chars, d.toNat < 128) : c ∉ chars :=
  fun member => stranger.ne_of_ascii (ascii c member) rfl

theorem isVisible (stranger : IsStranger c) : Source.IsVisible c where
  notBlank := by
    have letter := stranger.isAlphanumeric
    have white : Text.isBlank c = false := by
      rw [← Bool.not_eq_true]
      intro covered
      obtain ⟨interval, inside, lower, upper⟩ := Source.exists_of_covers covered
      have unfit : Text.isAlphanumeric c = false :=
        Source.eq_false_of_interval (not_alphanumeric_of_blankTable interval inside) lower upper
      rw [letter] at unfit
      cases unfit
    have unmarked : ∀ mark ∈ ['\u200e', '\u200f', '\ufeff'], c ≠ mark := by
      rintro mark member rfl
      rw [not_alphanumeric_of_mark c member] at letter
      cases letter
    simp [Source.Lexer.isBlank, white, unmarked '\u200e' (by simp), unmarked '\u200f' (by simp)]
  noComment := stranger.ne_of_ascii (by decide)
  noByteOrder := by
    rintro rfl
    have letter := stranger.isAlphanumeric
    rw [not_alphanumeric_of_mark '\ufeff' (by simp)] at letter
    cases letter

theorem isPlain (stranger : IsStranger c) : Source.IsPlain c where
  visible := stranger.isVisible
  noOpening := by
    unfold Source.Delimiter.ofOpening?
    split <;> first | rfl | exact absurd rfl (stranger.ne_of_ascii (by decide))
  noClosing := by
    unfold Source.Delimiter.ofClosing?
    split <;> first | rfl | exact absurd rfl (stranger.ne_of_ascii (by decide))

end IsStranger

namespace Source

open Lexer

/-- No token begins with such a character. -/
theorem leaf?_of_isStranger {c : Char} (stranger : IsStranger c) (rest : List Char)
    (bound : Nat) : leaf? bound (c :: rest) = none := by
  have calm : IsCalm (c :: rest) := by
    have ordinary : c ∉ literalMarks := stranger.notMem_of_ascii (forall_mem_of_all (by decide))
    simpa [IsCalm, stranger.stops] using ordinary
  have noDigit : c.isDigit = false := by
    rw [← Bool.not_eq_true]
    intro digit
    have wide := stranger.wide
    have small : c.toNat ≤ 57 := (Char.isDigit_iff_toNat.mp digit).2
    omega
  have noStart : isIdentifierStart c = false := by
    rw [← Bool.not_eq_true]
    intro start
    have goesOn := isIdentifierContinue_of_start start
    rw [stranger.stops] at goesOn
    cases goesOn
  have noMark : c ∉ punctuation := stranger.notMem_of_ascii (forall_mem_of_all (by decide))
  have noWord : identifierToken (c :: rest) = none := by
    rw [calm.identifierToken_eq]
    simp [Lexer.word, noStart]
  have noError : behind unreadable (c :: rest) = none := by
    refine behind_of_head_ne rest (fun same => ?_) (by decide)
    exact stranger.ne_of_ascii (d := '(') (by decide) (Option.some.inj same).symm
  rw [leaf?, literal_of_isCalm calm noDigit, punctuationToken?_of_notMem noMark, noWord, noError]
  rfl

/-- A word with such a character behind it has no tokens, whatever follows. -/
theorem tokenize?_of_isStranger {name : String} {chars rest : List Char} {c : Char}
    (split : name.toList = chars ++ c :: rest) (word : IsWord chars) (stranger : IsStranger c) :
    tokenize? name = none := by
  have unmarked : name.toList.head? ≠ some '\ufeff' := by
    rw [split]
    obtain ⟨start, -⟩ := word
    exact fun marked => (isPlain_of_start start).visible.noByteOrder (Option.some.inj marked)
  have ends : EndsWord (c :: rest) := by
    constructor <;> rintro _ ⟨⟩
    · exact stranger.stops
    · exact stranger.notMem_of_ascii (forall_mem_of_all (by decide))
  obtain ⟨bound, room, reads⟩ := lexes_word word ends (name.toList.length + 2) [] []
    (split ▸ le_rfl)
  obtain ⟨n, rfl⟩ : ∃ n, bound = n + 1 := ⟨bound - 1, by omega⟩
  rw [tokenize?, Lexes.withoutMark_eq unmarked]
  rw [← split] at reads
  rw [reads, readFrom_of_isPlain stranger.isPlain, leaf?_of_isStranger stranger]
  rfl

/-- A plain word is read as a name, unless it is reserved. -/
theorem readName_of_isWord {name : String} (word : IsWord name.toList) :
    readName name = if isName name then .ok name else .error (.reserved name) := by
  have single : Parser.name.start ⟨[.ident name], [], none⟩ =
      if isName name then (.ok name, ⟨[], [.ident name], none⟩)
      else (.error (.reserved name), ⟨[.ident name], [], none⟩) := by
    rw [Parser.name, Parser.start_bind_of_ok (Parser.start_ahead _)]
    dsimp only
    split <;> rfl
  rw [readName, readText, tokenize?_of_isWord word]
  dsimp only [readTokens, Parser.readAll]
  rw [single]
  cases isName name <;> rfl

/-- A word with a suffix is read as a name exactly if all characters of the suffix may follow in an
identifier and the two together are not reserved. -/
theorem readName_append {base suffix : String} (word : IsWord base.toList)
    (accepted : ∀ c ∈ suffix.toList, isSuffixChar c = true) :
    readName (base ++ suffix) =
      if suffix.toList.all isIdentifierContinue then
        if isName (base ++ suffix) then .ok (base ++ suffix)
        else .error (.reserved (base ++ suffix))
      else .error .unlexable := by
  have extended {more : List Char} (continues : ∀ c ∈ more, isIdentifierContinue c = true) :
      IsWord (base.toList ++ more) := by
    generalize base.toList = chars at word
    obtain ⟨start, before⟩ := word
    exact .mk start (List.forall_mem_append.mpr ⟨before, continues⟩)
  split
  · rename_i continues
    have whole : IsWord (base ++ suffix).toList := by
      rw [String.toList_append]
      exact extended (List.all_eq_true.mp continues)
    exact readName_of_isWord whole
  · rename_i stops
    -- The first character that no identifier goes on with ends the word.
    cases left : suffix.toList.dropWhile isIdentifierContinue with
    | nil => exact absurd (List.all_eq_true.mpr (List.dropWhile_eq_nil_iff.mp left)) stops
    | cons c rest =>
      have parts : suffix.toList = suffix.toList.takeWhile isIdentifierContinue ++ c :: rest := by
        rw [← left, List.takeWhile_append_dropWhile]
      have member : c ∈ suffix.toList := by
        rw [parts]
        exact List.mem_append_right _ List.mem_cons_self
      have stranger : IsStranger c :=
        ⟨accepted c member, by
          have nonempty : suffix.toList.dropWhile isIdentifierContinue ≠ [] := by simp [left]
          have first := List.head_dropWhile_not isIdentifierContinue nonempty
          simpa [left] using first⟩
      have split : (base ++ suffix).toList =
          base.toList ++ suffix.toList.takeWhile isIdentifierContinue ++ c :: rest := by
        rw [String.toList_append, List.append_assoc, ← parts]
      have nothing : tokenize? (base ++ suffix) = none :=
        tokenize?_of_isStranger split (extended fun d => List.mem_takeWhile_imp) stranger
      rw [readName, readText, nothing]
      rfl

end Source

end RecordCoding
