import RecordCoding.Proofs.Json.IntegerText
import RecordCoding.Proofs.Json.Values

/-!
# Numerals

The numbers of a text are numerals: digits that may have a sign, a fraction and an exponent. A
numeral is exact if it is the text of an integer of 64 bits. An exact numeral is read as that
integer, and no other numeral is read as an integer at all: if it is read, it is as a floating point
number, and it is read up to its end.
-/

namespace RecordCoding.Json

/-- One digit or more. -/
structure IsDigits (chars : List Char) : Prop where
  present : chars ≠ []
  each : ∀ c ∈ chars, c.isDigit = true

/-- The exponent of a numeral. -/
structure Numeral.Exponent where
  mark : Char
  sign : List Char
  digits : List Char
  isMark : mark = 'e' ∨ mark = 'E'
  isSign : sign = [] ∨ sign = ['+'] ∨ sign = ['-']
  isDigits : IsDigits digits

/-- A number as it stands in a text. -/
structure Numeral where
  negative : Bool
  whole : List Char
  /-- The digits behind the point. -/
  fraction : Option (List Char)
  exponent : Option Numeral.Exponent
  isWhole : IsDigits whole
  /-- There is no zero in front of other digits. -/
  plain : whole.head? = some '0' → whole = ['0']
  isFraction : ∀ digits ∈ fraction, IsDigits digits

namespace Numeral

/-- The characters of an exponent, its mark included. -/
def exponentChars : Option Exponent → List Char
  | some exponent => exponent.mark :: (exponent.sign ++ exponent.digits)
  | none => []

/-- The characters of a fraction, its point included. -/
def fractionChars : Option (List Char) → List Char
  | some digits => '.' :: digits
  | none => []

/-- The characters behind the sign. -/
def unsignedChars (numeral : Numeral) : List Char :=
  numeral.whole ++ (fractionChars numeral.fraction ++ exponentChars numeral.exponent)

/-- The characters of a numeral. -/
def chars (numeral : Numeral) : List Char :=
  if numeral.negative then '-' :: numeral.unsignedChars else numeral.unsignedChars

/-- The text of a numeral. -/
def text (numeral : Numeral) : String := String.ofList numeral.chars

/-- The size of the number in front of the point. -/
def size (numeral : Numeral) : Nat := Nat.ofDigitChars 10 numeral.whole 0

/-- The number in front of the point. -/
def value (numeral : Numeral) : Int :=
  if numeral.negative then -(numeral.size : Int) else numeral.size

/-- A numeral without fraction and exponent, other than the negative zero, whose number fits 64
bits, signed or unsigned. -/
structure IsExact (numeral : Numeral) : Prop where
  noFraction : numeral.fraction = none
  noExponent : numeral.exponent = none
  noNegativeZero : numeral.text ≠ "-0"
  least : -Int.pow 2 63 ≤ numeral.value
  greatest : numeral.value ≤ Int.pow 2 64 - 1

end Numeral

namespace Numeral

variable {numeral : Numeral}

/-- The digits in front of the point are those of their number. -/
theorem whole_eq_toDigits (numeral : Numeral) : numeral.whole = Nat.toDigits 10 numeral.size := by
  obtain ⟨c, others, spelled⟩ := List.exists_cons_of_ne_nil numeral.isWhole.present
  have each := numeral.isWhole.each
  have plain := numeral.plain
  rw [spelled] at each plain
  obtain ⟨first, behind⟩ := List.forall_mem_cons.mp each
  rw [size, spelled]
  by_cases zero : c = '0'
  · rw [zero] at plain ⊢
    rw [plain rfl]
    rfl
  · have positive := sub_pos_of_isDigit first zero
    have all : Nat.ofDigitChars 10 (c :: others) 0 =
        Nat.ofDigitChars 10 others (c.toNat - 48) := by
      rw [Nat.ofDigitChars_cons, Nat.mul_zero, Nat.zero_add]
      rfl
    rw [all, toDigits_ofDigitChars behind positive, toDigits_of_isDigit first]
    rfl

/-- Without fraction and exponent there is nothing behind the digits. -/
theorem unsignedChars_of_plain (noFraction : numeral.fraction = none)
    (noExponent : numeral.exponent = none) : numeral.unsignedChars = numeral.whole := by
  rw [unsignedChars, noFraction, noExponent]
  exact List.append_nil _

/-- The negative zero is negative, and is zero. -/
theorem negative_zero_of_text (noFraction : numeral.fraction = none)
    (noExponent : numeral.exponent = none) (text : numeral.text = "-0") :
    numeral.negative = true ∧ numeral.size = 0 := by
  have chars : numeral.chars = ['-', '0'] := by
    have same := congrArg String.toList text
    rwa [Numeral.text, String.toList_ofList] at same
  rw [Numeral.chars, unsignedChars_of_plain noFraction noExponent] at chars
  split at chars
  · rename_i negative
    exact ⟨negative, congrArg (Nat.ofDigitChars 10 · 0) (List.cons.inj chars).2⟩
  · have digit := numeral.isWhole.each '-' (by rw [chars]; exact List.mem_cons_self)
    cases digit

/-- An exact numeral is the text of its number. -/
theorem IsExact.text_eq (exact : numeral.IsExact) : numeral.text = toString numeral.value := by
  apply String.toList_inj.mp
  have whole := numeral.whole_eq_toDigits
  rw [text, String.toList_ofList, chars, value,
    unsignedChars_of_plain exact.noFraction exact.noExponent, whole]
  split
  · rename_i negative
    have positive : numeral.size ≠ 0 := by
      intro zero
      refine exact.noNegativeZero ?_
      rw [text, chars, unsignedChars_of_plain exact.noFraction exact.noExponent, negative, whole,
        zero]
      rfl
    obtain ⟨m, same⟩ := Nat.exists_eq_succ_of_ne_zero positive
    have spelled : toString (-((m + 1 : Nat) : Int)) = "-" ++ (m + 1).repr := rfl
    rw [same, spelled, String.toList_append, Nat.toList_repr]
    rfl
  · have spelled : toString (numeral.size : Int) = numeral.size.repr := rfl
    rw [spelled, Nat.toList_repr]

/-- A numeral that fits the digits of 64 bits but is not exact is negative, and is zero or too
small. -/
theorem too_small_of_not_exact (inexact : ¬ numeral.IsExact)
    (noFraction : numeral.fraction = none) (noExponent : numeral.exponent = none)
    (fits : numeral.size ≤ maxUnsigned) :
    numeral.negative = true ∧ (numeral.size = 0 ∨ Nat.pow 2 63 < numeral.size) := by
  by_contra allowed
  refine inexact ⟨noFraction, noExponent, ?_, ?_, ?_⟩
  · intro text
    obtain ⟨negative, zero⟩ := negative_zero_of_text noFraction noExponent text
    exact allowed ⟨negative, Or.inl zero⟩
  all_goals
    have upper : Int.pow 2 64 = 18446744073709551616 := by decide
    have lower : Int.pow 2 63 = 9223372036854775808 := by decide
    have middle : Nat.pow 2 63 = 9223372036854775808 := by decide
    have greatest : maxUnsigned = 18446744073709551615 := by decide
    unfold value
    split
    · rename_i negative
      simp only [negative, true_and] at allowed
      omega
    · omega

/-- Behind its sign a numeral begins with a digit. -/
theorem exists_unsignedChars_eq_cons (numeral : Numeral) :
    ∃ c rest, numeral.unsignedChars = c :: rest ∧ c.isDigit = true := by
  obtain ⟨c, others, spelled⟩ := List.exists_cons_of_ne_nil numeral.isWhole.present
  have first := numeral.isWhole.each c (by rw [spelled]; exact List.mem_cons_self)
  refine ⟨c, others ++ (fractionChars numeral.fraction ++ exponentChars numeral.exponent), ?_,
    first⟩
  rw [unsignedChars, spelled, List.cons_append]

/-- A numeral begins with a sign or a digit. -/
theorem exists_chars_eq_cons (numeral : Numeral) :
    ∃ c rest, numeral.chars = c :: rest ∧ (c = '-' ∨ c.isDigit = true) := by
  rw [chars]
  split
  · exact ⟨'-', numeral.unsignedChars, rfl, Or.inl rfl⟩
  · obtain ⟨c, rest, spelled, digit⟩ := numeral.exists_unsignedChars_eq_cons
    exact ⟨c, rest, spelled, Or.inr digit⟩

end Numeral

namespace ByteReader

variable {rest : List UInt8}

/-- Nothing is gathered where no digit stands. -/
theorem gatherDigits_of_stops (stops : startsWithDigit rest = false) (limit value count : Nat) :
    gatherDigits limit value count rest = ((value, count), rest) := by
  cases rest with
  | nil => rfl
  | cons byte others =>
    have none : digit? byte = none :=
      Option.isNone_iff_eq_none.mp (by simpa [startsWithDigit] using stops)
    rw [gatherDigits, none]

/-- Digits are gathered from the first one on. If none is left, they are all in the number. -/
theorem exists_left_of_gatherDigits (stops : startsWithDigit rest = false) {digits : List Char}
    (each : ∀ c ∈ digits, c.isDigit = true) (limit value count : Nat) :
    ∃ found total left, gatherDigits limit value count (digits.map Char.toUInt8 ++ rest) =
        ((found, total), left.map Char.toUInt8 ++ rest) ∧ (∀ c ∈ left, c.isDigit = true) ∧
      (left = [] → found = Nat.ofDigitChars 10 digits value) := by
  induction digits generalizing value count with
  | nil => exact ⟨value, count, [], gatherDigits_of_stops stops limit value count,
      List.forall_mem_nil _, fun _ => Nat.ofDigitChars_nil.symm⟩
  | cons c others ih =>
    obtain ⟨first, behind⟩ := List.forall_mem_cons.mp each
    rw [List.map_cons, List.cons_append, gatherDigits, digit?_toUInt8 first]
    dsimp only
    split
    · rw [Nat.ofDigitChars_cons, Nat.mul_comm 10]
      exact ih behind _ _
    · exact ⟨value, count, c :: others, rfl, each, fun none => absurd none (List.cons_ne_nil _ _)⟩

/-- Digits are passed over. -/
theorem skipDigits_map (stops : startsWithDigit rest = false) {digits : List Char}
    (each : ∀ c ∈ digits, c.isDigit = true) :
    ∃ count, skipDigits (digits.map Char.toUInt8 ++ rest) = .ok (count, rest) := by
  refine ⟨_, congrArg Except.ok (congrArg (Prod.mk _) ?_)⟩
  rw [List.dropWhile_append_of_pos]
  · cases rest with
    | nil => rfl
    | cons byte others => exact List.dropWhile_cons_of_neg (by simpa [startsWithDigit] using stops)
  · intro byte member
    obtain ⟨c, within, rfl⟩ := List.mem_map.mp member
    rw [digit?_toUInt8 (each c within)]
    rfl

/-- Whether a digit follows digits that are left. -/
theorem atDigit_map (stops : startsWithDigit rest = false) {left : List Char}
    (each : ∀ c ∈ left, c.isDigit = true) :
    atDigit (left.map Char.toUInt8 ++ rest) =
      .ok (!left.isEmpty, left.map Char.toUInt8 ++ rest) := by
  cases left with
  | nil => rw [atDigit, List.map_nil, List.nil_append, stops]; rfl
  | cons c others =>
    rw [atDigit, List.map_cons, List.cons_append, startsWithDigit,
      digit?_toUInt8 (each c List.mem_cons_self)]
    rfl

/-- Whatever a reader reads is a floating point number, and it is read up to a given place. -/
def ReadsFloat (reader : ByteReader JsonNumber) (bytes rest : List UInt8) : Prop :=
  ∀ number behind, reader bytes = .ok (number, behind) →
    (∃ x, number = .float x) ∧ behind = rest

/-- A reader that fails reads nothing else. -/
theorem readsFloat_of_error {reader : ByteReader JsonNumber} {bytes : List UInt8}
    {failure : Failure} (failed : reader bytes = .error failure) :
    ReadsFloat reader bytes rest := by
  intro number behind read
  rw [failed] at read
  cases read

/-- Behind a step that succeeds it is the next one that matters. -/
theorem ReadsFloat.behind {α : Type} {reader : ByteReader α} {next : α → ByteReader JsonNumber}
    {bytes ahead : List UInt8} {value : α} (step : reader bytes = .ok (value, ahead))
    (reads : ReadsFloat (next value) ahead rest) : ReadsFloat (reader >>= next) bytes rest := by
  intro number behind read
  rw [bind_of_ok step] at read
  exact reads number behind read

/-- A floating point number takes no more bytes. -/
theorem readsFloat_float (negative : Bool) (significand : Nat) (exponent : Int) :
    ReadsFloat (float negative significand exponent) rest rest := by
  unfold float
  cases scaleByTen (.ofNat significand) exponent with
  | none => exact readsFloat_of_error rfl
  | some x =>
    intro number behind read
    cases read
    exact ⟨⟨_, rfl⟩, rfl⟩

/-- A step that may be left out is behind the reader where it was due. -/
theorem readsFloat_optional {condition : Prop} [Decidable condition] {step : ByteReader Unit}
    {next : Unit → ByteReader JsonNumber} {bytes ahead : List UInt8}
    (passed : (if condition then step else pure () : ByteReader Unit) bytes = .ok ((), ahead))
    (reads : ReadsFloat (next ()) ahead rest) :
    ReadsFloat (if condition then step >>= next else next ()) bytes rest := by
  split
  · rename_i due
    rw [if_pos due] at passed
    exact reads.behind passed
  · rename_i due
    rw [if_neg due] at passed
    cases passed
    exact reads

/-- A check that may fail takes no bytes. -/
theorem readsFloat_unless {condition : Prop} [Decidable condition] {fault : Fault}
    {next : Unit → ByteReader JsonNumber} {bytes : List UInt8}
    (reads : ReadsFloat (next ()) bytes rest) :
    ReadsFloat (if condition then fail fault >>= next else next ()) bytes rest := by
  split
  · exact readsFloat_of_error rfl
  · exact reads

/-- The bytes of digits in front of others. -/
theorem charsBytes_digits {digits : List Char} (isDigits : IsDigits digits) :
    charsBytes digits = digits.map Char.toUInt8 := textBytes_ofDigits isDigits.each

/-- A digit is seen where it stands. -/
theorem peek_digit {c : Char} (digit : c.isDigit = true) (others : List UInt8) :
    peek (c.toUInt8 :: others) = .ok (some c, c.toUInt8 :: others) := by
  rw [peek, List.head?_cons, Option.map_some, ofUInt8_toUInt8 digit]

/-- A sign is passed over, if there is one. -/
theorem exists_peek_sign {sign digits : List Char}
    (isSign : sign = [] ∨ sign = ['+'] ∨ sign = ['-']) (isDigits : IsDigits digits)
    (rest : List UInt8) :
    ∃ seen, peek (charsBytes (sign ++ digits) ++ rest) =
        .ok (seen, charsBytes (sign ++ digits) ++ rest) ∧
      (if seen = some '+' || seen = some '-' then skip else pure () : ByteReader Unit)
        (charsBytes (sign ++ digits) ++ rest) = .ok ((), digits.map Char.toUInt8 ++ rest) := by
  rw [charsBytes_append, charsBytes_digits isDigits, List.append_assoc]
  rcases isSign with rfl | rfl | rfl
  · obtain ⟨present, each⟩ := isDigits
    obtain ⟨c, others, rfl⟩ := List.exists_cons_of_ne_nil present
    have first := each c List.mem_cons_self
    refine ⟨some c, peek_digit first _, ?_⟩
    have unsigned : (some c = some '+' || some c = some '-') = false := by
      obtain ⟨d, small, rfl⟩ := exists_digitChar first
      interval_cases d <;> decide
    rw [unsigned]
    rfl
  · exact ⟨some '+', rfl, rfl⟩
  · exact ⟨some '-', rfl, rfl⟩

/-- The mark of an exponent is seen and passed over. -/
theorem exists_peek_mark (part : Numeral.Exponent) (rest : List UInt8) :
    ∃ mark, (mark = 'e' ∨ mark = 'E') ∧
      peek (charsBytes (Numeral.exponentChars (some part)) ++ rest) =
        .ok (some mark, charsBytes (Numeral.exponentChars (some part)) ++ rest) ∧
      skip (charsBytes (Numeral.exponentChars (some part)) ++ rest) =
        .ok ((), charsBytes (part.sign ++ part.digits) ++ rest) := by
  obtain ⟨mark, sign, digits, rfl | rfl, isSign, isDigits⟩ := part
  · exact ⟨'e', Or.inl rfl, rfl, rfl⟩
  · exact ⟨'E', Or.inr rfl, rfl, rfl⟩

/-- The point of a fraction is seen and passed over. -/
theorem peek_point (digits others : List Char) (rest : List UInt8) :
    peek (charsBytes (Numeral.fractionChars (some digits) ++ others) ++ rest) =
        .ok (some '.', charsBytes (Numeral.fractionChars (some digits) ++ others) ++ rest) ∧
      skip (charsBytes (Numeral.fractionChars (some digits) ++ others) ++ rest) =
        .ok ((), charsBytes (digits ++ others) ++ rest) := ⟨rfl, rfl⟩

section Floats

variable (ends : EndsNumber rest)

include ends

/-- An exponent is read behind its mark. -/
theorem readsFloat_exponent (part : Numeral.Exponent) (negative : Bool) (significand : Nat)
    (start : Int) :
    ReadsFloat (exponent negative significand start)
      (charsBytes (part.sign ++ part.digits) ++ rest) rest := by
  have stops := startsWithDigit_of_ends ends
  obtain ⟨mark, sign, digits, isMark, isSign, isDigits⟩ := part
  obtain ⟨seen, looked, passed⟩ := exists_peek_sign isSign isDigits rest
  obtain ⟨c, others, rfl⟩ := List.exists_cons_of_ne_nil isDigits.present
  obtain ⟨first, behind⟩ := List.forall_mem_cons.mp isDigits.each
  have begun : next .endInValue (c.toUInt8 :: (others.map Char.toUInt8 ++ rest)) =
      .ok (c, others.map Char.toUInt8 ++ rest) := by rw [next, ofUInt8_toUInt8 first]
  obtain ⟨found, total, left, gathered, each, -⟩ :=
    exists_left_of_gatherDigits stops behind maxExponentDigits (c.toNat - 48) 0
  unfold exponent
  refine ReadsFloat.behind looked (readsFloat_optional passed ?_)
  refine ReadsFloat.behind begun (readsFloat_unless ?_)
  refine ReadsFloat.behind (congrArg Except.ok gathered) ?_
  refine ReadsFloat.behind (atDigit_map stops each) ?_
  cases left with
  | nil => exact readsFloat_float negative significand _
  | cons d more =>
    obtain ⟨count, skipped⟩ := skipDigits_map stops (List.forall_mem_cons.mp each).2
    have passed : skip ((d :: more).map Char.toUInt8 ++ rest) =
        .ok ((), more.map Char.toUInt8 ++ rest) := rfl
    refine ReadsFloat.behind passed (readsFloat_unless ?_)
    refine ReadsFloat.behind skipped ?_
    rintro number behind ⟨⟩
    exact ⟨⟨_, rfl⟩, rfl⟩

/-- An exponent is read behind digits, or there is none. -/
theorem readsFloat_afterDigits (part : Option Numeral.Exponent) (negative : Bool)
    (significand : Nat) (start : Int) :
    ReadsFloat (afterDigits negative significand start)
      (charsBytes (Numeral.exponentChars part) ++ rest) rest := by
  unfold afterDigits
  cases part with
  | none =>
    have noMark := not_mark_of_ends ends
    have seen : peek rest = .ok (rest.head?.map Char.ofUInt8, rest) := rfl
    refine ReadsFloat.behind seen ?_
    generalize rest.head?.map Char.ofUInt8 = ahead at noMark
    split
    · exact absurd (noMark 'e' rfl) (by decide)
    · exact absurd (noMark 'E' rfl) (by decide)
    · exact readsFloat_float negative significand start
  | some part =>
    have exponent := readsFloat_exponent ends part negative significand start
    obtain ⟨mark, rfl | rfl, seen, passed⟩ := exists_peek_mark part rest
    · exact ReadsFloat.behind seen (ReadsFloat.behind passed exponent)
    · exact ReadsFloat.behind seen (ReadsFloat.behind passed exponent)

/-- What follows the digits of a fraction does not begin with a digit. -/
theorem stops_exponentChars (part : Option Numeral.Exponent) :
    startsWithDigit (charsBytes (Numeral.exponentChars part) ++ rest) = false := by
  cases part with
  | none => exact startsWithDigit_of_ends ends
  | some part =>
    obtain ⟨mark, sign, digits, rfl | rfl, isSign, isDigits⟩ := part
    · rfl
    · rfl

/-- Nor is there a point. -/
theorem exists_peek_exponentChars (part : Option Numeral.Exponent) :
    ∃ seen, seen ≠ some '.' ∧ peek (charsBytes (Numeral.exponentChars part) ++ rest) =
      .ok (seen, charsBytes (Numeral.exponentChars part) ++ rest) := by
  cases part with
  | none =>
    refine ⟨rest.head?.map Char.ofUInt8, fun point => ?_, rfl⟩
    exact not_mark_of_ends ends '.' point (by decide)
  | some part =>
    obtain ⟨mark, rfl | rfl, seen, -⟩ := exists_peek_mark part rest
    · exact ⟨some 'e', by decide, seen⟩
    · exact ⟨some 'E', by decide, seen⟩

/-- What follows the digits in front of a point does not either. -/
theorem stops_fractionChars (fraction : Option (List Char)) (part : Option Numeral.Exponent) :
    startsWithDigit (charsBytes (Numeral.fractionChars fraction ++ Numeral.exponentChars part) ++
      rest) = false := by
  cases fraction with
  | none => exact stops_exponentChars ends part
  | some digits => rfl

/-- A fraction is read behind its point, with an exponent or without one. -/
theorem readsFloat_fraction {digits : List Char} (isDigits : IsDigits digits)
    (part : Option Numeral.Exponent) (negative : Bool) (significand : Nat) (start : Int) :
    ReadsFloat (fraction negative significand start)
      (charsBytes (digits ++ Numeral.exponentChars part) ++ rest) rest := by
  have stops := stops_exponentChars ends part
  obtain ⟨found, total, left, gathered, each, -⟩ :=
    exists_left_of_gatherDigits stops isDigits.each maxUnsigned significand 0
  rw [charsBytes_append, charsBytes_digits isDigits, List.append_assoc]
  unfold fraction
  refine ReadsFloat.behind (congrArg Except.ok gathered) ?_
  refine ReadsFloat.behind (atDigit_map stops each) ?_
  have onward := readsFloat_afterDigits ends part negative found (start - total)
  cases left with
  | nil =>
    rw [if_neg (by decide)]
    split
    · exact readsFloat_of_error rfl
    · exact onward
  | cons d more =>
    obtain ⟨count, skipped⟩ := skipDigits_map stops each
    exact ReadsFloat.behind skipped onward

/-- Behind the digits in front of the point a floating point number is read, unless nothing more
follows and the number is one that is read as an integer. -/
theorem readsFloat_afterInteger {left : List Char} (each : ∀ c ∈ left, c.isDigit = true)
    {fraction : Option (List Char)} (isFraction : ∀ digits ∈ fraction, IsDigits digits)
    (part : Option Numeral.Exponent) (negative : Bool) (significand : Nat)
    (inexact : left = [] → fraction = none → part = none →
      negative = true ∧ (significand = 0 ∨ Nat.pow 2 63 < significand)) :
    ReadsFloat (afterInteger negative significand)
      (left.map Char.toUInt8 ++
        (charsBytes (Numeral.fractionChars fraction ++ Numeral.exponentChars part) ++ rest))
      rest := by
  have stops := stops_fractionChars ends fraction part
  unfold afterInteger
  refine ReadsFloat.behind (atDigit_map stops each) ?_
  cases left with
  | nil =>
    rw [if_neg (by decide)]
    cases fraction with
    | some digits =>
      obtain ⟨seen, passed⟩ := peek_point digits (Numeral.exponentChars part) rest
      refine ReadsFloat.behind seen (ReadsFloat.behind passed ?_)
      exact readsFloat_fraction ends (isFraction digits rfl) part negative significand 0
    | none =>
      cases part with
      | some part =>
        have exponent := readsFloat_exponent ends part negative significand 0
        obtain ⟨mark, rfl | rfl, seen, passed⟩ := exists_peek_mark part rest
        · exact ReadsFloat.behind seen (ReadsFloat.behind passed exponent)
        · exact ReadsFloat.behind seen (ReadsFloat.behind passed exponent)
      | none =>
        obtain ⟨rfl, large⟩ := inexact rfl rfl rfl
        have noMark := not_mark_of_ends ends
        have seen : peek rest = .ok (rest.head?.map Char.ofUInt8, rest) := rfl
        refine ReadsFloat.behind seen ?_
        generalize rest.head?.map Char.ofUInt8 = ahead at noMark
        split
        · exact absurd (noMark '.' rfl) (by decide)
        · exact absurd (noMark 'e' rfl) (by decide)
        · exact absurd (noMark 'E' rfl) (by decide)
        · have float : (significand = 0 || Nat.pow 2 63 < significand) = true := by
            simpa using large
          rintro number behind read
          simp only [float] at read
          cases read
          exact ⟨⟨_, rfl⟩, rfl⟩
  | cons d more =>
    obtain ⟨count, skipped⟩ := skipDigits_map stops each
    refine ReadsFloat.behind skipped ?_
    cases fraction with
    | some digits =>
      obtain ⟨seen, passed⟩ := peek_point digits (Numeral.exponentChars part) rest
      refine ReadsFloat.behind seen (ReadsFloat.behind passed ?_)
      exact readsFloat_fraction ends (isFraction digits rfl) part negative significand count
    | none =>
      obtain ⟨seen, noPoint, looked⟩ := exists_peek_exponentChars ends part
      refine ReadsFloat.behind looked ?_
      split
      · exact absurd rfl noPoint
      · exact readsFloat_afterDigits ends part negative significand count

/-- A numeral that is not exact is read as a floating point number behind its sign. -/
theorem readsFloat_unsignedNumber {numeral : Numeral} (inexact : ¬ numeral.IsExact) :
    ReadsFloat (unsignedNumber numeral.negative) (charsBytes numeral.unsignedChars ++ rest)
      rest := by
  have stops := stops_fractionChars ends numeral.fraction numeral.exponent
  have bytes := charsBytes_digits numeral.isWhole
  have size : numeral.size = Nat.ofDigitChars 10 numeral.whole 0 := rfl
  have small := numeral.too_small_of_not_exact inexact
  have plain := numeral.plain
  obtain ⟨c, others, spelled⟩ := List.exists_cons_of_ne_nil numeral.isWhole.present
  have each := numeral.isWhole.each
  rw [spelled] at bytes each size plain
  obtain ⟨first, behind⟩ := List.forall_mem_cons.mp each
  rw [Numeral.unsignedChars, spelled, charsBytes_append, bytes, List.append_assoc]
  have begun (more : List UInt8) : next .endInValue (c.toUInt8 :: more) = .ok (c, more) := by
    rw [next, ofUInt8_toUInt8 first]
  unfold unsignedNumber
  refine ReadsFloat.behind (begun _) ?_
  split
  · rename_i zero
    subst zero
    obtain rfl : others = [] := (List.cons.inj (plain rfl)).2
    refine ReadsFloat.behind (atDigit_map stops behind) ?_
    refine readsFloat_afterInteger ends behind numeral.isFraction numeral.exponent _ 0 ?_
    intro _ noFraction noExponent
    have none : numeral.size = 0 := size
    obtain ⟨negative, -⟩ := small noFraction noExponent (by rw [none]; exact Nat.zero_le _)
    exact ⟨negative, Or.inl rfl⟩
  · obtain ⟨found, total, left, gathered, leftDigits, all⟩ :=
      exists_left_of_gatherDigits stops behind maxUnsigned (c.toNat - 48) 0
    refine ReadsFloat.behind (congrArg Except.ok gathered) ?_
    refine readsFloat_afterInteger ends leftDigits numeral.isFraction numeral.exponent _ found ?_
    intro none noFraction noExponent
    have same : found = numeral.size := by
      rw [all none, size, Nat.ofDigitChars_cons, Nat.mul_zero, Nat.zero_add]
      rfl
    have within := gatherDigits_le (digit_le first) 0
      (others.map Char.toUInt8 ++ (charsBytes (Numeral.fractionChars numeral.fraction ++
        Numeral.exponentChars numeral.exponent) ++ rest))
    rw [gathered] at within
    rw [same] at within ⊢
    exact small noFraction noExponent within

/-- So it is with its sign. -/
theorem readsFloat_number {numeral : Numeral} (inexact : ¬ numeral.IsExact) :
    ReadsFloat number (charsBytes numeral.chars ++ rest) rest := by
  have unsigned := readsFloat_unsignedNumber ends inexact
  rw [Numeral.chars]
  split
  · rename_i negative
    rw [negative] at unsigned
    have seen : peek (charsBytes ('-' :: numeral.unsignedChars) ++ rest) =
      .ok (some '-', charsBytes ('-' :: numeral.unsignedChars) ++ rest) := rfl
    have passed : skip (charsBytes ('-' :: numeral.unsignedChars) ++ rest) =
      .ok ((), charsBytes numeral.unsignedChars ++ rest) := rfl
    unfold number
    exact ReadsFloat.behind seen (ReadsFloat.behind passed unsigned)
  · rename_i positive
    rw [Bool.not_eq_true] at positive
    rw [positive] at unsigned
    obtain ⟨c, others, spelled, first⟩ := numeral.exists_unsignedChars_eq_cons
    rw [spelled, charsBytes_cons, utf8EncodeChar_of_isDigit first] at unsigned ⊢
    intro found behind read
    exact unsigned found behind ((number_of_isDigit first _).symm.trans read)

/-- An exact numeral is read as its number. -/
theorem number_exact {numeral : Numeral} (exact : numeral.IsExact) :
    number (charsBytes numeral.chars ++ rest) = .ok (.integer numeral.value, rest) := by
  have chars : numeral.chars = (toString numeral.value).toList := by
    rw [← exact.text_eq, Numeral.text, String.toList_ofList]
  rw [chars]
  refine number_toString exact.least ?_ ends
  have greatest := exact.greatest
  omega

/-- Where a value is read, an exact numeral is read as its number. -/
theorem value_exact {numeral : Numeral} (exact : numeral.IsExact) (depth : Nat) :
    value depth (charsBytes numeral.chars ++ rest) = .ok (.integer numeral.value, rest) := by
  obtain ⟨c, others, spelled, first⟩ := numeral.exists_chars_eq_cons
  have number := number_exact ends exact
  rw [spelled] at number ⊢
  cases depth with
  | zero => exact (valueOver_number none rest first others).trans (map_eq_ok number Json.number)
  | succ depth =>
    exact (valueOver_number (some (value depth)) rest first others).trans
      (map_eq_ok number Json.number)

/-- Any other numeral is read as a floating point number there, if it is read at all. -/
theorem value_inexact {numeral : Numeral} (inexact : ¬ numeral.IsExact) {depth : Nat}
    {document : Json} {behind : List UInt8}
    (read : value depth (charsBytes numeral.chars ++ rest) = .ok (document, behind)) :
    (∃ x, document = .number (.float x)) ∧ behind = rest := by
  obtain ⟨c, others, spelled, first⟩ := numeral.exists_chars_eq_cons
  have floats := readsFloat_number ends inexact
  have reduced : (Json.number <$> number) (charsBytes numeral.chars ++ rest) =
      .ok (document, behind) := by
    rw [spelled] at read ⊢
    cases depth with
    | zero => exact (valueOver_number none rest first others).symm.trans read
    | succ depth => exact (valueOver_number (some (value depth)) rest first others).symm.trans read
  rw [← bind_pure_comp, bind_eq_ok_iff] at reduced
  obtain ⟨found, ahead, here, same⟩ := reduced
  obtain ⟨⟨x, rfl⟩, rfl⟩ := floats found ahead here
  cases same
  exact ⟨⟨x, rfl⟩, rfl⟩

end Floats

end ByteReader

end RecordCoding.Json
