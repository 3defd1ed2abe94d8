import Mathlib.Tactic.IntervalCases
import RecordCoding.Json.Parser

/-!
# Integers by their digits

The text of an integer that fits 64 bits is read as that integer: its bytes are those of its
digits, and reading them adds them up again.
-/

namespace RecordCoding.Json

/-- The bytes of an array, in order. -/
private theorem toList_loop_eq (bytes : ByteArray) (i : Nat) (before : List UInt8) :
    ByteArray.toList.loop bytes i before = before.reverse ++ bytes.data.toList.drop i := by
  fun_induction ByteArray.toList.loop bytes i before with
  | case1 i before inside ih =>
    have bound : i < bytes.data.toList.length := by simpa using inside
    have head : bytes.get! i = bytes.data.toList[i] := by
      cases bytes
      exact getElem!_pos _ i bound
    rw [ih, List.drop_eq_getElem_cons bound, head, List.reverse_cons, List.append_assoc,
      List.singleton_append]
  | case2 i before outside =>
    have bound : bytes.data.toList.length ≤ i := by simpa using outside
    rw [List.drop_eq_nil_of_le bound, List.append_nil]

/-- A text is held as the bytes of its characters. -/
theorem toList_data_toByteArray (text : String) :
    text.toByteArray.data.toList = text.toList.flatMap String.utf8EncodeChar := by
  rw [← String.utf8Encode_toList, List.utf8Encode, List.toList_data_toByteArray]

/-- The bytes of a text are those of its characters. -/
theorem textBytes_eq (text : String) :
    textBytes text = text.toList.flatMap String.utf8EncodeChar := by
  rw [textBytes, String.toUTF8_eq_toByteArray, ByteArray.toList, toList_loop_eq,
    toList_data_toByteArray]
  rfl

section Digits

variable {c : Char}

/-- A decimal digit is one of ten characters. -/
theorem exists_digitChar (digit : c.isDigit = true) : ∃ d < 10, c = Nat.digitChar d := by
  have bounds : 48 ≤ c.toNat ∧ c.toNat ≤ 57 := by
    simpa [Char.isDigit, Char.le_def, UInt32.le_iff_toNat_le] using digit
  refine ⟨c.toNat - 48, by omega, ?_⟩
  apply Char.toNat_inj.mp
  rw [Nat.toNat_digitChar_of_lt_ten (by omega)]
  omega

/-- A digit is a single byte. -/
theorem utf8EncodeChar_of_isDigit (digit : c.isDigit = true) :
    String.utf8EncodeChar c = [c.toUInt8] := by
  obtain ⟨d, small, rfl⟩ := exists_digitChar digit
  interval_cases d <;> rfl

/-- The byte of a digit stands for it. -/
theorem digit?_toUInt8 (digit : c.isDigit = true) :
    digit? c.toUInt8 = some (c.toNat - 48) := by
  obtain ⟨d, small, rfl⟩ := exists_digitChar digit
  interval_cases d <;> rfl

/-- A digit is found again from its byte. -/
theorem ofUInt8_toUInt8 (digit : c.isDigit = true) : Char.ofUInt8 c.toUInt8 = c := by
  obtain ⟨d, small, rfl⟩ := exists_digitChar digit
  interval_cases d <;> rfl

/-- A digit is no blank. -/
theorem isBlankByte_toUInt8 (digit : c.isDigit = true) : isBlankByte c.toUInt8 = false := by
  obtain ⟨d, small, rfl⟩ := exists_digitChar digit
  interval_cases d <;> rfl

end Digits

/-- The bytes of digits are one for each. -/
theorem textBytes_ofDigits {digits : List Char} (each : ∀ c ∈ digits, c.isDigit = true) :
    digits.flatMap String.utf8EncodeChar = digits.map Char.toUInt8 := by
  induction digits with
  | nil => rfl
  | cons c rest ih =>
    rw [List.flatMap_cons, utf8EncodeChar_of_isDigit (each c List.mem_cons_self),
      ih fun other member => each other (List.mem_cons_of_mem c member)]
    rfl

/-- A number is at least what its leading digits say. -/
theorem le_ofDigitChars (digits : List Char) (value : Nat) :
    value ≤ Nat.ofDigitChars 10 digits value := by
  rw [Nat.ofDigitChars_eq_ofDigitChars_zero]
  have scale : value * 1 ≤ value * 10 ^ digits.length :=
    Nat.mul_le_mul_left value (Nat.pow_pos (by decide))
  rw [Nat.mul_comm (10 ^ digits.length)]
  omega

/-- What follows a number does not go on with it: it begins neither with a digit nor with the mark
of a fraction or an exponent. -/
def EndsNumber (rest : List UInt8) : Prop :=
  ∀ byte ∈ rest.head?, digit? byte = none ∧ Char.ofUInt8 byte ∉ ['.', 'e', 'E']

/-- Nothing at all does not go on with a number. -/
theorem endsNumber_nil : EndsNumber [] := nofun

/-- What does not go on with a number does not begin with a digit. -/
theorem startsWithDigit_of_ends {rest : List UInt8} (ends : EndsNumber rest) :
    startsWithDigit rest = false := by
  cases rest with
  | nil => rfl
  | cons byte others =>
    rw [startsWithDigit, (ends byte rfl).1]
    rfl

/-- Nor does it begin with a mark. -/
theorem not_mark_of_ends {rest : List UInt8} (ends : EndsNumber rest) :
    ∀ c ∈ rest.head?.map Char.ofUInt8, c ∉ ['.', 'e', 'E'] := by
  intro c found
  obtain ⟨byte, first, rfl⟩ := Option.map_eq_some_iff.mp found
  exact (ends byte first).2

namespace ByteReader

/-- Digits within the limit are all read. -/
theorem gatherDigits_map {limit : Nat} {digits : List Char}
    (each : ∀ c ∈ digits, c.isDigit = true) (value count : Nat)
    (within : Nat.ofDigitChars 10 digits value ≤ limit) {rest : List UInt8}
    (ends : EndsNumber rest) :
    gatherDigits limit value count (digits.map Char.toUInt8 ++ rest) =
      ((Nat.ofDigitChars 10 digits value, count + digits.length), rest) := by
  induction digits generalizing value count with
  | nil =>
    cases rest with
    | nil => rfl
    | cons byte others =>
      rw [List.map_nil, List.nil_append, gatherDigits, (ends byte rfl).1]
      rfl
  | cons c others ih =>
    rw [Nat.ofDigitChars_cons, Nat.mul_comm] at within ⊢
    have next : value * 10 + (c.toNat - 48) ≤ limit :=
      Nat.le_trans (le_ofDigitChars others _) within
    have behind := ih (fun other member => each other (List.mem_cons_of_mem c member)) _
      (count + 1) within
    rw [List.map_cons, List.cons_append, gatherDigits, digit?_toUInt8 (each c List.mem_cons_self)]
    dsimp only
    rw [if_pos next]
    refine behind.trans ?_
    rw [List.length_cons, Nat.add_right_comm, Nat.add_assoc]

end ByteReader

/-- A number is spelled with digits. -/
theorem isDigit_toDigits (n : Nat) : ∀ c ∈ Nat.toDigits 10 n, c.isDigit = true :=
  fun _ member => Nat.isDigit_of_mem_toDigits (by decide) (by decide) member

/-- The first digit of a positive number is not zero. -/
theorem head_toDigits_ne_zero {n : Nat} (positive : 0 < n) :
    ∃ c rest, Nat.toDigits 10 n = c :: rest ∧ c ≠ '0' := by
  induction n using Nat.strongRecOn with
  | ind n ih =>
    by_cases small : n < 10
    · refine ⟨n.digitChar, [], Nat.toDigits_of_lt_base small, ?_⟩
      interval_cases n <;> decide
    · have shorter : n / 10 < n := by omega
      obtain ⟨c, rest, spelled, differ⟩ := ih (n / 10) shorter (by omega)
      refine ⟨c, rest ++ [Nat.digitChar (n % 10)], ?_, differ⟩
      rw [Nat.toDigits_of_base_le (by decide) (by omega), spelled, List.cons_append]

/-- A digit is the only one of its value. -/
theorem toDigits_of_isDigit {c : Char} (digit : c.isDigit = true) :
    Nat.toDigits 10 (c.toNat - 48) = [c] := by
  obtain ⟨d, small, rfl⟩ := exists_digitChar digit
  rw [Nat.toNat_digitChar_of_lt_ten small, Nat.add_sub_cancel_left, Nat.toDigits_of_lt_base small]

/-- Digits behind those of a positive number are the last ones of a greater number. -/
theorem toDigits_ofDigitChars {digits : List Char} (each : ∀ c ∈ digits, c.isDigit = true)
    {value : Nat} (positive : 0 < value) :
    Nat.toDigits 10 (Nat.ofDigitChars 10 digits value) = Nat.toDigits 10 value ++ digits := by
  induction digits generalizing value with
  | nil => rw [Nat.ofDigitChars_nil, List.append_nil]
  | cons c rest ih =>
    obtain ⟨first, others⟩ := List.forall_mem_cons.mp each
    obtain ⟨d, small, rfl⟩ := exists_digitChar first
    rw [Nat.ofDigitChars_cons_digitChar_of_lt_ten small, ih others (by omega),
      ← Nat.toDigits_append_toDigits (by decide) positive small, Nat.toDigits_of_lt_base small,
      List.append_assoc, List.singleton_append]

namespace ByteReader

/-- The digits of a number that does not go on are an integer, unless it is a negative zero or
exceeds what can be negative. -/
theorem afterInteger_of_ends (negative : Bool) (significand : Nat)
    (fits : negative = true → 0 < significand ∧ significand ≤ Nat.pow 2 63) {rest : List UInt8}
    (ends : EndsNumber rest) :
    afterInteger negative significand rest =
      .ok (.integer (if negative then -significand else significand), rest) := by
  have noMark := not_mark_of_ends ends
  have value : (if !negative then JsonNumber.integer significand
      else if significand = 0 || Nat.pow 2 63 < significand then
        .float (Binary64.ofNat significand).neg
      else .integer (-significand)) =
      .integer (if negative then -significand else significand) := by
    cases negative with
    | false => rfl
    | true =>
      obtain ⟨positive, small⟩ := fits rfl
      have allowed : ¬ (significand = 0 || Nat.pow 2 63 < significand) = true := by
        rw [Bool.or_eq_true, decide_eq_true_eq, decide_eq_true_eq]
        omega
      exact if_neg allowed
  unfold afterInteger
  rw [value]
  simp only [atDigit, peek, startsWithDigit_of_ends ends, bind, StateT.bind, Except.bind,
    Bool.false_eq_true, if_false]
  generalize rest.head?.map Char.ofUInt8 = ahead at noMark
  split
  · exact absurd (noMark '.' rfl) (by decide)
  · exact absurd (noMark 'e' rfl) (by decide)
  · exact absurd (noMark 'E' rfl) (by decide)
  · rfl

/-- A positive number that does not go on is read digit by digit. -/
theorem unsignedNumber_toDigits (negative : Bool) {n : Nat} (positive : 0 < n)
    (within : n ≤ maxUnsigned) (fits : negative = true → n ≤ Nat.pow 2 63) {rest : List UInt8}
    (ends : EndsNumber rest) :
    unsignedNumber negative ((Nat.toDigits 10 n).map Char.toUInt8 ++ rest) =
      .ok (.integer (if negative then -n else n), rest) := by
  obtain ⟨c, others, spelled, differ⟩ := head_toDigits_ne_zero positive
  have each := isDigit_toDigits n
  have value : Nat.ofDigitChars 10 others (c.toNat - 48) = n := by
    have all := Nat.ofDigitChars_ten_toDigits (n := n)
    rw [spelled, Nat.ofDigitChars_cons] at all
    simpa using all
  rw [spelled] at each ⊢
  have first := each c List.mem_cons_self
  have gathered : gatherDigits maxUnsigned (c.toNat - 48) 0 (others.map Char.toUInt8 ++ rest) =
      ((n, 0 + others.length), rest) := by
    rw [← value] at within ⊢
    exact gatherDigits_map (fun other member => each other (List.mem_cons_of_mem c member)) _ 0
      within ends
  have digitsRead : digits maxUnsigned (c.toNat - 48) (others.map Char.toUInt8 ++ rest) =
      .ok ((n, 0 + others.length), rest) := by
    rw [digits, gathered]
  have last := afterInteger_of_ends negative n (fun isNegative => ⟨positive, fits isNegative⟩) ends
  unfold unsignedNumber
  simp [next, bind, StateT.bind, Except.bind, ofUInt8_toUInt8 first, differ, first, digitsRead,
    last]

/-- Zero that does not go on is read. -/
theorem unsignedNumber_zero {rest : List UInt8} (ends : EndsNumber rest) :
    unsignedNumber false ((Nat.toDigits 10 0).map Char.toUInt8 ++ rest) =
      .ok (.integer 0, rest) := by
  have last := afterInteger_of_ends false 0 nofun ends
  have zero : Char.ofUInt8 '0'.toUInt8 = '0' := rfl
  unfold unsignedNumber
  simp [next, atDigit, startsWithDigit_of_ends ends, bind, StateT.bind, Except.bind, zero, last]

/-- A number that begins with a digit has no sign. -/
theorem number_of_isDigit {c : Char} (digit : c.isDigit = true) (rest : List UInt8) :
    number (c.toUInt8 :: rest) = unsignedNumber false (c.toUInt8 :: rest) := by
  have unsigned : c ≠ '-' := by
    rintro rfl
    cases digit
  unfold number
  simp [peek, bind, StateT.bind, Except.bind, ofUInt8_toUInt8 digit, unsigned]

/-- The bytes of a number without a sign are read as that number. -/
theorem number_repr {n : Nat} (within : n ≤ maxUnsigned) {rest : List UInt8}
    (ends : EndsNumber rest) :
    number (n.repr.toList.flatMap String.utf8EncodeChar ++ rest) = .ok (.integer n, rest) := by
  have read : unsignedNumber false ((Nat.toDigits 10 n).map Char.toUInt8 ++ rest) =
      .ok (.integer n, rest) := by
    by_cases zero : n = 0
    · subst zero
      exact unsignedNumber_zero ends
    · exact unsignedNumber_toDigits false (Nat.pos_of_ne_zero zero) within nofun ends
  rw [Nat.toList_repr, textBytes_ofDigits (isDigit_toDigits n)]
  cases digits : Nat.toDigits 10 n with
  | nil => exact absurd digits (by simp)
  | cons c others =>
    have first : c.isDigit = true := isDigit_toDigits n c (by rw [digits]; exact List.mem_cons_self)
    rw [digits] at read
    rw [List.map_cons, List.cons_append] at read ⊢
    rw [number_of_isDigit first, read]

/-- The bytes of a negative number are read as that number. -/
theorem number_neg_repr {n : Nat} (positive : 0 < n) (small : n ≤ Nat.pow 2 63)
    {rest : List UInt8} (ends : EndsNumber rest) :
    number (("-" ++ n.repr).toList.flatMap String.utf8EncodeChar ++ rest) =
      .ok (.integer (-n), rest) := by
  have within : n ≤ maxUnsigned := Nat.le_trans small (by decide)
  have read := unsignedNumber_toDigits true positive within (fun _ => small) ends
  rw [String.toList_append, List.flatMap_append, Nat.toList_repr,
    textBytes_ofDigits (isDigit_toDigits n)]
  exact read

/-- The bytes of an integer of 64 bits are read as that integer, whatever follows that does not go
on with it. -/
theorem number_toString {value : Int} (least : -Int.pow 2 63 ≤ value)
    (greatest : value < Int.pow 2 64) {rest : List UInt8} (ends : EndsNumber rest) :
    number ((toString value).toList.flatMap String.utf8EncodeChar ++ rest) =
      .ok (.integer value, rest) := by
  cases value with
  | ofNat n =>
    have upper : Int.pow 2 64 = 18446744073709551616 := by decide
    have bound : maxUnsigned = 18446744073709551615 := by decide
    rw [Int.ofNat_eq_natCast] at greatest
    exact number_repr (by omega) ends
  | negSucc n =>
    have lower : Int.pow 2 63 = 9223372036854775808 := by decide
    have bound : Nat.pow 2 63 = 9223372036854775808 := by decide
    exact number_neg_repr (Nat.succ_pos n) (by omega) ends

/-- The bytes of an integer of 64 bits are read as that integer. -/
theorem number_textBytes {value : Int} (least : -Int.pow 2 63 ≤ value)
    (greatest : value < Int.pow 2 64) :
    number (textBytes (toString value)) = .ok (.integer value, []) := by
  have read := number_toString least greatest endsNumber_nil
  rwa [List.append_nil, ← textBytes_eq] at read

end ByteReader

end RecordCoding.Json
