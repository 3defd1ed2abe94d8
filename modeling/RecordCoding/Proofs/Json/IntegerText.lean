import RecordCoding.Proofs.Json.Bounds
import RecordCoding.Proofs.Json.Decimal

/-!
# Integers have one text

A number is read as an integer from its digits alone: no fraction, no exponent, no zero in front of
other digits and no sign in front of a zero. So the bytes that an integer was read from are those of
its text.
-/

namespace RecordCoding.Json

/-- A byte that stands for a digit is that of a digit. -/
theorem exists_of_digit? {byte : UInt8} {digit : Nat} (stands : digit? byte = some digit) :
    ∃ c : Char, c.isDigit = true ∧ byte = c.toUInt8 ∧ digit = c.toNat - 48 := by
  unfold digit? at stands
  split at stands
  · rename_i within
    obtain rfl := Option.some.inj stands
    rw [Bool.and_eq_true, decide_eq_true_eq, decide_eq_true_eq, UInt8.le_iff_toNat_le,
      UInt8.le_iff_toNat_le] at within
    obtain ⟨least, greatest⟩ : 48 ≤ byte.toNat ∧ byte.toNat ≤ 57 := within
    obtain ⟨n, same⟩ : ∃ n, byte.toNat = n := ⟨_, rfl⟩
    obtain rfl : byte = UInt8.ofNat n := by rw [← same, UInt8.ofNat_toNat]
    rw [same] at least greatest
    refine ⟨Char.ofNat n, ?_⟩
    interval_cases n <;> decide
  · cases stands

/-- A byte is found again from its character. -/
theorem toUInt8_ofUInt8 (byte : UInt8) : (Char.ofUInt8 byte).toUInt8 = byte :=
  UInt8.toUInt8_toUInt32 byte

/-- Only zero is the digit of nothing. -/
theorem sub_pos_of_isDigit {c : Char} (digit : c.isDigit = true) (differ : c ≠ '0') :
    0 < c.toNat - 48 := by
  obtain ⟨d, small, rfl⟩ := exists_digitChar digit
  rw [Nat.toNat_digitChar_of_lt_ten small]
  by_contra none
  obtain rfl : d = 0 := by omega
  exact differ rfl

namespace ByteReader

/-- One reader after another succeeds if the second one does where the first one ended. -/
theorem bind_eq_ok_iff {α β : Type} {reader : ByteReader α} {next : α → ByteReader β}
    {bytes : List UInt8} {result : β × List UInt8} :
    (reader >>= next) bytes = .ok result ↔
      ∃ value ahead, reader bytes = .ok (value, ahead) ∧ next value ahead = .ok result := by
  constructor
  · intro read
    obtain ⟨⟨value, ahead⟩, here, again⟩ := RecordCoding.bind_eq_ok_iff.mp read
    exact ⟨value, ahead, here, again⟩
  · rintro ⟨value, ahead, here, again⟩
    exact RecordCoding.bind_eq_ok_iff.mpr ⟨(value, ahead), here, again⟩

/-- The digits that are gathered are those of the number that is found. -/
theorem exists_digits_of_gatherDigits {limit value count found total : Nat}
    {bytes rest : List UInt8}
    (gathered : gatherDigits limit value count bytes = ((found, total), rest)) :
    ∃ digits : List Char, (∀ c ∈ digits, c.isDigit = true) ∧
      bytes = digits.map Char.toUInt8 ++ rest ∧ found = Nat.ofDigitChars 10 digits value := by
  fun_induction gatherDigits limit value count bytes with
  | case1 value count =>
    cases gathered
    exact ⟨[], List.forall_mem_nil _, rfl, Nat.ofDigitChars_nil.symm⟩
  | case2 value count byte others digit stands within ih =>
    obtain ⟨c, first, rfl, rfl⟩ := exists_of_digit? stands
    obtain ⟨digits, each, rfl, rfl⟩ := ih gathered
    refine ⟨c :: digits, List.forall_mem_cons.mpr ⟨first, each⟩, rfl, ?_⟩
    rw [Nat.ofDigitChars_cons, Nat.mul_comm]
    rfl
  | case3 value count byte others digit stands within =>
    cases gathered
    exact ⟨[], List.forall_mem_nil _, rfl, Nat.ofDigitChars_nil.symm⟩
  | case4 value count byte others none =>
    cases gathered
    exact ⟨[], List.forall_mem_nil _, rfl, Nat.ofDigitChars_nil.symm⟩

/-- A reader of floating point numbers reads no integer. -/
theorem Yields.ne_integer {reader : ByteReader JsonNumber} (yields : reader.Yields IsFloat)
    {bytes rest : List UInt8} {value : Int} : reader bytes ≠ .ok (.integer value, rest) := by
  intro read
  obtain ⟨x, same, -⟩ := yields bytes _ rest read
  cases same

/-- Behind the digits of an integer there is nothing more of it, and zero has no sign. -/
theorem afterInteger_eq_integer {negative : Bool} {significand : Nat}
    (small : significand ≤ maxUnsigned) {bytes rest : List UInt8} {value : Int}
    (read : afterInteger negative significand bytes = .ok (.integer value, rest)) :
    rest = bytes ∧ value = (if negative then -(significand : Int) else significand) ∧
      (negative = true → 0 < significand) := by
  unfold afterInteger at read
  obtain ⟨more, ahead, looked, read⟩ := bind_eq_ok_iff.mp read
  split at read
  · obtain ⟨extra, ahead, -, read⟩ := bind_eq_ok_iff.mp read
    obtain ⟨mark, ahead, -, read⟩ := bind_eq_ok_iff.mp read
    split at read
    · obtain ⟨_, ahead, -, read⟩ := bind_eq_ok_iff.mp read
      exact absurd read (yields_fraction negative small extra).ne_integer
    · exact absurd read (yields_afterDigits negative small extra).ne_integer
  · obtain ⟨mark, behind, seen, read⟩ := bind_eq_ok_iff.mp read
    split at read
    · obtain ⟨_, ahead, -, read⟩ := bind_eq_ok_iff.mp read
      exact absurd read (yields_fraction negative small 0).ne_integer
    · obtain ⟨_, ahead, -, read⟩ := bind_eq_ok_iff.mp read
      exact absurd read (yields_exponent negative small 0).ne_integer
    · obtain ⟨_, ahead, -, read⟩ := bind_eq_ok_iff.mp read
      exact absurd read (yields_exponent negative small 0).ne_integer
    · cases looked
      cases seen
      cases negative with
      | false =>
        cases read
        exact ⟨rfl, rfl, nofun⟩
      | true =>
        by_cases large : (significand = 0 || Nat.pow 2 63 < significand) = true
        · simp only [large] at read
          cases read
        · simp only [large] at read
          cases read
          refine ⟨rfl, rfl, fun _ => ?_⟩
          simp only [Bool.or_eq_true, decide_eq_true_eq, not_or] at large
          omega

/-- The bytes that an integer was read from, behind its sign, are those of its digits. -/
theorem unsignedNumber_eq_integer {negative : Bool} {bytes rest : List UInt8} {value : Int}
    (read : unsignedNumber negative bytes = .ok (.integer value, rest)) :
    ∃ n : Nat, bytes = (Nat.toDigits 10 n).map Char.toUInt8 ++ rest ∧
      value = (if negative then -(n : Int) else n) ∧ (negative = true → 0 < n) := by
  unfold unsignedNumber at read
  obtain ⟨first, behind, begun, body⟩ := bind_eq_ok_iff.mp read
  obtain rfl : bytes = first.toUInt8 :: behind := by
    cases bytes with
    | nil => cases begun
    | cons byte others =>
      cases begun
      rw [toUInt8_ofUInt8]
  clear read
  split at body
  · rename_i zero
    subst zero
    obtain ⟨more, ahead, looked, body⟩ := bind_eq_ok_iff.mp body
    cases looked
    split at body
    · obtain ⟨_, ahead, failed, -⟩ := bind_eq_ok_iff.mp body
      cases failed
    · obtain ⟨rfl, same, positive⟩ := afterInteger_eq_integer (Nat.zero_le _) body
      exact ⟨0, rfl, same, positive⟩
  · rename_i nonzero
    split at body
    · rename_i digit
      obtain ⟨⟨significand, count⟩, ahead, gathered, body⟩ := bind_eq_ok_iff.mp body
      have small := yields_digits (digit_le digit) _ _ _ gathered
      obtain ⟨rfl, same, positive⟩ := afterInteger_eq_integer small body
      obtain ⟨digits, each, rfl, rfl⟩ := exists_digits_of_gatherDigits (Except.ok.inj gathered)
      refine ⟨_, ?_, same, positive⟩
      rw [toDigits_ofDigitChars each (sub_pos_of_isDigit digit nonzero), toDigits_of_isDigit digit]
      rfl
    · cases body

/-- The bytes that an integer was read from are those of its text. -/
theorem number_eq_integer {bytes rest : List UInt8} {value : Int}
    (read : number bytes = .ok (.integer value, rest)) :
    bytes = textBytes (toString value) ++ rest := by
  unfold number at read
  obtain ⟨sign, ahead, seen, body⟩ := bind_eq_ok_iff.mp read
  obtain ⟨minus, rfl⟩ : bytes.head?.map Char.ofUInt8 = sign ∧ bytes = ahead := by
    simpa [peek] using seen
  split at body
  · obtain ⟨_, behind, skipped, body⟩ := bind_eq_ok_iff.mp body
    obtain rfl : bytes.drop 1 = behind := by simpa [skip] using skipped
    obtain ⟨n, digits, rfl, positive⟩ := unsignedNumber_eq_integer body
    obtain ⟨m, rfl⟩ := Nat.exists_eq_succ_of_ne_zero (Nat.ne_of_gt (positive rfl))
    obtain ⟨byte, first, same⟩ := Option.map_eq_some_iff.mp minus
    have spelled : toString (if true = true then -((m + 1 : Nat) : Int) else (m + 1 : Nat)) =
        "-" ++ (m + 1).repr := rfl
    rw [spelled, textBytes_eq, String.toList_append, List.flatMap_append, Nat.toList_repr,
      textBytes_ofDigits (isDigit_toDigits _), List.append_assoc, ← digits]
    obtain ⟨others, rfl⟩ := List.head?_eq_some_iff.mp first
    rw [← toUInt8_ofUInt8 byte, same]
    rfl
  · obtain ⟨n, rfl, rfl, -⟩ := unsignedNumber_eq_integer body
    have spelled : toString (if false = true then -(n : Int) else n) = n.repr := rfl
    rw [spelled, textBytes_eq, Nat.toList_repr, textBytes_ofDigits (isDigit_toDigits n)]

end ByteReader

end RecordCoding.Json
