import RecordCoding.Proofs.Json.Forms
import RecordCoding.Proofs.Json.Strings

/-!
# Reading values behind blanks

What it means that characters are read as a value, with blanks in front of them and anything behind
them that does not go on with a number, and the values that are neither arrays nor objects.
-/

namespace RecordCoding.Json

/-- A character of ASCII that is no blank. -/
structure IsMark (c : Char) : Prop where
  bytes : String.utf8EncodeChar c = [c.toUInt8]
  ahead : Char.ofUInt8 c.toUInt8 = c
  visible : isBlankByte c.toUInt8 = false

/-- A decimal digit is a mark. -/
theorem isMark_of_isDigit {c : Char} (digit : c.isDigit = true) : IsMark c :=
  ⟨utf8EncodeChar_of_isDigit digit, ofUInt8_toUInt8 digit, isBlankByte_toUInt8 digit⟩

/-- A value begins with a mark that neither ends an array nor stands between elements. -/
def BeginsValue (chars : List Char) : Prop :=
  ∃ c rest, chars = c :: rest ∧ IsMark c ∧ c ≠ ']' ∧ c ≠ ','

/-- The beginning of a value takes a byte. -/
theorem BeginsValue.length_pos {chars : List Char} (begins : BeginsValue chars) :
    0 < (charsBytes chars).length := by
  obtain ⟨c, rest, rfl, mark, -⟩ := begins
  rw [charsBytes_cons, mark.bytes]
  exact Nat.succ_pos _

/-- Blanks are passed over. -/
theorem dropWhile_blank {gap : List Char} (blank : Blank gap) (rest : List UInt8) :
    (charsBytes gap ++ rest).dropWhile isBlankByte = rest.dropWhile isBlankByte := by
  induction gap with
  | nil => rfl
  | cons c others ih =>
    obtain ⟨first, behind⟩ := List.forall_mem_cons.mp blank
    rcases first with rfl | rfl
    · exact ih behind
    · exact ih behind

/-- What stands behind a closing value does not go on with a number. -/
theorem endsNumber_cons {byte : UInt8} (rest : List UInt8)
    (delimits : byte ∈ [44, 93, 125, 32, 10]) : EndsNumber (byte :: rest) := by
  have stops : digit? byte = none ∧ Char.ofUInt8 byte ∉ ['.', 'e', 'E'] := by
    simp only [List.mem_cons, List.not_mem_nil, or_false] at delimits
    rcases delimits with rfl | rfl | rfl | rfl | rfl <;> decide
  rintro _ ⟨⟩
  exact stops

/-- Neither do blanks with such a byte behind them. -/
theorem endsNumber_blank {gap : List Char} (blank : Blank gap) {rest : List UInt8}
    (ends : EndsNumber rest) : EndsNumber (charsBytes gap ++ rest) := by
  cases gap with
  | nil => exact ends
  | cons c others =>
    rcases blank c List.mem_cons_self with rfl | rfl
    · exact endsNumber_cons _ (by decide)
    · exact endsNumber_cons _ (by decide)

namespace ByteReader

/-- Characters are read as a result, with blanks in front of them and whatever behind them that
does not go on with a number. -/
def Reads {α : Type} (reader : ByteReader α) (chars : List Char) (result : α) : Prop :=
  ∀ gap rest, Blank gap → EndsNumber rest →
    reader (charsBytes gap ++ (charsBytes chars ++ rest)) = .ok (result, rest)

/-- A step that succeeds is followed by the next one on what it leaves. -/
theorem bind_of_ok {α β : Type} {reader : ByteReader α} {bytes behind : List UInt8} {result : α}
    (read : reader bytes = .ok (result, behind)) (next : α → ByteReader β) :
    (reader >>= next) bytes = next result behind := by
  simp [bind, StateT.bind, read, Except.bind]

/-- A result that is only reworded leaves what follows as it is. -/
theorem map_eq_ok {α β : Type} {reader : ByteReader α} {bytes rest : List UInt8} {result : α}
    (read : reader bytes = .ok (result, rest)) (f : α → β) :
    (f <$> reader) bytes = .ok (f result, rest) := by
  simp [Functor.map, StateT.map, read, bind, Except.bind, pure, Except.pure]

/-- Behind blanks a mark is seen. -/
theorem peekToken_mark {c : Char} (mark : IsMark c) {gap : List Char} (blank : Blank gap)
    (others : List Char) (rest : List UInt8) :
    peekToken (charsBytes gap ++ (charsBytes (c :: others) ++ rest)) =
      .ok (some c, charsBytes (c :: others) ++ rest) := by
  have bytes : charsBytes (c :: others) ++ rest = c.toUInt8 :: (charsBytes others ++ rest) := by
    rw [charsBytes_cons, mark.bytes]
    rfl
  have dropped : (charsBytes gap ++ (charsBytes (c :: others) ++ rest)).dropWhile isBlankByte =
      charsBytes (c :: others) ++ rest := by
    rw [dropWhile_blank blank, bytes, List.dropWhile_cons, mark.visible]
    rfl
  have seen : peekToken (charsBytes gap ++ (charsBytes (c :: others) ++ rest)) =
      .ok (((charsBytes gap ++ (charsBytes (c :: others) ++ rest)).dropWhile isBlankByte).head?.map
        Char.ofUInt8,
        (charsBytes gap ++ (charsBytes (c :: others) ++ rest)).dropWhile isBlankByte) := rfl
  rw [seen, dropped, bytes, List.head?_cons, Option.map_some, mark.ahead]

/-- A value is read the same behind blanks. -/
theorem valueOver_blank (inner : Option (ByteReader Json)) {c : Char} (mark : IsMark c)
    {gap : List Char} (blank : Blank gap) (others : List Char) (rest : List UInt8) :
    valueOver inner (charsBytes gap ++ (charsBytes (c :: others) ++ rest)) =
      valueOver inner (charsBytes (c :: others) ++ rest) := by
  have behind := peekToken_mark mark blank others rest
  have alone := peekToken_mark mark blank_nil others rest
  rw [charsBytes_nil, List.nil_append] at alone
  simp only [valueOver, bind, StateT.bind, behind, alone]

/-- So it is enough to read it without any. -/
theorem reads_value {depth : Nat} {chars : List Char} {document : Json}
    (begins : BeginsValue chars)
    (reads : ∀ rest, EndsNumber rest →
      value depth (charsBytes chars ++ rest) = .ok (document, rest)) :
    Reads (value depth) chars document := by
  obtain ⟨c, others, rfl, mark, -⟩ := begins
  intro gap rest blank ends
  have here := reads rest ends
  cases depth with
  | zero => exact (valueOver_blank none mark blank others rest).trans here
  | succ depth => exact (valueOver_blank (some (value depth)) mark blank others rest).trans here

/-- A value that is neither an array nor an object is read at every depth. -/
theorem reads_scalar {chars : List Char} {document : Json} (begins : BeginsValue chars)
    (reads : ∀ inner rest, EndsNumber rest →
      valueOver inner (charsBytes chars ++ rest) = .ok (document, rest)) (depth : Nat) :
    Reads (value depth) chars document := by
  refine reads_value begins fun rest ends => ?_
  cases depth with
  | zero => exact reads none rest ends
  | succ depth => exact reads (some (value depth)) rest ends

section Scalars

variable (inner : Option (ByteReader Json)) (rest : List UInt8)

/-- The word for the missing value is read. -/
theorem valueOver_null : valueOver inner (charsBytes "null".toList ++ rest) = .ok (.null, rest) :=
  rfl

/-- The words for truth values are read. -/
theorem valueOver_boolean (value : Bool) :
    valueOver inner (charsBytes (booleanText value).toList ++ rest) =
      .ok (.boolean value, rest) := by
  cases value with
  | false => rfl
  | true => rfl

/-- A string is read. -/
theorem valueOver_text (value : String) :
    valueOver inner (charsBytes (stringChars value) ++ rest) = .ok (.text value, rest) := by
  have opened (bytes : List UInt8) : valueOver inner (34 :: bytes) = (.text <$> string) bytes := rfl
  rw [charsBytes_stringChars, opened]
  exact map_eq_ok (string_stringChars value rest) Json.text

/-- What begins with a digit or a sign is read as a number. -/
theorem valueOver_number {c : Char} (first : c = '-' ∨ c.isDigit = true) (others : List Char) :
    valueOver inner (charsBytes (c :: others) ++ rest) =
      (.number <$> number) (charsBytes (c :: others) ++ rest) := by
  rcases first with rfl | digit
  · rfl
  · obtain ⟨d, small, rfl⟩ := exists_digitChar digit
    interval_cases d <;> rfl

end Scalars

/-- An integer is written with a digit or a sign in front. -/
theorem exists_toString_eq_cons (value : Int) :
    ∃ c rest, (toString value).toList = c :: rest ∧ (c = '-' ∨ c.isDigit = true) := by
  cases value with
  | ofNat n =>
    have digits : (toString (Int.ofNat n)).toList = Nat.toDigits 10 n := Nat.toList_repr
    cases spelled : Nat.toDigits 10 n with
    | nil => exact absurd spelled (by simp)
    | cons c rest =>
      refine ⟨c, rest, digits.trans spelled, Or.inr (isDigit_toDigits n c ?_)⟩
      rw [spelled]
      exact List.mem_cons_self
  | negSucc n =>
    have signed : (toString (Int.negSucc n)).toList = '-' :: (n + 1).repr.toList :=
      String.toList_append
    exact ⟨'-', _, signed, Or.inl rfl⟩

end ByteReader

end RecordCoding.Json
