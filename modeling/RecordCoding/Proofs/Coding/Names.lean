import RecordCoding.Coding.Codec
import RecordCoding.Proofs.Json.ByteOrder
import RecordCoding.Proofs.Json.IntegerText

/-!
# Values as names of members

A value that was read from a name is written as that name again. So different names are read as
different values, and members do not fall together when their names are read.
-/

namespace RecordCoding

/-- Values that are read from names survive being written. -/
def NameCodec.Lawful (codec : NameCodec) : Prop :=
  ∀ name value, codec.read name = .ok value →
    ∃ written, codec.write value = .ok written ∧ codec.read written = .ok value

namespace IntegerType

/-- Every integer type fits 64 bits, signed or unsigned. -/
theorem within_64 {type : IntegerType} {value : Int} (least : type.least ≤ value)
    (greatest : value ≤ type.greatest) : -Int.pow 2 63 ≤ value ∧ value < Int.pow 2 64 := by
  have lower : -Int.pow 2 63 ≤ type.least := by cases type <;> decide
  have upper : type.greatest < Int.pow 2 64 := by cases type <;> decide
  omega

/-- Values of the type are accepted. -/
theorem ofNumber_integer {type : IntegerType} {value : Int} (least : type.least ≤ value)
    (greatest : value ≤ type.greatest) : type.ofNumber (.integer value) = .ok value := by
  simp [ofNumber, least, greatest]

/-- Only the integer itself is accepted as one. -/
theorem eq_integer_of_ofNumber {type : IntegerType} {number : JsonNumber} {value : Int}
    (accepted : type.ofNumber number = .ok value) : number = .integer value := by
  unfold ofNumber at accepted
  split at accepted
  · split at accepted
    · cases accepted
      rfl
    · cases accepted
  · cases accepted

end IntegerType

namespace Json

/-- The bytes of an integer begin with a sign or a digit, and nothing of them is blank. -/
theorem textBytes_toString_cases (value : Int) :
    ∃ c rest, textBytes (toString value) = Char.toUInt8 c :: rest ∧
      NameReader.looksNumeric (toString value) = true ∧ (c = '-' ∨ c.isDigit = true) := by
  cases value with
  | ofNat n =>
    have each : ∀ c ∈ Nat.toDigits 10 n, c.isDigit = true :=
      fun c member => Nat.isDigit_of_mem_toDigits (by decide) (by decide) member
    have spelled : toString (Int.ofNat n) = n.repr := rfl
    rw [spelled, textBytes_eq, NameReader.looksNumeric, Nat.toList_repr, textBytes_ofDigits each]
    cases digits : Nat.toDigits 10 n with
    | nil => exact absurd digits Nat.toDigits_ne_nil
    | cons c rest =>
      have first : c.isDigit = true := each c (by rw [digits]; exact List.mem_cons_self)
      exact ⟨c, rest.map Char.toUInt8, rfl, by simp [first], Or.inr first⟩
  | negSucc n =>
    have spelled : toString (Int.negSucc n) = "-" ++ (n + 1).repr := rfl
    rw [spelled, textBytes_eq, String.toList_append, List.flatMap_append]
    refine ⟨'-', (n + 1).repr.toList.flatMap String.utf8EncodeChar, rfl, ?_, Or.inl rfl⟩
    rw [NameReader.looksNumeric, String.toList_append]
    rfl

end Json

/-- A sign or a digit is the next token where it stands. -/
theorem Json.peekToken_of_starts {c : Char} (starts : c = '-' ∨ c.isDigit = true)
    (bytes : List UInt8) :
    ByteReader.peekToken (c.toUInt8 :: bytes) = .ok (some c, c.toUInt8 :: bytes) := by
  have solid : isBlankByte c.toUInt8 = false := by
    rcases starts with rfl | digit
    · rfl
    · exact isBlankByte_toUInt8 digit
  have same : Char.ofUInt8 c.toUInt8 = c := by
    rcases starts with rfl | digit
    · rfl
    · exact ofUInt8_toUInt8 digit
  simp [ByteReader.peekToken, ByteReader.peek, bind, StateT.bind, Except.bind, modify, modifyGet,
    MonadStateOf.modifyGet, StateT.modifyGet, pure, Except.pure, solid, same]

/-- An integer is read where a number begins. -/
theorem readInteger_of_number {type : IntegerType} {c : Char} {bytes rest : List UInt8}
    {value : Int} (starts : c = '-' ∨ c.isDigit = true)
    (number : Json.ByteReader.number (c.toUInt8 :: bytes) = .ok (.integer value, rest))
    (fits : type.ofNumber (.integer value) = .ok value) :
    readInteger type (c.toUInt8 :: bytes) = .ok (value, rest) := by
  have numeric : (decide (c = '-') || c.isDigit) = true := by simpa using starts
  unfold readInteger
  dsimp only
  rw [Json.peekToken_of_starts starts]
  simp only [Except.mapError, bind, Except.bind]
  -- Only a character that begins no other kind of value is left.
  split
  · rename_i none
    cases none
  · rename_i quote
    cases quote
    rcases starts with h | h <;> cases h
  · rename_i bracket
    cases bracket
    rcases starts with h | h <;> cases h
  · rename_i brace
    cases brace
    rcases starts with h | h <;> cases h
  · rename_i other
    cases other
    rw [if_pos numeric, number]
    simp only [fits]

/-- Where a number begins, it is the number that was read as an integer. -/
theorem number_of_readInteger {type : IntegerType} {c : Char} {bytes rest : List UInt8}
    {value : Int} (starts : c = '-' ∨ c.isDigit = true)
    (read : readInteger type (c.toUInt8 :: bytes) = .ok (value, rest)) :
    Json.ByteReader.number (c.toUInt8 :: bytes) = .ok (.integer value, rest) := by
  have numeric : (decide (c = '-') || c.isDigit) = true := by simpa using starts
  unfold readInteger at read
  dsimp only at read
  rw [Json.peekToken_of_starts starts] at read
  obtain ⟨⟨next, ahead⟩, seen, read⟩ := bind_eq_ok_iff.mp read
  cases seen
  dsimp only at read
  split at read
  · rename_i none
    cases none
  · rename_i quote
    cases quote
    rcases starts with h | h <;> cases h
  · rename_i bracket
    cases bracket
    rcases starts with h | h <;> cases h
  · rename_i brace
    cases brace
    rcases starts with h | h <;> cases h
  · rename_i other
    cases other
    rw [if_pos numeric] at read
    obtain ⟨⟨number, after⟩, found, chosen⟩ := bind_eq_ok_iff.mp read
    rw [mapError_eq_ok_iff] at found
    dsimp only at chosen
    split at chosen
    · rename_i accepted
      cases chosen
      rw [found, IntegerType.eq_integer_of_ofNumber accepted]
    · cases chosen

/-- What is read as an integer lies within the bounds of its type. -/
theorem IntegerType.bounds_of_readInteger {type : IntegerType} {bytes rest : List UInt8}
    {value : Int}
    (read : readInteger type bytes = .ok (value, rest)) :
    type.least ≤ value ∧ value ≤ type.greatest := by
  unfold readInteger at read
  obtain ⟨⟨next, ahead⟩, -, read⟩ := bind_eq_ok_iff.mp read
  dsimp only at read
  split at read
  · simp [Json.ByteReader.failAhead, Except.mapError, Functor.map, Except.map] at read
  · obtain ⟨_, -, refused⟩ := bind_eq_ok_iff.mp read
    cases refused
  · cases read
  · cases read
  · split at read
    · obtain ⟨⟨number, after⟩, -, chosen⟩ := bind_eq_ok_iff.mp read
      dsimp only at chosen
      split at chosen
      · rename_i accepted
        cases chosen
        exact bounds_of_ofNumber accepted
      · cases chosen
    · obtain ⟨_, -, refused⟩ := bind_eq_ok_iff.mp read
      cases refused

namespace NameReader

/-- An integer within the bounds of its type is found again from its digits. -/
theorem integer_toString {type : IntegerType} {value : Int} (least : type.least ≤ value)
    (greatest : value ≤ type.greatest) : integer type (toString value) = .ok value := by
  obtain ⟨c, rest, bytes, numeric, starts⟩ := Json.textBytes_toString_cases value
  obtain ⟨lower, upper⟩ := IntegerType.within_64 least greatest
  have number := Json.ByteReader.number_textBytes lower upper
  rw [bytes] at number
  have read := readInteger_of_number starts number (IntegerType.ofNumber_integer least greatest)
  unfold integer
  rw [if_pos numeric, bytes, read]
  rfl

/-- What is read from a name as an integer lies within the bounds of its type. -/
theorem bounds_of_integer {type : IntegerType} {name : String} {value : Int}
    (read : integer type name = .ok value) : type.least ≤ value ∧ value ≤ type.greatest := by
  unfold integer at read
  split at read
  · obtain ⟨⟨found, rest⟩, within, ending⟩ := bind_eq_ok_iff.mp read
    dsimp only at ending
    split at ending
    · cases ending
      exact IntegerType.bounds_of_readInteger within
    · cases ending
  · cases read

/-- An integer is read from no name but its digits. -/
theorem eq_toString_of_integer {type : IntegerType} {name : String} {value : Int}
    (read : integer type name = .ok value) : name = toString value := by
  unfold integer at read
  split at read
  · rename_i numeric
    obtain ⟨⟨found, rest⟩, within, ending⟩ := bind_eq_ok_iff.mp read
    dsimp only at ending
    split at ending
    · rename_i whole
      obtain rfl := List.isEmpty_iff.mp whole
      cases ending
      unfold looksNumeric at numeric
      split at numeric
      · rename_i c others spelled
        have starts : c = '-' ∨ c.isDigit = true := by simpa using numeric
        have single : String.utf8EncodeChar c = [c.toUInt8] := by
          rcases starts with rfl | digit
          · rfl
          · exact Json.utf8EncodeChar_of_isDigit digit
        have bytes : Json.textBytes name =
            c.toUInt8 :: others.flatMap String.utf8EncodeChar := by
          rw [Json.textBytes_eq, spelled, List.flatMap_cons, single]
          rfl
        rw [bytes] at within
        have number := Json.ByteReader.number_eq_integer (number_of_readInteger starts within)
        rw [← bytes, List.append_nil] at number
        exact Json.textBytes_inj number
      · cases numeric
    · cases ending
  · cases read

/-- A name is read as an integer if it has the digits of one within the bounds of its type. -/
theorem integer_eq_ok_iff {type : IntegerType} {name : String} {value : Int} :
    integer type name = .ok value ↔
      name = toString value ∧ type.least ≤ value ∧ value ≤ type.greatest := by
  constructor
  · exact fun read => ⟨eq_toString_of_integer read, bounds_of_integer read⟩
  · rintro ⟨rfl, least, greatest⟩
    exact integer_toString least greatest

end NameReader

/-- Nothing is read from any other name than the one that it is written as. -/
theorem NameType.write_of_read {type : NameType} {name : String} {value : Datum}
    (read : type.codec.read name = .ok value) : type.codec.write value = .ok name := by
  cases type with
  | text =>
    cases read
    rfl
  | character =>
    obtain ⟨c, found, rfl⟩ := map_eq_ok_iff.mp read
    unfold NameReader.character Reader.soleCharacter at found
    split at found
    · rename_i sole
      cases found
      refine congrArg Except.ok (String.toList_inj.mp ?_)
      rw [sole, String.toList_singleton]
    · cases found
  | boolean =>
    obtain ⟨b, found, rfl⟩ := map_eq_ok_iff.mp read
    unfold NameReader.boolean at found
    split at found
    · cases found
      rfl
    · cases found
      rfl
    · cases found
  | integer type =>
    obtain ⟨v, found, rfl⟩ := map_eq_ok_iff.mp read
    exact congrArg Except.ok (NameReader.eq_toString_of_integer found).symm

/-- Different names are read as different values. -/
theorem NameType.read_injective {type : NameType} {name other : String} {value : Datum}
    (read : type.codec.read name = .ok value) (again : type.codec.read other = .ok value) :
    name = other :=
  Except.ok.inj ((write_of_read read).symm.trans (write_of_read again))

/-- The names of every type are written as they can be read. -/
theorem NameType.lawful_codec (type : NameType) : type.codec.Lawful :=
  fun name _ read => ⟨name, write_of_read read, read⟩

end RecordCoding
