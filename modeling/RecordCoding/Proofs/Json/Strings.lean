import RecordCoding.Json.Printer
import RecordCoding.Proofs.Json.Decimal

/-!
# Strings between quotes

A string that is written is read back, whatever characters are in it: those that are escaped are
found again behind their escapes, and all others stand for themselves byte by byte.
-/

namespace RecordCoding.Json

/-- The bytes of characters. -/
def charsBytes (chars : List Char) : List UInt8 := chars.flatMap String.utf8EncodeChar

@[simp] theorem charsBytes_nil : charsBytes [] = [] := rfl

@[simp] theorem charsBytes_cons (c : Char) (rest : List Char) :
    charsBytes (c :: rest) = String.utf8EncodeChar c ++ charsBytes rest := rfl

@[simp] theorem charsBytes_append (first second : List Char) :
    charsBytes (first ++ second) = charsBytes first ++ charsBytes second :=
  List.flatMap_append

/-- What is read of a string, with some bytes in front of it. -/
def prepended (front : List UInt8) :
    Except Failure (List UInt8 × List UInt8) → Except Failure (List UInt8 × List UInt8) :=
  Except.map fun (more, rest) => (front ++ more, rest)

theorem prepended_append (front more : List UInt8)
    (read : Except Failure (List UInt8 × List UInt8)) :
    prepended front (prepended more read) = prepended (front ++ more) read := by
  cases read <;> simp [prepended, Except.map]

/-- The closing quote ends a string. -/
theorem stringBytes_quote (rest : List UInt8) : stringBytes (34 :: rest) = .ok ([], rest) := by
  rw [stringBytes.eq_def]
  exact if_pos rfl

/-- A byte that is neither a quote nor a backslash nor a control character stands for itself. -/
theorem stringBytes_plain {byte : UInt8} (printable : 32 ≤ byte) (quote : byte ≠ 34)
    (backslash : byte ≠ 92) (rest : List UInt8) :
    stringBytes (byte :: rest) = prepended [byte] (stringBytes rest) := by
  have control : ¬ byte < 32 := UInt8.not_lt.mpr printable
  rw [stringBytes.eq_def]
  dsimp only
  rw [if_neg quote, if_neg backslash, if_neg control]
  cases stringBytes rest <;> rfl

/-- So do several of them. -/
theorem stringBytes_append_plain {bytes : List UInt8}
    (plain : ∀ byte ∈ bytes, 32 ≤ byte ∧ byte ≠ 34 ∧ byte ≠ 92) (rest : List UInt8) :
    stringBytes (bytes ++ rest) = prepended bytes (stringBytes rest) := by
  induction bytes with
  | nil =>
    rw [List.nil_append]
    cases stringBytes rest <;> rfl
  | cons byte others ih =>
    obtain ⟨⟨printable, quote, backslash⟩, behind⟩ := List.forall_mem_cons.mp plain
    rw [List.cons_append, stringBytes_plain printable quote backslash, ih behind,
      prepended_append]
    rfl

/-- An escape of one letter stands for the byte of the letter. -/
theorem stringBytes_simpleEscape {letter value : UInt8}
    (escapes : simpleEscape? letter = some value) (rest : List UInt8) :
    stringBytes (92 :: letter :: rest) = prepended [value] (stringBytes rest) := by
  have notUnicode : letter ≠ 117 := by
    rintro rfl
    cases escapes
  rw [stringBytes.eq_def]
  dsimp only
  rw [if_neg (by decide), if_pos rfl]
  rw [if_neg notUnicode, escapes]
  cases stringBytes rest <;> rfl

/-- A hexadecimal digit is a byte that stands for it. -/
theorem hexValue?_hexDigit {n : Nat} (small : n < 16) :
    ∃ byte, String.utf8EncodeChar (Text.hexDigit n) = [byte] ∧ hexValue? byte = some n := by
  interval_cases n <;> exact ⟨_, rfl, rfl⟩

/-- A small number is found again behind its two digits and two zeros in front of them. -/
theorem stringBytes_unicodeEscape {n : Nat} (small : n < 256) (rest : List UInt8) :
    stringBytes (charsBytes ['\\', 'u', '0', '0', Text.hexDigit (n / 16), Text.hexDigit (n % 16)] ++
      rest) = prepended (charBytes n) (stringBytes rest) := by
  obtain ⟨high, highBytes, highValue⟩ := hexValue?_hexDigit (n := n / 16) (by omega)
  obtain ⟨low, lowBytes, lowValue⟩ := hexValue?_hexDigit (n := n % 16) (by omega)
  have bytes : charsBytes ['\\', 'u', '0', '0', Text.hexDigit (n / 16), Text.hexDigit (n % 16)] =
      [92, 117, 48, 48, high, low] := by
    rw [charsBytes_cons, charsBytes_cons, charsBytes_cons, charsBytes_cons, charsBytes_cons,
      charsBytes_cons, highBytes, lowBytes]
    rfl
  have zero : hexValue? 48 = some 0 := rfl
  have digits : hexValue4? 48 48 high low = some n := by
    simp only [hexValue4?, zero, highValue, lowValue, Option.bind_eq_bind, Option.bind_some,
      Option.some.injEq]
    omega
  have escape : unicodeEscape (48 :: 48 :: high :: low :: rest) = .ok (charBytes n, 4) := by
    have notTrailing : (decide (0xDC00 ≤ n) && decide (n ≤ 0xDFFF)) = false := by
      rw [Bool.and_eq_false_iff]
      left
      exact decide_eq_false (by omega)
    have notLeading : (decide (0xD800 ≤ n) && decide (n ≤ 0xDBFF)) = false := by
      rw [Bool.and_eq_false_iff]
      left
      exact decide_eq_false (by omega)
    simp only [unicodeEscape, codeUnit, digits, bind, Except.bind, notTrailing, notLeading,
      Bool.false_eq_true, if_false]
  rw [bytes, stringBytes.eq_def]
  dsimp only [List.cons_append, List.nil_append]
  rw [if_neg (by decide), if_pos rfl, if_pos rfl, escape]
  dsimp only [List.drop]
  cases stringBytes rest <;> rfl

/-- The byte of a printable character of ASCII is plain unless the character is not. -/
theorem plain_ofNat {n : Nat} (printable : 32 ≤ n) (small : n < 256) (quote : n ≠ 34)
    (backslash : n ≠ 92) :
    32 ≤ UInt8.ofNat n ∧ UInt8.ofNat n ≠ 34 ∧ UInt8.ofNat n ≠ 92 := by
  have value : (UInt8.ofNat n).toNat = n := by
    rw [UInt8.toNat_ofNat']
    exact Nat.mod_eq_of_lt small
  refine ⟨UInt8.le_iff_toNat_le.mpr ?_, ?_, ?_⟩
  · rw [value]
    exact printable
  · intro same
    rw [same] at value
    exact quote value.symm
  · intro same
    rw [same] at value
    exact backslash value.symm

/-- The bytes of a character that is no control character, no quote and no backslash are not
mistaken for one. -/
theorem plain_of_mem_utf8EncodeChar {c : Char} (printable : 0x20 ≤ c.toNat) (quote : c ≠ '"')
    (backslash : c ≠ '\\') :
    ∀ byte ∈ String.utf8EncodeChar c, 32 ≤ byte ∧ byte ≠ 34 ∧ byte ≠ 92 := by
  have notQuote : c.val.toNat ≠ 34 := fun same => quote (Char.toNat_inj.mp same)
  have notBackslash : c.val.toNat ≠ 92 := fun same => backslash (Char.toNat_inj.mp same)
  have high (n : Nat) (large : 128 ≤ n) (small : n < 256) :=
    plain_ofNat (n := n) (by omega) small (by omega) (by omega)
  change 32 ≤ c.val.toNat at printable
  dsimp only [String.utf8EncodeChar]
  generalize c.val.toNat = code at printable notQuote notBackslash ⊢
  by_cases oneByte : code ≤ 127
  · rw [if_pos oneByte, List.forall_mem_singleton]
    exact plain_ofNat printable (by omega) notQuote notBackslash
  rw [if_neg oneByte]
  by_cases twoBytes : code ≤ 2047
  · rw [if_pos twoBytes, List.forall_mem_cons, List.forall_mem_singleton]
    exact ⟨high _ (by omega) (by omega), high _ (by omega) (by omega)⟩
  rw [if_neg twoBytes]
  by_cases threeBytes : code ≤ 65535
  · rw [if_pos threeBytes, List.forall_mem_cons, List.forall_mem_cons, List.forall_mem_singleton]
    exact ⟨high _ (by omega) (by omega), high _ (by omega) (by omega),
      high _ (by omega) (by omega)⟩
  · rw [if_neg threeBytes, List.forall_mem_cons, List.forall_mem_cons, List.forall_mem_cons,
      List.forall_mem_singleton]
    exact ⟨high _ (by omega) (by omega), high _ (by omega) (by omega),
      high _ (by omega) (by omega), high _ (by omega) (by omega)⟩

/-- A character is read back behind its escape, or as it is. -/
theorem stringBytes_escapeChar (c : Char) (rest : List UInt8) :
    stringBytes (charsBytes (escapeChar c) ++ rest) =
      prepended (String.utf8EncodeChar c) (stringBytes rest) := by
  by_cases quote : c = '"'
  · subst quote
    exact stringBytes_simpleEscape rfl rest
  by_cases backslash : c = '\\'
  · subst backslash
    exact stringBytes_simpleEscape rfl rest
  by_cases printable : 0x20 ≤ c.toNat
  · rw [escapeChar_of_plain printable quote backslash, charsBytes_cons, charsBytes_nil,
      List.append_nil]
    exact stringBytes_append_plain (plain_of_mem_utf8EncodeChar printable quote backslash) rest
  · unfold escapeChar
    split
    · exact stringBytes_simpleEscape rfl rest
    · exact stringBytes_simpleEscape rfl rest
    · exact stringBytes_simpleEscape rfl rest
    · exact stringBytes_simpleEscape rfl rest
    · exact stringBytes_simpleEscape rfl rest
    · exact stringBytes_simpleEscape rfl rest
    · exact stringBytes_simpleEscape rfl rest
    · rw [if_pos (by omega), stringBytes_unicodeEscape (by omega), charBytes, Char.ofNat_toNat]

/-- All characters of a string are read back, up to the closing quote. -/
theorem stringBytes_escaped (chars : List Char) (rest : List UInt8) :
    stringBytes (charsBytes (chars.flatMap escapeChar) ++ 34 :: rest) =
      .ok (charsBytes chars, rest) := by
  induction chars with
  | nil => exact stringBytes_quote rest
  | cons c others ih =>
    rw [List.flatMap_cons, charsBytes_append, List.append_assoc, stringBytes_escapeChar, ih]
    rfl

/-- The bytes of a text are well formed and make that text. -/
theorem fromUTF8?_charsBytes (text : String) :
    String.fromUTF8? ⟨(charsBytes text.toList).toArray⟩ = some text := by
  have bytes : (⟨(charsBytes text.toList).toArray⟩ : ByteArray) = text.toByteArray := by
    apply ByteArray.ext
    rw [charsBytes, ← toList_data_toByteArray, Array.toArray_toList]
  rw [bytes, String.fromUTF8?, dif_pos text.isValidUTF8]
  rfl

/-- The bytes of a string are between two quotes. -/
theorem charsBytes_stringChars (text : String) (rest : List UInt8) :
    charsBytes (stringChars text) ++ rest =
      34 :: (charsBytes (text.toList.flatMap escapeChar) ++ 34 :: rest) := by
  have split : stringChars text = ['"'] ++ (text.toList.flatMap escapeChar ++ ['"']) := rfl
  rw [split, charsBytes_append, charsBytes_append, List.append_assoc, List.append_assoc]
  rfl

/-- A string is read back from its form between quotes. -/
theorem ByteReader.string_stringChars (text : String) (rest : List UInt8) :
    ByteReader.string (charsBytes (text.toList.flatMap escapeChar) ++ 34 :: rest) =
      .ok (text, rest) := by
  unfold ByteReader.string
  rw [stringBytes_escaped]
  dsimp only [bind, Except.bind]
  rw [fromUTF8?_charsBytes]

end RecordCoding.Json
