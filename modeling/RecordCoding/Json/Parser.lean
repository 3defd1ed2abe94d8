import RecordCoding.Json.Number

/-!
# Reading JSON

A document is read from its bytes. Nesting is limited, so the reader of values is built from
layers: a layer reads scalars itself and leaves the values inside arrays and objects to the layer
below; the lowest layer refuses arrays and objects.
-/

namespace RecordCoding.Json

/-- The number of arrays and objects that may be open at once. -/
def maxDepth : Nat := 127

/-- A blank between tokens. -/
def isBlankByte (byte : UInt8) : Bool := byte == 32 || byte == 10 || byte == 9 || byte == 13

/-- The value of a hexadecimal digit. -/
def hexValue? (byte : UInt8) : Option Nat :=
  let c := Char.ofUInt8 byte
  if c.isDigit then some (c.toNat - 48)
  else if 'a' ≤ c && c ≤ 'f' then some (c.toNat - 87)
  else if 'A' ≤ c && c ≤ 'F' then some (c.toNat - 55)
  else none

/-- The value of four hexadecimal digits. -/
def hexValue4? (a b c d : UInt8) : Option Nat := do
  some (((← hexValue? a) * 16 + (← hexValue? b)) * 256 + (← hexValue? c) * 16 + (← hexValue? d))

/-- The number written with four hexadecimal digits at the start of the bytes. -/
def codeUnit (bytes : List UInt8) : Except Failure Nat :=
  match bytes with
  | a :: b :: c :: d :: rest =>
    match hexValue4? a b c d with
    | some n => .ok n
    | none => .error ⟨.invalidEscape, rest.length⟩
  | _ => .error ⟨.endInString, 0⟩

/-- The bytes of a character. -/
def charBytes (code : Nat) : List UInt8 := String.utf8EncodeChar (Char.ofNat code)

/-- The character of an escape that begins with `\u`, with the number of bytes its digits take.
A leading surrogate has to be followed by the escape of a trailing one. -/
def unicodeEscape (bytes : List UInt8) : Except Failure (List UInt8 × Nat) := do
  let first ← codeUnit bytes
  let rest := bytes.drop 4
  if 0xDC00 ≤ first && first ≤ 0xDFFF then .error ⟨.loneSurrogate, rest.length⟩
  else if 0xD800 ≤ first && first ≤ 0xDBFF then
    match rest with
    | [] => .error ⟨.endInString, 0⟩
    | backslash :: rest =>
      if backslash ≠ 92 then .error ⟨.unfinishedSurrogate, rest.length⟩
      else match rest with
        | [] => .error ⟨.endInString, 0⟩
        | u :: rest =>
          if u ≠ 117 then .error ⟨.unfinishedSurrogate, rest.length⟩
          else
            let second ← codeUnit rest
            if 0xDC00 ≤ second && second ≤ 0xDFFF then
              .ok (charBytes (0x10000 + (first - 0xD800) * 0x400 + (second - 0xDC00)), 10)
            else .error ⟨.loneSurrogate, rest.length - 4⟩
  else .ok (charBytes first, 4)

/-- The byte that an escape of one letter stands for. -/
def simpleEscape? (byte : UInt8) : Option UInt8 :=
  match Char.ofUInt8 byte with
  | '"' => some 34
  | '\\' => some 92
  | '/' => some 47
  | 'b' => some 8
  | 'f' => some 12
  | 'n' => some 10
  | 'r' => some 13
  | 't' => some 9
  | _ => none

/-- The bytes of a string after its opening quote, escapes resolved, and what follows the closing
quote. -/
def stringBytes (bytes : List UInt8) : Except Failure (List UInt8 × List UInt8) :=
  match bytes with
  | [] => .error ⟨.endInString, 0⟩
  | byte :: rest =>
    if byte = 34 then .ok ([], rest)
    else if byte = 92 then
      match rest with
      | [] => .error ⟨.endInString, 0⟩
      | letter :: rest =>
        if letter = 117 then
          match unicodeEscape rest with
          | .ok (encoded, size) => do
            let (more, rest) ← stringBytes (rest.drop size)
            .ok (encoded ++ more, rest)
          | .error failure => .error failure
        else match simpleEscape? letter with
          | some value => do
            let (more, rest) ← stringBytes rest
            .ok (value :: more, rest)
          | none => .error ⟨.invalidEscape, rest.length⟩
    else if byte < 32 then .error ⟨.controlCharacter, rest.length⟩
    else do
      let (more, rest) ← stringBytes rest
      .ok (byte :: more, rest)
termination_by bytes.length
decreasing_by all_goals (simp; try omega)

namespace ByteReader

/-- Passes over blanks and looks at the next byte. -/
def peekToken : ByteReader (Option Char) := do
  modify (·.dropWhile isBlankByte)
  peek

/-- A string, after its opening quote. Its bytes have to be well-formed text; where they are not,
the failure is found at the closing quote. -/
def string : ByteReader String := fun bytes => do
  let (content, rest) ← stringBytes bytes
  match String.fromUTF8? ⟨content.toArray⟩ with
  | some read => .ok (read, rest)
  | none => .error ⟨.invalidCodePoint, rest.length + 1⟩

/-- The letters that remain of a word. -/
def word : List Char → ByteReader Unit
  | [] => pure ()
  | letter :: rest => do
    let found ← next .endInValue
    if found = letter then word rest else fail .expectedIdent

/-- A colon between a name and a value. -/
def colon : ByteReader Unit := do
  match ← peekToken with
  | some ':' => skip
  | some _ => failAhead .expectedColon
  | none => failAhead .endInObject

/-- The elements of an array up to its closing bracket. The first argument bounds their number;
the second tells whether none was read yet. -/
def elements (value : ByteReader Json) : Nat → Bool → ByteReader (List Json)
  | 0, _ => fail .endInList
  | bound + 1, isFirst => do
    let readOn : ByteReader (List Json) := do
      let element ← value
      pure (element :: (← elements value bound false))
    match ← peekToken with
    | none => failAhead .endInList
    | some ']' => skip; pure []
    | some ',' =>
      if isFirst then readOn
      else
        skip
        match ← peekToken with
        | some ']' => failAhead .trailingComma
        | some _ => readOn
        | none => failAhead .endInValue
    | some _ => if isFirst then readOn else failAhead .expectedListCommaOrEnd

/-- The members of an object up to its closing brace. -/
def members (value : ByteReader Json) : Nat → Bool → ByteReader (List (String × Json))
  | 0, _ => fail .endInObject
  | bound + 1, isFirst => do
    let readOn : ByteReader (List (String × Json)) := do
      skip
      let name ← string
      colon
      let member ← value
      pure ((name, member) :: (← members value bound false))
    match ← peekToken with
    | none => failAhead .endInObject
    | some '\x7d' => skip; pure []
    | some c =>
      if isFirst then
        if c = '"' then readOn else failAhead .keyMustBeString
      else if c = ',' then
        skip
        match ← peekToken with
        | some '"' => readOn
        | some '\x7d' => failAhead .trailingComma
        | some _ => failAhead .keyMustBeString
        | none => failAhead .endInValue
      else failAhead .expectedObjectCommaOrEnd

/-- A bound on the number of elements that can follow. -/
def bound : ByteReader Nat := fun rest => .ok (rest.length + 1, rest)

/-- A value whose inner values are read by `inner`; arrays and objects are refused without it. -/
def valueOver (inner : Option (ByteReader Json)) : ByteReader Json := do
  match ← peekToken with
  | none => failAhead .endInValue
  | some 'n' => skip; word ['u', 'l', 'l']; pure .null
  | some 't' => skip; word ['r', 'u', 'e']; pure (.boolean true)
  | some 'f' => skip; word ['a', 'l', 's', 'e']; pure (.boolean false)
  | some '"' => skip; .text <$> string
  | some '[' =>
    match inner with
    | none => failAhead .tooDeep
    | some value => skip; .array <$> elements value (← bound) true
  | some '\x7b' =>
    match inner with
    | none => failAhead .tooDeep
    | some value => skip; ofMembers <$> members value (← bound) true
  | some c => if c = '-' || c.isDigit then .number <$> number else failAhead .expectedValue

/-- A value with at most the given number of arrays and objects open at once. -/
def value : Nat → ByteReader Json
  | 0 => valueOver none
  | depth + 1 => valueOver (some (value depth))

/-- The end of the text. -/
def finish : ByteReader Unit := do
  if (← peekToken).isSome then failAhead .trailingCharacters

/-- A whole document. -/
def document : ByteReader Json := do
  let read ← value maxDepth
  finish
  pure read

end ByteReader

/-- The bytes of a text. -/
def textBytes (text : String) : List UInt8 := text.toUTF8.toList

/-- The document in a sequence of bytes. -/
def parseBytes (bytes : List UInt8) : Except Failure Json :=
  (·.1) <$> ByteReader.document bytes

/-- The document in a text, or the message that says why there is none. -/
def parse (bytes : List UInt8) : Except String Json :=
  (parseBytes bytes).mapError (·.message bytes)

end RecordCoding.Json
