import RecordCoding.Proofs.Coding.CompactedArrays
import RecordCoding.Proofs.Coding.WriteSteps
import RecordCoding.Proofs.Json.Numeral
import RecordCoding.Proofs.Json.ObjectText

/-!
# Lossless reading

A number that is read losslessly as a string keeps its characters or is refused. Which of the two it
is can be seen in the text: exact numerals are kept, and all others are either no numbers for the
parser or floating point numbers, which lossless strings are not made of. Lossless values in other
types are read as they would be as members of their own.
-/

namespace RecordCoding

namespace Container

variable {α : Type} {container : Container} {key : String} {document : Json}

/-- The object with one member. -/
def sole (key : String) (document : Json) : Container := ⟨[(key, document)]⟩

/-- Its member is found under its key. -/
theorem member?_sole (key : String) (document : Json) :
    (sole key document).member? key = some document := by
  simp [sole, member?, Json.member?]

/-- A lossless value is read from its member, whatever the other members are. -/
theorem decodeLossless_of_member [LosslessDecoding α]
    (here : container.member? key = some document) :
    (container.decodeLossless key : Except CodingError α) =
      (sole key document).decodeLossless key := by
  simp only [decodeLossless, decode, here, member?_sole]

/-- A string is read from a member that has lossless text. -/
theorem decodeLossless_eq_ok_iff (here : container.member? key = some document) {text : String} :
    container.decodeLossless key = .ok text ↔ Lossless.reader document = .ok text := by
  rw [decodeLossless_text, decode_eq_ok_iff, here]
  simp

/-- A member that is not null is refused in the words for its lossless text. -/
theorem decodeLossless_eq_error_iff (here : container.member? key = some document)
    (present : document ≠ .null) {error : CodingError} :
    (container.decodeLossless key : Except CodingError String) = .error error ↔
      ∃ reason, Lossless.reader document = .error reason ∧ mismatch key reason = error := by
  rw [decodeLossless_text, decode_of_present _ here present, mapError_eq_error_iff]

/-- A lossless value in a wrapper is read as it is without. -/
theorem decode_losslessValue [LosslessDecoding α] (container : Container) (key : String) :
    container.decode (LosslessDecoding.read : Reader (LosslessValue α)) key =
      LosslessValue.mk <$> container.decodeLossless key := by
  rw [decodeLossless, Functor.map_map, map_decode]
  rfl

/-- In a text that is a document, a member is found as it was read if it is the last of its name. -/
theorem exists_ofText {text : String} {before after : List (String × Json)}
    (read : Json.parse (Json.textBytes text) =
      .ok (Json.ofMembers (before ++ (key, document) :: after)))
    (isLast : ∀ entry ∈ after, entry.1 ≠ key) :
    ∃ container, ofText text = .ok container ∧ container.member? key = some document := by
  obtain ⟨members, object, found⟩ := Encoder.exists_ofMembers before document isLast
  refine ⟨⟨members⟩, ?_, found⟩
  rw [ofText, read, object]
  rfl

end Container

namespace Json

/-- The text of an object in which a numeral is the value of a member. -/
structure NumeralPlace where
  numeral : Numeral
  key : String
  first : List Char
  earlier : List MemberText
  member : MemberText
  later : List MemberText
  last : List Char
  before : List (String × Json)
  after : List (String × Json)
  gapFirst : IsGap first
  gapLast : IsGap last
  names : member.Names key
  spelled : member.value = numeral.chars
  /-- The members in front of it and behind it can be read. -/
  passed : List.Forall₂ (·.Spells (maxDepth - 1) ·) earlier before
  behind : List.Forall₂ (·.Spells (maxDepth - 1) ·) later after
  /-- No member behind it has its name, and so it is not replaced. -/
  isLast : ∀ entry ∈ after, entry.1 ≠ key

namespace NumeralPlace

/-- The text. -/
def text (place : NumeralPlace) : String :=
  documentText place.first place.last (place.earlier ++ place.member :: place.later)

/-- What is read losslessly as a string from the place in the text. -/
def read (place : NumeralPlace) : Except CodingError String := do
  (← Container.ofText place.text).decodeLossless place.key

/-- What follows the numeral. -/
def rest (place : NumeralPlace) : List UInt8 :=
  charsBytes place.member.behind ++
    (charsBytes (continued [] (place.later.map (·.chars))) ++ 125 :: charsBytes place.last)

/-- A numeral under a key among members that are printed on one line. -/
def among (numeral : Numeral) (key : String) (before after : List (String × Json))
    (each : ∀ entry ∈ before ++ after, Portable (maxDepth - 1) entry.2 ∧ entry.2.Ordered)
    (isLast : ∀ entry ∈ after, entry.1 ≠ key) : NumeralPlace where
  numeral := numeral
  key := key
  first := []
  earlier := before.map .printed
  member := .plain key numeral.chars
  later := after.map .printed
  last := []
  before := before
  after := after
  gapFirst := isGap_nil
  gapLast := isGap_nil
  names := MemberText.names_plain key numeral.chars
  spelled := rfl
  passed := List.forall₂_map_left_iff.mpr <| List.forall₂_same.mpr fun entry member =>
    have inside := each entry (List.mem_append_left after member)
    MemberText.spells_printed inside.1 inside.2
  behind := List.forall₂_map_left_iff.mpr <| List.forall₂_same.mpr fun entry member =>
    have inside := each entry (List.mem_append_right before member)
    MemberText.spells_printed inside.1 inside.2
  isLast := isLast

variable {place : NumeralPlace}

/-- The numeral ends where its characters do. -/
theorem endsNumber_rest (place : NumeralPlace) : EndsNumber place.rest :=
  ByteReader.endsNumber_gap place.member.gapBehind
    (ByteReader.endsNumber_texts place.later (endsNumber_cons _ (by decide)))

/-- If the numeral is read as a document, that is what is read at the place. -/
theorem read_of_ok {document : Json}
    (value : ByteReader.value (maxDepth - 1) (charsBytes place.numeral.chars ++ place.rest) =
      .ok (document, place.rest)) :
    place.read = (Container.sole place.key document).decodeLossless place.key := by
  rw [← place.spelled] at value
  have object := ByteReader.value_objectChars_of_ok place.passed place.names place.behind value
  have parsed := parse_documentText_of_ok place.gapFirst place.gapLast object
  obtain ⟨container, opened, here⟩ := Container.exists_ofText parsed place.isLast
  rw [← Container.decodeLossless_of_member here, read, text, opened]
  rfl

/-- If the numeral is not read, the text is no document. -/
theorem read_of_error {failure : Failure}
    (failed : ByteReader.value (maxDepth - 1) (charsBytes place.numeral.chars ++ place.rest) =
      .error failure) :
    ∃ detail, place.read = .error (.ofInvalidJson detail) := by
  rw [← place.spelled] at failed
  have object := ByteReader.value_objectChars_of_error place.passed place.names failed
  obtain ⟨detail, malformed⟩ := parse_documentText_of_error place.gapFirst object
  refine ⟨detail, ?_⟩
  rw [read, text, Container.ofText, malformed]
  rfl

/-- An exact numeral is kept. -/
theorem read_exact (exact : place.numeral.IsExact) : place.read = .ok place.numeral.text := by
  rw [read_of_ok (ByteReader.value_exact place.endsNumber_rest exact _), exact.text_eq]
  exact (Container.decodeLossless_eq_ok_iff (Container.member?_sole _ _)).mpr rfl

/-- Any other numeral is no number for the parser, or it is a floating point number. -/
theorem read_inexact (inexact : ¬ place.numeral.IsExact) :
    (∃ detail, place.read = .error (.ofInvalidJson detail)) ∨
      ∃ x : Binary64, place.read = .error (.typeMismatch place.key
        (ReadError.of (.wrongType (.float x) Lossless.expected)).message) := by
  cases value : ByteReader.value (maxDepth - 1) (charsBytes place.numeral.chars ++ place.rest) with
  | error failure => exact Or.inl (read_of_error value)
  | ok result =>
    obtain ⟨document, behind⟩ := result
    obtain ⟨⟨x, rfl⟩, rfl⟩ := ByteReader.value_inexact place.endsNumber_rest inexact value
    refine Or.inr ⟨x, ?_⟩
    rw [read_of_ok value]
    refine (Container.decodeLossless_eq_error_iff (Container.member?_sole _ _) ?_).mpr ⟨_, rfl, rfl⟩
    nofun

/-- What becomes of a numeral in a text. -/
structure KeptOrRefused (place : NumeralPlace) : Prop where
  /-- A string is read exactly if the numeral is exact, and it is the characters of the numeral. -/
  kept : ∀ text, place.read = .ok text ↔ place.numeral.IsExact ∧ text = place.numeral.text
  /-- For any other numeral there is an error of the parser or a mismatch. -/
  refused : ¬ place.numeral.IsExact →
    (∃ detail, place.read = .error (.ofInvalidJson detail)) ∨
      ∃ detail, place.read = .error (.typeMismatch place.key detail)
  /-- Wherever else it stands, in arrays and objects of any depth, the numeral is read as a document
  with its characters for lossless text if it is exact, -/
  keptAnywhere : place.numeral.IsExact → ∀ depth rest, EndsNumber rest →
    ∃ document, Lossless.reader document = .ok place.numeral.text ∧
      ByteReader.value depth (charsBytes place.numeral.chars ++ rest) = .ok (document, rest)
  /-- and otherwise, if at all, as one without lossless text. -/
  refusedAnywhere : ¬ place.numeral.IsExact → ∀ depth rest, EndsNumber rest →
    ∀ document behind,
      ByteReader.value depth (charsBytes place.numeral.chars ++ rest) = .ok (document, behind) →
      behind = rest ∧ ∃ reason, Lossless.reader document = .error reason

/-- Every numeral in a text is kept or refused. -/
theorem keptOrRefused (place : NumeralPlace) : place.KeptOrRefused where
  kept text := by
    constructor
    · intro found
      by_cases exact : place.numeral.IsExact
      · rw [read_exact exact] at found
        exact ⟨exact, (Except.ok.inj found).symm⟩
      · rcases read_inexact exact with ⟨detail, failed⟩ | ⟨x, failed⟩
        all_goals
          rw [failed] at found
          cases found
    · rintro ⟨exact, rfl⟩
      exact read_exact exact
  refused inexact := (read_inexact inexact).imp id fun ⟨_, failed⟩ => ⟨_, failed⟩
  keptAnywhere exact depth rest ends := by
    refine ⟨_, ?_, ByteReader.value_exact ends exact depth⟩
    rw [exact.text_eq]
    rfl
  refusedAnywhere inexact depth rest ends document behind read := by
    obtain ⟨⟨x, rfl⟩, same⟩ := ByteReader.value_inexact ends inexact read
    exact ⟨same, _, rfl⟩

end NumeralPlace

end Json

/-- The types made of lossless strings. -/
inductive LosslessShape where
  | value
  | optional (inner : LosslessShape)
  | sequence (inner : LosslessShape)

namespace LosslessShape

/-- The values of such a type. -/
def Carrier : LosslessShape → Type
  | value => LosslessValue String
  | optional inner => Option inner.Carrier
  | sequence inner => List inner.Carrier

/-- The reader of such a type. -/
def reader : (shape : LosslessShape) → Reader shape.Carrier
  | value => (LosslessDecoding.read : Reader (LosslessValue String))
  | optional inner => .optional inner.reader
  | sequence inner => .sequence inner.reader

/-- A value has in it, element by element, what is read losslessly where each element is a member of
its own. -/
def Keeps (key : String) : (shape : LosslessShape) → Json → shape.Carrier → Prop
  | value, document, kept =>
    (Container.sole key document).decodeLossless key = .ok (LosslessValue.inner kept)
  | optional inner, document, kept =>
    (document = .null ∧ kept = none) ∨
      (document ≠ .null ∧ ∃ present, kept = some present ∧ inner.Keeps key document present)
  | sequence inner, document, kept =>
    ∃ elements, document = .array elements ∧ List.Forall₂ (inner.Keeps key) elements kept

/-- The error for a document is the one for the first element that is refused where each element is
a member of its own. A null element is a mismatch, as it is no member. -/
def Refuses (key : String) : LosslessShape → Json → CodingError → Prop
  | value, document, error =>
    (document = .null ∧
      error = Container.mismatch key (.of (.wrongType .unit Lossless.expected))) ∨
    (document ≠ .null ∧
      ((Container.sole key document).decodeLossless key : Except CodingError String) =
        .error error)
  | optional inner, document, error => document ≠ .null ∧ inner.Refuses key document error
  | sequence inner, document, error =>
    (∃ before item after, document = .array (before ++ item :: after) ∧
      (∀ earlier ∈ before, ∃ kept, inner.Keeps key earlier kept) ∧
      inner.Refuses key item error) ∨
    (∀ elements, document ≠ .array elements) ∧
      error = Container.mismatch key (.of (.wrongType (.ofJson document) "a sequence"))

variable {shape : LosslessShape} {document : Json}

/-- A lossless value has the lossless text of its document. -/
theorem read_value_eq_ok_iff {kept : LosslessValue String} :
    LosslessDecoding.read document = .ok kept ↔ Lossless.reader document = .ok kept.inner := by
  refine map_eq_ok_iff.trans ⟨?_, fun read => ⟨kept.inner, read, rfl⟩⟩
  rintro ⟨text, read, rfl⟩
  exact read

/-- The reader of a shape accepts what keeps the lossless text. -/
theorem reader_eq_ok_iff (key : String) {kept : shape.Carrier} :
    shape.reader document = .ok kept ↔ shape.Keeps key document kept := by
  induction shape generalizing document with
  | value =>
    have here := Container.member?_sole key document
    exact read_value_eq_ok_iff.trans (Container.decodeLossless_eq_ok_iff here).symm
  | optional inner ih =>
    refine Reader.optional_eq_ok_iff.trans (or_congr Iff.rfl (and_congr_right fun _ => ?_))
    exact exists_congr fun _ => and_congr_right fun _ => ih
  | sequence inner ih =>
    refine Reader.sequence_eq_ok_iff.trans (exists_congr fun _ => and_congr_right fun _ => ?_)
    constructor
    · exact fun related => related.imp fun _ _ => ih.mp
    · exact fun related => related.imp fun _ _ => ih.mpr

/-- It refuses everything else in the words for the first element at fault. -/
theorem reader_eq_error_iff (key : String) {error : CodingError} :
    (∃ reason, shape.reader document = .error reason ∧ Container.mismatch key reason = error) ↔
      shape.Refuses key document error := by
  induction shape generalizing document with
  | value =>
    have refused (reason : ReadError) : value.reader document = .error reason ↔
        Lossless.reader document = .error reason := map_eq_error_iff
    have here := Container.member?_sole key document
    simp only [refused]
    constructor
    · intro failed
      by_cases null : document = .null
      · subst null
        obtain ⟨_, ⟨⟩, rfl⟩ := failed
        exact Or.inl ⟨rfl, rfl⟩
      · exact Or.inr ⟨null, (Container.decodeLossless_eq_error_iff here null).mpr failed⟩
    · rintro (⟨rfl, rfl⟩ | ⟨present, failed⟩)
      · exact ⟨_, rfl, rfl⟩
      · exact (Container.decodeLossless_eq_error_iff here present).mp failed
  | optional inner ih =>
    constructor
    · rintro ⟨reason, refused, rfl⟩
      obtain ⟨present, inside⟩ := Reader.optional_eq_error_iff.mp refused
      exact ⟨present, ih.mp ⟨reason, inside, rfl⟩⟩
    · rintro ⟨present, refused⟩
      obtain ⟨reason, inside, rfl⟩ := ih.mpr refused
      exact ⟨reason, Reader.optional_eq_error_iff.mpr ⟨present, inside⟩, rfl⟩
  | sequence inner ih =>
    constructor
    · rintro ⟨reason, refused, rfl⟩
      rcases Reader.sequence_eq_error_iff.mp refused with
        ⟨before, item, after, array, accepted, inside⟩ | ⟨other, rfl⟩
      · have passed : ∀ earlier ∈ before, ∃ kept, inner.Keeps key earlier kept :=
          fun earlier member => (accepted earlier member).imp fun _ => (reader_eq_ok_iff key).mp
        exact Or.inl ⟨before, item, after, array, passed, ih.mp ⟨reason, inside, rfl⟩⟩
      · exact Or.inr ⟨other, rfl⟩
    · rintro (⟨before, item, after, array, accepted, refused⟩ | ⟨other, rfl⟩)
      · obtain ⟨reason, inside, rfl⟩ := ih.mpr refused
        have passed : ∀ earlier ∈ before, ∃ kept, inner.reader earlier = .ok kept :=
          fun earlier member => (accepted earlier member).imp fun _ => (reader_eq_ok_iff key).mpr
        refine ⟨reason, Reader.sequence_eq_error_iff.mpr ?_, rfl⟩
        exact Or.inl ⟨before, item, after, array, passed, inside⟩
      · exact ⟨_, Reader.sequence_eq_error_iff.mpr (Or.inr ⟨other, rfl⟩), rfl⟩

/-- No shape but an optional one has a value for null. -/
theorem exists_reader_null (required : ∀ inner, shape ≠ .optional inner) :
    ∃ reason, shape.reader .null = .error reason := by
  cases shape with
  | value => exact ⟨_, rfl⟩
  | optional inner => exact absurd rfl (required inner)
  | sequence inner => exact ⟨_, rfl⟩

end LosslessShape

namespace Container

/-- What is read from the member under a key as a lossless string, and in types made of those. -/
structure ReadsLosslessly (container : Container) (key : String) : Prop where
  /-- Strings are kept as they are. -/
  text : ∀ value, container.member? key = some (.text value) →
    container.decodeLossless key = .ok value
  /-- Truth values become their words. -/
  boolean : ∀ value, container.member? key = some (.boolean value) →
    container.decodeLossless key = .ok (if value then "true" else "false")
  /-- Integers become their digits. -/
  integer : ∀ value : Int, container.member? key = some (.integer value) →
    container.decodeLossless key = .ok (toString value)
  /-- Null is a missing value. -/
  null : container.member? key = some .null →
    (container.decodeLossless key : Except CodingError String) = .error (.valueNotFound key)
  /-- Floating point numbers, arrays and objects are mismatches. -/
  refused : ∀ document, container.member? key = some document →
    (∃ x, document = .number (.float x)) ∨ (∃ elements, document = .array elements) ∨
      (∃ members, document = .object members) →
    (container.decodeLossless key : Except CodingError String) =
      .error (mismatch key (.of (.wrongType (.ofJson document) Lossless.expected)))
  /-- Whatever is read through a container of its own is read alike as a lossless value, -/
  decoded : ∀ {α : Type} [LosslessDecoding α],
    container.decode (LosslessDecoding.read : Reader (LosslessValue α)) key =
      LosslessValue.mk <$> container.decodeLossless key
  /-- which is read through the same container. -/
  wrapped : ∀ {α : Type} [LosslessDecoding α],
    (container.decodeLossless key : Except CodingError (LosslessValue α)) =
      LosslessValue.mk <$> container.decodeLossless key
  /-- In sequences and optional values of any depth, each element is read as a member of its own
  would be, -/
  nested : ∀ (shape : LosslessShape) document, container.member? key = some document →
    ∀ kept, container.decode shape.reader key = .ok kept ↔ shape.Keeps key document kept
  /-- and refused as one. -/
  nestedError : ∀ (shape : LosslessShape) document, container.member? key = some document →
    document ≠ .null →
    ∀ error, container.decode shape.reader key = .error error ↔ shape.Refuses key document error
  /-- Null is a missing value for them, too, unless there is an optional value for it. -/
  nestedNull : ∀ shape : LosslessShape, container.member? key = some .null →
    (∀ inner, shape ≠ .optional inner) →
    container.decode shape.reader key = .error (.valueNotFound key)

/-- Every member is read losslessly. -/
theorem readsLosslessly (container : Container) (key : String) :
    container.ReadsLosslessly key where
  text _ here := (decodeLossless_eq_ok_iff here).mpr rfl
  boolean _ here := (decodeLossless_eq_ok_iff here).mpr rfl
  integer _ here := (decodeLossless_eq_ok_iff here).mpr rfl
  null here := by
    rw [decodeLossless_text, decode_of_null _ here]
    rfl
  refused document here other := by
    rcases other with ⟨x, rfl⟩ | ⟨elements, rfl⟩ | ⟨members, rfl⟩
    all_goals exact (decodeLossless_eq_error_iff here (by nofun)).mpr ⟨_, rfl, rfl⟩
  decoded := container.decode_losslessValue key
  wrapped := by
    intro α _
    simp only [decodeLossless, Functor.map_map]
    rfl
  nested shape document here kept := by
    rw [decode_eq_ok_iff, here]
    simp only [Option.some.injEq, exists_eq_left']
    exact shape.reader_eq_ok_iff key
  nestedError shape document here present error := by
    rw [decode_of_present _ here present, mapError_eq_error_iff]
    exact shape.reader_eq_error_iff key
  nestedNull shape here required := by
    obtain ⟨reason, refused⟩ := LosslessShape.exists_reader_null required
    rw [decode_of_null _ here, refused]
    rfl

end Container

/-- Lossless strings are exact: what is a number in a text is kept as it is written or refused, and
every member is read so, wherever the string stands in its type. -/
theorem losslessReading :
    (∀ place : Json.NumeralPlace, place.KeptOrRefused) ∧
      ∀ (container : Container) (key : String), container.ReadsLosslessly key :=
  ⟨fun place => place.keptOrRefused, fun container key => container.readsLosslessly key⟩

namespace Json

/-- The greatest numeral that is kept. -/
def Numeral.greatest : Numeral where
  negative := false
  whole := "18446744073709551615".toList
  fraction := none
  exponent := none
  isWhole := ⟨by decide, List.all_eq_true.mp rfl⟩
  plain := by decide
  isFraction := nofun

/-- A zero that is refused for its sign. -/
def Numeral.negativeZero : Numeral where
  negative := true
  whole := ['0']
  fraction := none
  exponent := none
  isWhole := ⟨by decide, List.all_eq_true.mp rfl⟩
  plain := by decide
  isFraction := nofun

/-- An account with a numeral for its number, in place of a number that is null. -/
def NumeralPlace.account (numeral : Numeral) : NumeralPlace :=
  among numeral "id" [("id", .null), ("open", .boolean true)] [("note", .text "-0")]
    (List.forall_mem_cons.mpr ⟨⟨.null, .null⟩,
      List.forall_mem_cons.mpr ⟨⟨.boolean true, .boolean true⟩,
        List.forall_mem_singleton.mpr ⟨.text "-0", .text "-0"⟩⟩⟩)
    (List.forall_mem_singleton.mpr (by decide))

end Json

/-- At the limits of 64 bits identifiers are kept, in sequences as well, and a negative zero is no
identifier. -/
theorem losslessReading_limits :
    (Json.NumeralPlace.account .greatest).text = "\x7b\"id\":null,\"open\":true," ++
      "\"id\":18446744073709551615,\"note\":\"-0\"\x7d" ∧
    (Json.NumeralPlace.account .greatest).read = .ok "18446744073709551615" ∧
    (∀ text, (Json.NumeralPlace.account .negativeZero).read ≠ .ok text) ∧
    (Container.sole "ids" (.array [.integer (-9223372036854775808), .null, .text "x"])).decode
        (LosslessShape.sequence (.optional .value)).reader "ids" =
      .ok [some ⟨"-9223372036854775808"⟩, none, some ⟨"x"⟩] := by
  obtain ⟨numerals, members⟩ := losslessReading
  refine ⟨rfl, ?_, ?_, ?_⟩
  · refine ((numerals (.account .greatest)).kept _).mpr ⟨?_, rfl⟩
    exact ⟨rfl, rfl, by decide, by decide, by decide⟩
  · intro text read
    obtain ⟨exact, -⟩ := ((numerals (.account .negativeZero)).kept text).mp read
    exact exact.noNegativeZero rfl
  · refine ((members _ _).nested _ _ (Container.member?_sole _ _) _).mpr ?_
    refine ⟨_, rfl, .cons (Or.inr ⟨nofun, _, rfl, ?_⟩) (.cons (Or.inl ⟨rfl, rfl⟩)
      (.cons (Or.inr ⟨nofun, _, rfl, ?_⟩) .nil))⟩
    · exact (members _ _).integer _ (Container.member?_sole _ _)
    · exact (members _ _).text _ (Container.member?_sole _ _)

end RecordCoding
