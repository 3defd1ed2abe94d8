import RecordCoding.Proofs.Binary64.Magnitude
import RecordCoding.Proofs.Coding.Names
import RecordCoding.Proofs.Json.Document

/-!
# Lawful codecs

A codec is lawful if the values it reads survive being written, and if nothing but null is written
as null. The codecs of single values are lawful, and so is that of values that may be missing.
-/

namespace RecordCoding

namespace Codec

/-- A value is written as a document that is read as the same value. -/
def Survives (codec : Codec) (value : Datum) (written : Json) : Prop :=
  codec.write value = .ok written ∧ codec.read written = .ok value

/-- Values that are read survive being written, and are written as null only if they were. -/
def Lawful (codec : Codec) : Prop :=
  ∀ document value, document.Representable → codec.read document = .ok value →
    ∃ written, codec.Survives value written ∧ (written = .null → document = .null)

section Scalars

/-- A codec that reads values through a function is lawful if what is read is written so that it
is read again. -/
theorem lawful_of_map {α : Type} {reader : Reader α} {make : α → Datum} {codec : Codec}
    (reads : codec.read = fun document => make <$> reader document)
    (again : ∀ document a, document.Representable → reader document = .ok a →
      ∃ written, codec.write (make a) = .ok written ∧ reader written = .ok a ∧
        (written = .null → document = .null)) : codec.Lawful := by
  intro document value bounded read
  rw [reads] at read
  obtain ⟨a, found, rfl⟩ := map_eq_ok_iff.mp read
  obtain ⟨written, write, back, null⟩ := again document a bounded found
  refine ⟨written, ⟨write, ?_⟩, null⟩
  rw [reads]
  exact map_eq_ok_iff.mpr ⟨a, back, rfl⟩

theorem lawful_boolean : boolean.Lawful := by
  refine lawful_of_map rfl ?_
  intro document value _ _
  exact ⟨.boolean value, rfl, rfl, by simp⟩

theorem lawful_integer (type : IntegerType) : (integer type).Lawful := by
  refine lawful_of_map rfl ?_
  intro document value _ read
  have bounds : type.least ≤ value ∧ value ≤ type.greatest := by
    cases document with
    | number number => exact IntegerType.bounds_of_ofNumber (mapError_eq_ok_iff.mp read)
    | _ => cases read
  obtain ⟨least, greatest⟩ := IntegerType.within_64 bounds.1 bounds.2
  have fits : (-Int.pow 2 63 ≤ value && value < Int.pow 2 64) = true := by
    rw [Bool.and_eq_true, decide_eq_true_eq, decide_eq_true_eq]
    exact ⟨least, greatest⟩
  refine ⟨.integer value, ?_, ?_, by simp⟩
  · exact if_pos fits
  · exact mapError_eq_ok_iff.mpr (IntegerType.ofNumber_integer bounds.1 bounds.2)

theorem lawful_float : float.Lawful := by
  refine lawful_of_map rfl ?_
  intro document value bounded read
  have finite : value.isFinite = true := by
    cases bounded with
    | integer least greatest =>
      cases read
      exact Binary64.isFinite_ofInt least greatest
    | float finite =>
      cases read
      exact finite
    | _ => cases read
  refine ⟨.number (.float value), ?_, rfl, by simp⟩
  simp only [float, Written.float]
  rw [if_pos finite]

theorem lawful_character : character.Lawful := by
  refine lawful_of_map rfl ?_
  intro document value _ _
  exact ⟨.text (String.singleton value), rfl, by simp [Reader.character, Reader.soleCharacter],
    by simp⟩

/-- Strings survive under every reader that keeps strings as they are. -/
theorem lawful_textBy {reader : Reader String} (keeps : ∀ s, reader (.text s) = .ok s) :
    (textBy reader).Lawful := by
  refine lawful_of_map rfl ?_
  intro document value _ _
  exact ⟨.text value, rfl, keeps value, by simp⟩

theorem lawful_unit : unit.Lawful := by
  refine lawful_of_map rfl ?_
  intro document value _ read
  refine ⟨.null, rfl, rfl, ?_⟩
  intro _
  cases document with
  | null => rfl
  | _ => cases read

theorem lawful_any : any.Lawful := by
  refine lawful_of_map rfl ?_
  intro document value _ read
  cases read
  exact ⟨document, rfl, rfl, id⟩

end Scalars

section Optional

variable {α : Type} {reader : Reader α}

/-- What is not null is read by the inner reader. -/
theorem optional_of_ne_null {document : Json} (present : document ≠ .null) :
    Reader.optional reader document = some <$> reader document := by
  cases document with
  | null => exact absurd rfl present
  | _ => rfl

/-- No value is read from null, and a value from what the inner reader reads. -/
theorem optional_cases {document : Json} {read : Option α}
    (h : Reader.optional reader document = .ok read) :
    (document = .null ∧ read = none) ∨
      (document ≠ .null ∧ ∃ a, reader document = .ok a ∧ read = some a) := by
  by_cases null : document = .null
  · subst null
    cases h
    exact Or.inl ⟨rfl, rfl⟩
  · rw [optional_of_ne_null null] at h
    obtain ⟨a, found, rfl⟩ := map_eq_ok_iff.mp h
    exact Or.inr ⟨null, a, found, rfl⟩

theorem lawful_optional {inner : Codec} (lawful : inner.Lawful) : (optional inner).Lawful := by
  refine lawful_of_map rfl ?_
  intro document read bounded reads
  rcases optional_cases reads with ⟨rfl, rfl⟩ | ⟨present, a, found, rfl⟩
  · exact ⟨.null, rfl, rfl, id⟩
  · obtain ⟨written, ⟨write, back⟩, null⟩ := lawful document a bounded found
    refine ⟨written, write, ?_, null⟩
    rw [optional_of_ne_null fun gone => present (null gone), back]
    rfl

end Optional

end Codec

end RecordCoding
