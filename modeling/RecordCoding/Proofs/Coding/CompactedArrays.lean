import Mathlib.Data.Finset.Dedup
import RecordCoding.Proofs.Coding.CollectionLaws
import RecordCoding.Proofs.Coding.ReaderAgreement

/-!
# Arrays without their nulls

The elements of an array that are not null are read as if the nulls were not there, although the
nulls are dropped only after all elements were read. A null is never refused and never among what
is read, not even where the elements have a value for null.
-/

namespace RecordCoding

namespace Json

/-- The documents of a list that are not null, in their order. -/
def withoutNulls (elements : List Json) : List Json := elements.filter (!·.isNull)

/-- Nulls are left out. -/
theorem withoutNulls_null (rest : List Json) : withoutNulls (.null :: rest) = withoutNulls rest :=
  rfl

/-- All else is kept. -/
theorem withoutNulls_of_ne_null {item : Json} (present : item ≠ .null) (rest : List Json) :
    withoutNulls (item :: rest) = item :: withoutNulls rest := by
  cases item with
  | null => exact absurd rfl present
  | _ => rfl

/-- What is kept is what is not null. -/
theorem mem_withoutNulls {elements : List Json} {item : Json} :
    item ∈ withoutNulls elements ↔ item ∈ elements ∧ item ≠ .null := by
  rw [withoutNulls, List.mem_filter]
  cases item <;> simp [isNull]

/-- Among documents that are not null there is no null to leave out. -/
theorem withoutNulls_withoutNulls (elements : List Json) :
    withoutNulls (withoutNulls elements) = withoutNulls elements :=
  List.filter_eq_self.mpr fun _ kept => (List.mem_filter.mp kept).2

end Json

namespace Reader

variable {α : Type} {element : Reader α} {document : Json}

/-- A value that may be null is refused as the value that it has to be if it is not null. -/
theorem optional_eq_error_iff {reason : ReadError} :
    optional element document = .error reason ↔
      document ≠ .null ∧ element document = .error reason := by
  by_cases null : document = .null
  · simp [null]
  · rw [Codec.optional_of_ne_null null, map_eq_error_iff]
    exact (and_iff_right null).symm

/-- It is accepted if it is null or such a value. -/
theorem exists_optional_iff :
    (∃ read, optional element document = .ok read) ↔
      document = .null ∨ ∃ value, element document = .ok value := by
  by_cases null : document = .null
  · simp [null]
  · rw [Codec.optional_of_ne_null null]
    simp [map_eq_ok_iff, null]

/-- It is read as no value if it is null, and as such a value otherwise. -/
theorem optional_eq_ok_iff {read : Option α} :
    optional element document = .ok read ↔
      (document = .null ∧ read = none) ∨
        (document ≠ .null ∧ ∃ value, read = some value ∧ element document = .ok value) := by
  by_cases null : document = .null
  · simp [null, eq_comm]
  · rw [Codec.optional_of_ne_null null, map_eq_ok_iff]
    simp [null, eq_comm, and_comm]

/-- An array is accepted element by element, and nothing else is. -/
theorem sequence_eq_ok_iff {values : List α} :
    sequence element document = .ok values ↔ ∃ elements, document = .array elements ∧
      List.Forall₂ (fun item value => element item = .ok value) elements values := by
  cases document with
  | array elements => simp [sequence, mapM_eq_ok_iff]
  | _ => simp [sequence, wrongType]

/-- An array is refused at its first element that is, and anything else as no sequence. -/
theorem sequence_eq_error_iff {reason : ReadError} :
    sequence element document = .error reason ↔
      (∃ before item after, document = .array (before ++ item :: after) ∧
        (∀ earlier ∈ before, ∃ value, element earlier = .ok value) ∧
        element item = .error reason) ∨
      (∀ elements, document ≠ .array elements) ∧
        reason = .of (.wrongType (.ofJson document) "a sequence") := by
  cases document with
  | array elements => simp [sequence, mapM_eq_error_iff]
  | _ => simp [sequence, wrongType, eq_comm]

/-- Nulls that are dropped behind the reader might have been dropped before it. -/
theorem compacted_array (element : Reader α) (elements : List Json) :
    compacted element (.array elements) = (Json.withoutNulls elements).mapM element := by
  induction elements with
  | nil => rfl
  | cons item rest ih =>
    have step : compacted element (.array (item :: rest)) = (do
        let read ← optional element item
        let others ← compacted element (.array rest)
        .ok (read.toList ++ others)) := by
      simp only [compacted, sequence, List.mapM_cons]
      cases optional element item with
      | error reason => rfl
      | ok read =>
        cases rest.mapM (optional element) with
        | error reason => rfl
        | ok others => cases read <;> rfl
    rw [step, ih]
    by_cases null : item = .null
    · rw [null, optional_null, Json.withoutNulls_null]
      cases (Json.withoutNulls rest).mapM element <;> rfl
    · rw [Json.withoutNulls_of_ne_null null, List.mapM_cons, Codec.optional_of_ne_null null]
      cases element item <;> rfl

/-- An array is accepted if its elements that are not null are, and they are what is read. -/
theorem compacted_eq_ok_iff {values : List α} :
    compacted element document = .ok values ↔ ∃ elements, document = .array elements ∧
      List.Forall₂ (fun item value => element item = .ok value) (Json.withoutNulls elements)
        values := by
  cases document with
  | array elements => simp [compacted_array, mapM_eq_ok_iff]
  | _ => simp [compacted, sequence, wrongType]

/-- Why a document is refused: it is no array, or one of its elements is refused that is not
null. -/
theorem compacted_eq_error_iff {reason : ReadError} :
    compacted element document = .error reason ↔
      (∃ before item after, document = .array (before ++ item :: after) ∧
        (∀ earlier ∈ before, earlier = .null ∨ ∃ value, element earlier = .ok value) ∧
        item ≠ .null ∧ element item = .error reason) ∨
      (∀ elements, document ≠ .array elements) ∧
        reason = .of (.wrongType (.ofJson document) "a sequence") := by
  rw [compacted, map_eq_error_iff, sequence_eq_error_iff]
  simp only [exists_optional_iff, optional_eq_error_iff]

/-- Values that may be null are all there behind a reader that drops nulls. -/
theorem compacted_optional (element : Reader α) (document : Json) :
    compacted (optional element) document = List.map some <$> compacted element document := by
  cases document with
  | array elements =>
    rw [compacted_array, compacted_array]
    refine mapM_map fun item kept => ?_
    exact Codec.optional_of_ne_null (Json.mem_withoutNulls.mp kept).2
  | _ => rfl

/-- No value is null, and so nothing is left of it. -/
theorem compacted_unit_eq_ok_iff {values : List Unit} :
    compacted unit document = .ok values ↔
      values = [] ∧ ∃ elements, document = .array elements ∧ ∀ item ∈ elements, item = .null := by
  have refused {item : Json} (present : item ≠ .null) (value : Unit) : unit item ≠ .ok value := by
    cases item with
    | null => exact absurd rfl present
    | _ => nofun
  rw [compacted_eq_ok_iff]
  constructor
  · rintro ⟨elements, rfl, related⟩
    have none : Json.withoutNulls elements = [] := by
      refine List.eq_nil_iff_forall_not_mem.mpr fun item kept => ?_
      obtain ⟨value, -, accepted⟩ := exists_of_mem_left related kept
      exact refused (Json.mem_withoutNulls.mp kept).2 value accepted
    rw [none] at related
    refine ⟨List.forall₂_nil_left_iff.mp related, elements, rfl, fun item member => ?_⟩
    by_contra present
    have kept := Json.mem_withoutNulls.mpr ⟨member, present⟩
    rw [none] at kept
    cases kept
  · rintro ⟨rfl, elements, rfl, null⟩
    have none : Json.withoutNulls elements = [] := by
      refine List.eq_nil_iff_forall_not_mem.mpr fun item kept => ?_
      obtain ⟨member, present⟩ := Json.mem_withoutNulls.mp kept
      exact present (null item member)
    exact ⟨elements, rfl, none ▸ .nil⟩

/-- What is read from an array without its nulls is what is read from any of its other elements. -/
theorem mem_compacted_iff {values : List α} (read : compacted element document = .ok values)
    {value : α} : value ∈ values ↔ ∃ elements, document = .array elements ∧
      ∃ item ∈ elements, item ≠ .null ∧ element item = .ok value := by
  obtain ⟨elements, rfl, related⟩ := compacted_eq_ok_iff.mp read
  constructor
  · intro member
    obtain ⟨item, kept, accepted⟩ := exists_of_mem_right related member
    obtain ⟨within, present⟩ := Json.mem_withoutNulls.mp kept
    exact ⟨elements, rfl, item, within, present, accepted⟩
  · rintro ⟨_, same, item, within, present, accepted⟩
    cases same
    obtain ⟨other, member, found⟩ :=
      exists_of_mem_left related (Json.mem_withoutNulls.mpr ⟨within, present⟩)
    rw [accepted] at found
    cases found
    exact member

end Reader

namespace Container

variable {α β : Type} {container : Container} {key : String} {document : Json}

/-- A collection of what is left is read from a member that is not null, and refused in the words of
its reader. -/
theorem decodeCompacted_of_present (element : Reader α) (collect : List α → β)
    (here : container.member? key = some document) (present : document ≠ .null) :
    container.decodeCompacted element collect key =
      collect <$> (Reader.compacted element document).mapError (mismatch key) := by
  rw [decodeCompacted, decode_of_present _ here present]

/-- What is read from the member under a key when the nulls in it are dropped. -/
structure DropsNulls (container : Container) (key : String) (document : Json) : Prop where
  /-- An array is accepted if its elements that are not null are. The collection is made of the
  values of these elements in their order, with all repetitions. -/
  accepted : ∀ {α β : Type} (element : Reader α) (collect : List α → β) (result : β),
    container.decodeCompacted element collect key = .ok result ↔
      ∃ elements values, document = .array elements ∧
        List.Forall₂ (fun item value => element item = .ok value) (Json.withoutNulls elements)
          values ∧ collect values = result
  /-- All else is a mismatch: an array in the words for its first element that is neither null nor
  accepted, and anything else as no sequence. -/
  refused : ∀ {α β : Type} (element : Reader α) (collect : List α → β) (error : CodingError),
    container.decodeCompacted element collect key = .error error ↔
      ∃ reason : ReadError, error = .typeMismatch key reason.message ∧
        ((∃ before item after, document = .array (before ++ item :: after) ∧
          (∀ earlier ∈ before, earlier = .null ∨ ∃ value, element earlier = .ok value) ∧
          item ≠ .null ∧ element item = .error reason) ∨
        (∀ elements, document ≠ .array elements) ∧
          reason = .of (.wrongType (.ofJson document) "a sequence"))
  /-- Without the nulls the array is read alike. -/
  dropped : ∀ {α β : Type} (element : Reader α) (collect : List α → β) elements,
    document = .array elements →
    container.decodeCompacted element collect key =
      Container.decodeCompacted ⟨[(key, .array (Json.withoutNulls elements))]⟩ element collect key
  /-- No null is read where every document is a value, -/
  documents : ∀ elements, document = .array elements →
    container.decodeCompacted Reader.any id key = .ok (Json.withoutNulls elements)
  /-- nor is it taken for a missing value, -/
  optional : ∀ {α : Type} (element : Reader α),
    container.decodeCompacted (.optional element) id key =
      List.map some <$> container.decodeCompacted element id key
  /-- nor for the only value that is written as null. -/
  unit : ∀ values, container.decodeCompacted Reader.unit id key = .ok values ↔
    values = [] ∧ ∃ elements, document = .array elements ∧ ∀ item ∈ elements, item = .null
  /-- A set has every value that is read, and no other one. -/
  sets : ∀ {α : Type} [DecidableEq α] (element : Reader α) (set : Finset α),
    container.decodeCompacted element List.toFinset key = .ok set →
      ∀ value, value ∈ set ↔ ∃ elements, document = .array elements ∧
        ∃ item ∈ elements, item ≠ .null ∧ element item = .ok value
  /-- So has a set that is kept in any order of its elements, once each. -/
  orderedSets : ∀ (order : ValueOrder) (element : Reader Datum) (kept : List Datum),
    container.decodeCompacted element order.setOf key = .ok kept →
      kept.Nodup ∧ ∀ value, value ∈ kept ↔ ∃ elements, document = .array elements ∧
        ∃ item ∈ elements, item ≠ .null ∧ element item = .ok value

/-- Every member that is not null is read without the nulls in it, whatever its elements are. -/
theorem dropsNulls (here : container.member? key = some document) (present : document ≠ .null) :
    container.DropsNulls key document where
  accepted element collect result := by
    rw [decodeCompacted_of_present element collect here present, map_eq_ok_iff]
    simp only [mapError_eq_ok_iff, Reader.compacted_eq_ok_iff]
    constructor
    · rintro ⟨values, ⟨elements, array, related⟩, made⟩
      exact ⟨elements, values, array, related, made⟩
    · rintro ⟨elements, values, array, related, made⟩
      exact ⟨values, ⟨elements, array, related⟩, made⟩
  refused element collect error := by
    rw [decodeCompacted_of_present element collect here present, map_eq_error_iff,
      mapError_eq_error_iff]
    simp only [Reader.compacted_eq_error_iff, mismatch, @eq_comm _ error, and_comm]
  dropped element collect elements array := by
    subst array
    have there : (⟨[(key, .array (Json.withoutNulls elements))]⟩ : Container).member? key =
        some (.array (Json.withoutNulls elements)) := by simp [member?, Json.member?]
    rw [decodeCompacted_of_present element collect here present,
      decodeCompacted_of_present element collect there (by simp), Reader.compacted_array,
      Reader.compacted_array, Json.withoutNulls_withoutNulls]
  documents elements array := by
    subst array
    have all : (Json.withoutNulls elements).mapM Reader.any = .ok (Json.withoutNulls elements) :=
      mapM_eq_ok_iff.mpr (List.forall₂_same.mpr fun _ _ => rfl)
    rw [decodeCompacted_of_present _ _ here present, Reader.compacted_array, all]
    rfl
  optional element := by
    rw [decodeCompacted_of_present _ _ here present, decodeCompacted_of_present _ _ here present,
      Reader.compacted_optional]
    cases Reader.compacted element document <;> rfl
  unit values := by
    rw [decodeCompacted_of_present _ _ here present, id_map, mapError_eq_ok_iff]
    exact Reader.compacted_unit_eq_ok_iff
  sets element set read value := by
    rw [decodeCompacted_of_present _ _ here present] at read
    obtain ⟨values, found, rfl⟩ := map_eq_ok_iff.mp read
    rw [List.mem_toFinset]
    exact Reader.mem_compacted_iff (mapError_eq_ok_iff.mp found)
  orderedSets order element kept read := by
    rw [decodeCompacted_of_present _ _ here present] at read
    obtain ⟨values, found, rfl⟩ := map_eq_ok_iff.mp read
    refine ⟨ValueOrder.nodup_setOf values, fun value => ?_⟩
    rw [ValueOrder.mem_setOf_iff]
    exact Reader.mem_compacted_iff (mapError_eq_ok_iff.mp found)

/-- An object with an array that has nulls, a repetition and a value of another type in it. -/
def assortedArray : Container :=
  ⟨[("id", .text "a"), ("values", .array [.integer 7, .null, .integer 7, .text "x", .null])]⟩

/-- Every element of such an array is accounted for, or else the one that is refused. -/
theorem dropsNulls_assorted :
    assortedArray.decodeCompacted Reader.any id "values" =
      .ok [.integer 7, .integer 7, .text "x"] ∧
    assortedArray.decodeCompacted (Reader.integer .u8) id "values" =
      .error (.typeMismatch "values" "invalid type: string \"x\", expected u8") := by
  have here : assortedArray.member? "values" =
      some (.array [.integer 7, .null, .integer 7, .text "x", .null]) := rfl
  have drops := dropsNulls here nofun
  refine ⟨drops.documents _ rfl, (drops.refused (Reader.integer .u8) id _).mpr ?_⟩
  refine ⟨.of (.wrongType (.text "x") "u8"), rfl, Or.inl ?_⟩
  refine ⟨[.integer 7, .null, .integer 7], .text "x", [.null], rfl, ?_, nofun, rfl⟩
  refine List.forall_mem_cons.mpr ⟨Or.inr ⟨7, rfl⟩, List.forall_mem_cons.mpr ⟨Or.inl rfl, ?_⟩⟩
  exact List.forall_mem_singleton.mpr (Or.inr ⟨7, rfl⟩)

end Container

end RecordCoding
