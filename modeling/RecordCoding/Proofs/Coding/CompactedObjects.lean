import RecordCoding.Proofs.Coding.CompactedArrays
import RecordCoding.Proofs.Coding.DocumentOrder

/-!
# Objects without their null members

The members of an object that are not null are read in the order of the object, each by its name and
then by its value; of a null member only the name is read. Different names are read as different
keys, so a map made of what is read has all of it.
-/

namespace RecordCoding

namespace Json

/-- The members of an object that are not null, in their order. -/
def presentMembers (members : List (String × Json)) : List (String × Json) :=
  members.filter fun entry => !entry.2.isNull

/-- Null members are left out. -/
theorem presentMembers_null (name : String) (rest : List (String × Json)) :
    presentMembers ((name, .null) :: rest) = presentMembers rest := rfl

/-- All else is kept. -/
theorem presentMembers_of_ne_null {entry : String × Json} (present : entry.2 ≠ .null)
    (rest : List (String × Json)) :
    presentMembers (entry :: rest) = entry :: presentMembers rest := by
  obtain ⟨name, value⟩ := entry
  cases value with
  | null => exact absurd rfl present
  | _ => rfl

/-- In ascending order the members that are not null are so, too. -/
theorem ascending_presentMembers {members : List (String × Json)}
    (ascending : (members.map Prod.fst).Pairwise (· < ·)) :
    ((presentMembers members).map Prod.fst).Pairwise (· < ·) :=
  ascending.sublist (List.filter_sublist.map Prod.fst)

end Json

namespace Reader

variable {κ α : Type} {name : NameReader κ} {value : Reader α} {document : Json}

/-- The first member is read by its name, and by its value if that is not null. -/
theorem compactedEntries_cons (entry : String × Json) (rest : List (String × Json)) :
    compactedEntries name value (.object (entry :: rest)) = (do
      let key ← name entry.1
      let read ← optional value entry.2
      let others ← compactedEntries name value (.object rest)
      .ok ((read.map (key, ·)).toList ++ others)) := by
  simp only [compactedEntries, entries, List.mapM_cons, member]
  cases name entry.1 with
  | error reason => rfl
  | ok key =>
    cases optional value entry.2 with
    | error reason => rfl
    | ok read =>
      cases rest.mapM (member name (optional value)) with
      | error reason => rfl
      | ok others => cases read <;> rfl

/-- An object is accepted if all names are and the values that are not null are, and its members
without null ones are what is read. -/
theorem compactedEntries_object_eq_ok_iff {members : List (String × Json)} {pairs : List (κ × α)} :
    compactedEntries name value (.object members) = .ok pairs ↔
      (∀ entry ∈ members, ∃ key, name entry.1 = .ok key) ∧
        List.Forall₂ (fun entry pair => name entry.1 = .ok pair.1 ∧ value entry.2 = .ok pair.2)
          (Json.presentMembers members) pairs := by
  induction members generalizing pairs with
  | nil =>
    have none : compactedEntries name value (.object []) = .ok [] := rfl
    have absent : Json.presentMembers [] = [] := rfl
    rw [none, absent, List.forall₂_nil_left_iff]
    simp [eq_comm]
  | cons entry rest ih =>
    obtain ⟨text, item⟩ := entry
    rw [compactedEntries_cons, List.forall_mem_cons]
    simp only [bind_eq_ok_iff, ih, Except.ok.injEq]
    by_cases null : item = .null
    · subst null
      rw [Json.presentMembers_null]
      simp only [optional_null, Except.ok.injEq]
      constructor
      · rintro ⟨key, first, _, rfl, others, ⟨names, related⟩, rfl⟩
        exact ⟨⟨⟨key, first⟩, names⟩, related⟩
      · rintro ⟨⟨⟨key, first⟩, names⟩, related⟩
        exact ⟨key, first, none, rfl, pairs, ⟨names, related⟩, rfl⟩
    · rw [Json.presentMembers_of_ne_null null, Codec.optional_of_ne_null null,
        List.forall₂_cons_left_iff]
      simp only [map_eq_ok_iff]
      constructor
      · rintro ⟨key, first, _, ⟨read, accepted, rfl⟩, others, ⟨names, related⟩, rfl⟩
        exact ⟨⟨⟨key, first⟩, names⟩, (key, read), others, ⟨first, accepted⟩, related, rfl⟩
      · rintro ⟨⟨-, names⟩, ⟨key, read⟩, others, ⟨first, accepted⟩, related, rfl⟩
        exact ⟨key, first, some read, ⟨read, accepted, rfl⟩, others, ⟨names, related⟩, rfl⟩

/-- No other document than such an object is accepted. -/
theorem compactedEntries_eq_ok_iff {pairs : List (κ × α)} :
    compactedEntries name value document = .ok pairs ↔ ∃ members, document = .object members ∧
      (∀ entry ∈ members, ∃ key, name entry.1 = .ok key) ∧
        List.Forall₂ (fun entry pair => name entry.1 = .ok pair.1 ∧ value entry.2 = .ok pair.2)
          (Json.presentMembers members) pairs := by
  cases document with
  | object members => simp [compactedEntries_object_eq_ok_iff]
  | _ => simp [compactedEntries, entries, wrongType]

/-- A member is accepted if its name is and its value is. -/
theorem exists_member_iff {reader : Reader α} {entry : String × Json} :
    (∃ pair, member name reader entry = .ok pair) ↔
      (∃ key, name entry.1 = .ok key) ∧ ∃ read, reader entry.2 = .ok read := by
  simp only [Codec.member_eq_ok_iff, Prod.exists, exists_and_left, exists_and_right]

/-- A member is refused for its name, or else for its value. -/
theorem member_eq_error_iff {reader : Reader α} {entry : String × Json} {reason : ReadError} :
    member name reader entry = .error reason ↔
      name entry.1 = .error reason ∨
        (∃ key, name entry.1 = .ok key) ∧ reader entry.2 = .error reason := by
  simp only [member, bind_eq_error_iff, reduceCtorEq, and_false, exists_false, or_false,
    exists_and_right]

/-- An object is refused at its first member that is refused, which a null one is for its name
only. -/
theorem compactedEntries_object_eq_error_iff {members : List (String × Json)}
    {reason : ReadError} :
    compactedEntries name value (.object members) = .error reason ↔
      ∃ before entry after, members = before ++ entry :: after ∧
        (∀ earlier ∈ before, (∃ key, name earlier.1 = .ok key) ∧
          (earlier.2 = .null ∨ ∃ read, value earlier.2 = .ok read)) ∧
        (name entry.1 = .error reason ∨ (∃ key, name entry.1 = .ok key) ∧
          entry.2 ≠ .null ∧ value entry.2 = .error reason) := by
  rw [compactedEntries, map_eq_error_iff, entries, mapM_eq_error_iff]
  simp only [exists_member_iff, exists_optional_iff, member_eq_error_iff, optional_eq_error_iff]

/-- Any other document is refused as no map. -/
theorem compactedEntries_of_ne_object (other : ∀ members, document ≠ .object members) :
    compactedEntries name value document =
      .error (.of (.wrongType (.ofJson document) "a map")) := by
  cases document with
  | object members => exact absurd rfl (other members)
  | _ => rfl

/-- Why a document is refused: it is no object, or one of its members is refused. -/
theorem compactedEntries_eq_error_iff {reason : ReadError} :
    compactedEntries name value document = .error reason ↔
      (∃ before entry after, document = .object (before ++ entry :: after) ∧
        (∀ earlier ∈ before, (∃ key, name earlier.1 = .ok key) ∧
          (earlier.2 = .null ∨ ∃ read, value earlier.2 = .ok read)) ∧
        (name entry.1 = .error reason ∨ (∃ key, name entry.1 = .ok key) ∧
          entry.2 ≠ .null ∧ value entry.2 = .error reason)) ∨
      (∀ members, document ≠ .object members) ∧
        reason = .of (.wrongType (.ofJson document) "a map") := by
  by_cases object : ∃ members, document = .object members
  · obtain ⟨members, rfl⟩ := object
    rw [compactedEntries_object_eq_error_iff]
    simp
  · have other : ∀ members, document ≠ .object members := not_exists.mp object
    rw [compactedEntries_of_ne_object other]
    simp [other, eq_comm]

/-- The keys that are read come from names in the order of their bytes. -/
theorem exists_names_of_compactedEntries (ordered : document.Ordered) {pairs : List (κ × α)}
    (read : compactedEntries name value document = .ok pairs) :
    ∃ names : List String, (names.map Json.textBytes).Pairwise (· < ·) ∧
      List.Forall₂ (fun text pair => name text = .ok pair.1) names pairs := by
  obtain ⟨members, rfl, -, related⟩ := compactedEntries_eq_ok_iff.mp read
  cases ordered with
  | object ascending each =>
    refine ⟨(Json.presentMembers members).map Prod.fst, ?_, ?_⟩
    · rw [List.pairwise_map]
      exact (Json.ascending_presentMembers ascending).imp Json.textBytes_lt_of_lt
    · exact List.forall₂_map_left_iff.mpr (related.imp fun _ _ both => both.1)

/-- The keys of a type of names that are read are all different. -/
theorem nodup_keys_compactedEntries {type : NameType} (ordered : document.Ordered)
    {pairs : List (Datum × α)}
    (read : compactedEntries type.codec.read value document = .ok pairs) :
    (pairs.map Prod.fst).Nodup := by
  obtain ⟨names, ascending, related⟩ := exists_names_of_compactedEntries ordered read
  have differ (bytes others : List UInt8) (less : bytes < others) : bytes ≠ others := by
    rintro rfl
    exact List.lt_irrefl bytes less
  have apart : names.Nodup := List.Nodup.of_map Json.textBytes (ascending.imp (differ _ _))
  -- a key is written as the name that it was read from
  have written : (pairs.map Prod.fst).mapM type.codec.write = .ok names := by
    refine mapM_eq_ok_iff.mpr (List.forall₂_map_left_iff.mpr (related.flip.imp ?_))
    exact fun _ _ found => NameType.write_of_read found
  exact nodup_of_mapM written apart

end Reader

namespace Container

variable {κ α β : Type} {container : Container} {key : String} {document : Json}

/-- A map of what is left is read from a member that is not null, and refused in the words of its
reader. -/
theorem decodeCompactedMap_of_present (name : NameReader κ) (value : Reader α)
    (collect : List (κ × α) → β) (here : container.member? key = some document)
    (present : document ≠ .null) :
    container.decodeCompactedMap name value collect key =
      collect <$> (Reader.compactedEntries name value document).mapError (mismatch key) := by
  rw [decodeCompactedMap, decode_of_present _ here present]

/-- What is read from the member under a key when the null members in it are dropped. -/
structure DropsNullMembers (container : Container) (key : String) (document : Json) : Prop where
  /-- An object is accepted if all its names are, and its values that are not null. The collection
  is made of the members that are not null, in their order. -/
  accepted : ∀ {κ α β : Type} (name : NameReader κ) (value : Reader α)
    (collect : List (κ × α) → β) (result : β),
    container.decodeCompactedMap name value collect key = .ok result ↔
      ∃ members pairs, document = .object members ∧
        (∀ entry ∈ members, ∃ key, name entry.1 = .ok key) ∧
        List.Forall₂ (fun entry pair => name entry.1 = .ok pair.1 ∧ value entry.2 = .ok pair.2)
          (Json.presentMembers members) pairs ∧ collect pairs = result
  /-- All else is a mismatch: an object in the words for the first member whose name is refused, or
  else whose value is neither null nor accepted, and anything else as no map. -/
  refused : ∀ {κ α β : Type} (name : NameReader κ) (value : Reader α)
    (collect : List (κ × α) → β) (error : CodingError),
    container.decodeCompactedMap name value collect key = .error error ↔
      ∃ reason : ReadError, error = .typeMismatch key reason.message ∧
        ((∃ before entry after, document = .object (before ++ entry :: after) ∧
          (∀ earlier ∈ before, (∃ key, name earlier.1 = .ok key) ∧
            (earlier.2 = .null ∨ ∃ read, value earlier.2 = .ok read)) ∧
          (name entry.1 = .error reason ∨ (∃ key, name entry.1 = .ok key) ∧
            entry.2 ≠ .null ∧ value entry.2 = .error reason)) ∨
        (∀ members, document ≠ .object members) ∧
          reason = .of (.wrongType (.ofJson document) "a map"))
  /-- What is read comes in the order of the bytes of its names. -/
  sorted : ∀ {κ α : Type} (name : NameReader κ) (value : Reader α) (pairs : List (κ × α)),
    container.decodeCompactedMap name value id key = .ok pairs →
      ∃ names : List String, (names.map Json.textBytes).Pairwise (· < ·) ∧
        List.Forall₂ (fun text pair => name text = .ok pair.1) names pairs
  /-- A key of any type of names is read from one name only, -/
  injective : ∀ (type : NameType) (name other : String) (value : Datum),
    type.codec.read name = .ok value → type.codec.read other = .ok value → name = other
  /-- so that no two keys are the same, -/
  distinct : ∀ {α : Type} (type : NameType) (value : Reader α) (pairs : List (Datum × α)),
    container.decodeCompactedMap type.codec.read value id key = .ok pairs →
      (pairs.map Prod.fst).Nodup
  /-- and an ordered map has all that is read. -/
  kept : ∀ (type : NameType) (value : Reader Datum) (map : List (Datum × Datum)),
    container.decodeCompactedMap type.codec.read value Datum.mapOf key = .ok map →
      ∃ pairs, container.decodeCompactedMap type.codec.read value id key = .ok pairs ∧
        map.Perm pairs

/-- Every member that is not null is read without the null members in it, whatever its names and
values are. -/
theorem dropsNullMembers (here : container.member? key = some document)
    (present : document ≠ .null) (ordered : document.Ordered) :
    container.DropsNullMembers key document where
  accepted name value collect result := by
    rw [decodeCompactedMap_of_present name value collect here present, map_eq_ok_iff]
    simp only [mapError_eq_ok_iff, Reader.compactedEntries_eq_ok_iff]
    constructor
    · rintro ⟨pairs, ⟨members, object, names, related⟩, made⟩
      exact ⟨members, pairs, object, names, related, made⟩
    · rintro ⟨members, pairs, object, names, related, made⟩
      exact ⟨pairs, ⟨members, object, names, related⟩, made⟩
  refused name value collect error := by
    rw [decodeCompactedMap_of_present name value collect here present, map_eq_error_iff,
      mapError_eq_error_iff]
    simp only [Reader.compactedEntries_eq_error_iff, mismatch, @eq_comm _ error, and_comm]
  sorted name value pairs read := by
    rw [decodeCompactedMap_of_present name value id here present, id_map] at read
    exact Reader.exists_names_of_compactedEntries ordered (mapError_eq_ok_iff.mp read)
  injective type name other value := NameType.read_injective
  distinct type value pairs read := by
    rw [decodeCompactedMap_of_present _ value id here present, id_map] at read
    exact Reader.nodup_keys_compactedEntries ordered (mapError_eq_ok_iff.mp read)
  kept type value map read := by
    rw [decodeCompactedMap_of_present _ value _ here present] at read
    obtain ⟨pairs, found, rfl⟩ := map_eq_ok_iff.mp read
    have entries := mapError_eq_ok_iff.mp found
    refine ⟨pairs, ?_, Datum.perm_mapOf (Reader.nodup_keys_compactedEntries ordered entries)⟩
    rw [decodeCompactedMap_of_present _ value id here present, found]
    rfl

/-- An object whose members are in the order of their bytes, with nulls among them. -/
def assortedObject : Container :=
  ⟨[("counts", .object [("-7", .integer 1), ("10", .null), ("9", .integer 2), ("x", .null)])]⟩

/-- Of such an object the name of every member is read, the null ones included. -/
theorem dropsNullMembers_assorted :
    assortedObject.decodeCompactedMap NameReader.text Reader.any id "counts" =
      .ok [("-7", .integer 1), ("9", .integer 2)] ∧
    assortedObject.decodeCompactedMap (NameReader.integer .i8) (Reader.integer .i8) id "counts" =
      .error (.typeMismatch "counts" "invalid value: expected key to be a number in quotes") := by
  have here : assortedObject.member? "counts" = some (.object [("-7", .integer 1), ("10", .null),
      ("9", .integer 2), ("x", .null)]) := rfl
  have ordered : Json.Ordered (.object [("-7", .integer 1), ("10", .null), ("9", .integer 2),
      ("x", .null)]) := by
    refine .object (by decide) ?_
    simp only [List.forall_mem_cons]
    exact ⟨.number _, .null, .number _, .null, nofun⟩
  have drops := dropsNullMembers here nofun ordered
  refine ⟨(drops.accepted _ _ _ _).mpr ⟨_, _, rfl, ?_, ?_, rfl⟩, (drops.refused _ _ _ _).mpr ?_⟩
  · exact fun entry _ => ⟨entry.1, rfl⟩
  · exact .cons ⟨rfl, rfl⟩ (.cons ⟨rfl, rfl⟩ .nil)
  · refine ⟨.of .notANumericName, rfl, Or.inl ?_⟩
    refine ⟨[("-7", .integer 1), ("10", .null), ("9", .integer 2)], ("x", .null), [], rfl, ?_, ?_⟩
    · have read (name : String) (value : Int) (spelled : name = toString value)
          (small : IntegerType.i8.least ≤ value ∧ value ≤ IntegerType.i8.greatest) :
          ∃ key, NameReader.integer .i8 name = .ok key :=
        ⟨value, NameReader.integer_eq_ok_iff.mpr ⟨spelled, small⟩⟩
      refine List.forall_mem_cons.mpr ⟨?_, List.forall_mem_cons.mpr ⟨?_, ?_⟩⟩
      · exact ⟨read "-7" (-7) (by decide) (by decide), Or.inr ⟨1, rfl⟩⟩
      · exact ⟨read "10" 10 (by decide) (by decide), Or.inl rfl⟩
      · exact List.forall_mem_singleton.mpr
          ⟨read "9" 9 (by decide) (by decide), Or.inr ⟨2, rfl⟩⟩
    · exact Or.inl rfl

end Container

end RecordCoding
