import RecordCoding.Proofs.Coding.Footprint

/-!
# Required and optional members

Every reader of members comes in two forms, and they deal with null at different times. The
optional form takes a null member for no value before it reads anything; the required one reads it
like any other and looks at it again only when it was refused. Members that are not null are read
alike by both. The readers of collections and of lossless values are readers of plain values with
something made of the result, so what holds of the plain ones carries over.
-/

namespace RecordCoding

namespace Container

variable {α β : Type} {container : Container} {key : String} {document : Json}

/-- A null member is a value for types that have one for it, and a missing value for all others. -/
theorem decode_of_null (reader : Reader α) (here : container.member? key = some .null) :
    container.decode reader key = (reader .null).mapError fun _ => .valueNotFound key := by
  unfold decode
  rw [here]
  dsimp only
  cases reader .null <;> rfl

/-- A member that is not null is refused in the words of its reader. -/
theorem decode_of_present (reader : Reader α) (here : container.member? key = some document)
    (present : document ≠ .null) :
    container.decode reader key = (reader document).mapError (mismatch key) := by
  unfold decode
  rw [here]
  dsimp only
  cases reader document with
  | ok value => rfl
  | error error =>
    cases document with
    | null => exact absurd rfl present
    | _ => rfl

/-- A member that is not null is read as if it were required. -/
theorem decodeIfPresent_of_present (reader : Reader α)
    (here : container.member? key = some document) (present : document ≠ .null) :
    container.decodeIfPresent reader key = some <$> container.decode reader key := by
  rw [decode_of_present reader here present]
  unfold decodeIfPresent
  split
  · rename_i absent
    simp [absent] at here
  · rename_i null
    exact absurd (Option.some.inj (here.symm.trans null)) present
  · rename_i other _ there
    obtain rfl := Option.some.inj (here.symm.trans there)
    cases reader document <;> rfl

/-- What the required and the optional form of a reader make of the member under a key, given the
reader of its values. -/
structure FormsAgree (container : Container) (key : String) (reader : Reader α)
    (required : Except CodingError α) (optional : Except CodingError (Option α)) : Prop where
  /-- An absent member is missed by the required form only. -/
  absent : container.member? key = none →
    required = .error (.keyNotFound key) ∧ optional = .ok none
  /-- A null member is no value for the optional form. For the required one it is the value that
  the reader has for it, or a missing value if there is none. -/
  null : container.member? key = some .null →
    required = (reader .null).mapError (fun _ => .valueNotFound key) ∧ optional = .ok none
  /-- Any other member is read alike, and refused in the same words. -/
  present : ∀ document, container.member? key = some document → document ≠ .null →
    required = (reader document).mapError (mismatch key) ∧ optional = some <$> required
  /-- Errors of both forms name the key. -/
  named : ∀ error, required = .error error ∨ optional = .error error → error.key? = some key

/-- The forms of a reader of plain values agree, whatever it accepts. -/
theorem formsAgree (container : Container) (key : String) (reader : Reader α) :
    container.FormsAgree key reader (container.decode reader key)
      (container.decodeIfPresent reader key) where
  absent missing :=
    ⟨decode_of_absent reader missing, decodeIfPresent_of_absent reader missing⟩
  null here := ⟨decode_of_null reader here, decodeIfPresent_of_null reader here⟩
  present _ here present :=
    ⟨decode_of_present reader here present, decodeIfPresent_of_present reader here present⟩
  named _ failed := failed.elim key?_of_decode key?_of_decodeIfPresent

/-- They still agree if something is made of what they read. -/
theorem formsAgree_map (container : Container) (key : String) (reader : Reader α) (f : α → β) :
    container.FormsAgree key (fun document => f <$> reader document)
      (f <$> container.decode reader key) ((·.map f) <$> container.decodeIfPresent reader key) := by
  rw [map_decode, map_decodeIfPresent]
  exact container.formsAgree key fun document => f <$> reader document

/-- A reader of values that may be null leaves the null of a member to the reader of the member:
if there is a member, it is required of the one what is optional for the other. -/
theorem decode_optional (reader : Reader α) (here : container.contains key = true) :
    container.decode (.optional reader) key = container.decodeIfPresent reader key := by
  obtain ⟨document, member⟩ := Option.isSome_iff_exists.mp here
  by_cases null : document = .null
  · subst null
    rw [decode_of_null _ member, decodeIfPresent_of_null _ member]
    rfl
  · rw [decode_of_present _ member null, decodeIfPresent_of_present _ member null,
      decode_of_present _ member null, Codec.optional_of_ne_null null]
    cases reader document <;> rfl

/-- The four pairs of readers agree, and values that may be null need no reader of their own. -/
structure ReadersAgree (container : Container) (key : String) : Prop where
  /-- Values of any type. -/
  plain : ∀ {α : Type} (reader : Reader α),
    container.FormsAgree key reader (container.decode reader key)
      (container.decodeIfPresent reader key)
  /-- Arrays without their null elements, collected in any way. -/
  compacted : ∀ {α β : Type} (element : Reader α) (collect : List α → β),
    container.FormsAgree key (fun document => collect <$> Reader.compacted element document)
      (container.decodeCompacted element collect key)
      (container.decodeCompactedIfPresent element collect key)
  /-- Objects without their null members, collected in any way. -/
  compactedMap : ∀ {κ α β : Type} (name : NameReader κ) (value : Reader α)
    (collect : List (κ × α) → β),
    container.FormsAgree key
      (fun document => collect <$> Reader.compactedEntries name value document)
      (container.decodeCompactedMap name value collect key)
      (container.decodeCompactedMapIfPresent name value collect key)
  /-- Values that are read through a container, for any type that has one. -/
  lossless : ∀ {α : Type} [LosslessDecoding α],
    container.FormsAgree key LosslessDecoding.read
      (container.decodeLossless key : Except CodingError α) (container.decodeLosslessIfPresent key)
  /-- No collection is null, so a required one is missing if its member is. -/
  collections : container.member? key = some .null →
    (∀ {α β : Type} (element : Reader α) (collect : List α → β),
      container.decodeCompacted element collect key = .error (.valueNotFound key)) ∧
    ∀ {κ α β : Type} (name : NameReader κ) (value : Reader α) (collect : List (κ × α) → β),
      container.decodeCompactedMap name value collect key = .error (.valueNotFound key)
  /-- Values that may be null, if there is a member. -/
  optional : ∀ {α : Type} (reader : Reader α), container.contains key = true →
    container.decode (.optional reader) key = container.decodeIfPresent reader key

/-- Required and optional readers agree on every member of every object, for values of every
type. -/
theorem readersAgree (container : Container) (key : String) : container.ReadersAgree key where
  plain reader := container.formsAgree key reader
  compacted element collect := container.formsAgree_map key (.compacted element) collect
  compactedMap name value collect :=
    container.formsAgree_map key (.compactedEntries name value) collect
  lossless := container.formsAgree_map key LosslessDecoding.reader LosslessDecoding.fromContainer
  collections null := by
    constructor
    · intro _ _ element collect
      exact ((container.formsAgree_map key (.compacted element) collect).null null).1
    · intro _ _ _ name value collect
      exact ((container.formsAgree_map key (.compactedEntries name value) collect).null null).1
  optional reader := decode_optional reader

/-- Only some types have a value for null. -/
example : (⟨[("note", .null)]⟩ : Container).decode Reader.unit "note" = .ok () ∧
    (⟨[("note", .null)]⟩ : Container).decode Reader.text "note" = .error (.valueNotFound "note") :=
  ⟨rfl, rfl⟩

end Container

end RecordCoding
