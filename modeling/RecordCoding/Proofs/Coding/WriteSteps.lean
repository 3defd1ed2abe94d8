import RecordCoding.Proofs.Coding.Members

/-!
# Steps of writing

Members are written step by step, and a step may find nothing to write or fail. What is left in the
end is what was written last under each name: a step either puts one member in its place or does
nothing at all, members under different names are put in in any order, and what a step answers
depends on the step alone.
-/

namespace RecordCoding

namespace Json

section Inserting

variable {name other : String} {value old : Json} {rest : List (String × Json)}

/-- A member is put in front of those with greater names. -/
theorem insertMember_of_lt (before : name < other) :
    insertMember ((other, old) :: rest) name value = (name, value) :: (other, old) :: rest :=
  if_pos before

/-- A member is put in the place of one with its name. -/
theorem insertMember_of_eq :
    insertMember ((name, old) :: rest) name value = (name, value) :: rest := by
  rw [insertMember, if_neg (lt_irrefl name), if_pos rfl]

/-- A member is put behind those with smaller names. -/
theorem insertMember_of_gt (behind : other < name) :
    insertMember ((other, old) :: rest) name value =
      (other, old) :: insertMember rest name value := by
  rw [insertMember, if_neg (lt_asymm behind), if_neg (ne_of_gt behind)]

/-- Of two members the one with the smaller name may be put in first or last. -/
theorem insertMember_comm_of_lt {first second : String} (ordered : first < second)
    (one two : Json) (members : List (String × Json)) :
    insertMember (insertMember members first one) second two =
      insertMember (insertMember members second two) first one := by
  induction members with
  | nil =>
    have alone (name : String) (value : Json) : insertMember [] name value = [(name, value)] := rfl
    rw [alone, alone, insertMember_of_gt ordered, insertMember_of_lt ordered, alone]
  | cons entry rest ih =>
    obtain ⟨other, old⟩ := entry
    rcases lt_trichotomy first other with before | rfl | behind
    · have inFront (sorted : List (String × Json)) :
          insertMember ((first, one) :: sorted) second two =
            (first, one) :: insertMember sorted second two := insertMember_of_gt ordered
      rw [insertMember_of_lt before, inFront]
      rcases lt_trichotomy second other with beforeToo | rfl | behindToo
      · rw [insertMember_of_lt beforeToo, insertMember_of_lt ordered]
      · rw [insertMember_of_eq, insertMember_of_lt ordered]
      · rw [insertMember_of_gt behindToo, insertMember_of_lt before]
    · rw [insertMember_of_eq, insertMember_of_gt ordered, insertMember_of_gt ordered,
        insertMember_of_eq]
    · have behindToo : other < second := behind.trans ordered
      rw [insertMember_of_gt behind, insertMember_of_gt behindToo, insertMember_of_gt behindToo,
        insertMember_of_gt behind, ih]

/-- Members under different names may be put in in any order. -/
theorem insertMember_comm {first second : String} (differ : first ≠ second) (one two : Json)
    (members : List (String × Json)) :
    insertMember (insertMember members first one) second two =
      insertMember (insertMember members second two) first one := by
  rcases lt_or_gt_of_ne differ with ordered | ordered
  · exact insertMember_comm_of_lt ordered one two members
  · exact (insertMember_comm_of_lt ordered two one members).symm

end Inserting

end Json

namespace WriteAction

/-- The value of an action, if there is one. -/
def value? : WriteAction → Option Written
  | encode written => some written
  | encodeIfPresent written => written

/-- What an action writes: nothing if there is no value or the value has no JSON form. -/
def written? (action : WriteAction) : Option Json := action.value?.bind Except.toOption

/-- An action under a key fails if there is a value without a JSON form, whatever was written
before. -/
def answer (action : WriteAction) (key : String) : Except CodingError Unit :=
  match action.value? with
  | some (.error error) => .error (.ofUnwritable key error.message)
  | _ => .ok ()

end WriteAction

namespace Encoder

/-- A value that may have no JSON form is put in if it has one. -/
theorem write_eq (encoder : Encoder) (written : Written) (key : String) :
    encoder.write written key =
      (encoder.put key written.toOption, (WriteAction.encode written).answer key) := by
  cases written <;> rfl

/-- A step writes what it can and leaves everything else as it is. -/
theorem take_eq (encoder : Encoder) (step : WriteStep) :
    encoder.take step =
      (encoder.put step.key step.action.written?, step.action.answer step.key) := by
  obtain ⟨key, action⟩ := step
  cases action with
  | encode written => exact encoder.write_eq written key
  | encodeIfPresent value =>
    cases value with
    | none => rfl
    | some written => exact encoder.write_eq written key

/-- So do several steps, each of which answers for itself. -/
theorem takeAll_eq (encoder : Encoder) (steps : List WriteStep) :
    encoder.takeAll steps =
      (putAll (·.key) (·.action.written?) encoder steps,
        steps.map fun step => step.action.answer step.key) := by
  induction steps generalizing encoder with
  | nil => rfl
  | cons step rest ih =>
    rw [takeAll, take_eq]
    dsimp only
    rw [ih]
    rfl

/-- Members that are put in under different keys may be put in in any order. -/
theorem put_comm {key other : String} (differ : key ≠ other) (encoder : Encoder)
    (value another : Option Json) :
    (encoder.put key value).put other another = (encoder.put other another).put key value := by
  cases value with
  | none => rfl
  | some one =>
    cases another with
    | none => rfl
    | some two => exact congrArg Encoder.mk (Json.insertMember_comm differ one two encoder.members)

variable {α : Type} {key : α → String} {value : α → Option Json}

/-- What was put in with some items in a row, and then with others. -/
theorem putAll_append (encoder : Encoder) (items others : List α) :
    putAll key value encoder (items ++ others) =
      putAll key value (putAll key value encoder items) others := List.foldl_append

/-- What is found under a key is the member of the last item with that key that has one. -/
theorem member?_putAll_empty_iff {items : List α} {name : String} {document : Json} :
    Json.member? (putAll key value .empty items).members name = some document ↔
      ∃ before item after, items = before ++ item :: after ∧ key item = name ∧
        value item = some document ∧ ∀ later ∈ after, key later = name → value later = none := by
  have nothing : Json.member? Encoder.empty.members name = none := rfl
  -- searched from the end, the items with another key count as ones without a member
  rw [member?_putAll_eq, nothing, Option.or_none, List.filterMap_filter, List.getLast?_filterMap,
    List.findSome?_eq_some_iff]
  have found (item : α) : ((if key item == name then value item else none) = some document) ↔
      key item = name ∧ value item = some document := by
    rw [Option.ite_none_right_eq_some, beq_iff_eq]
  have passed (item : α) : ((if key item == name then value item else none) = none) ↔
      (key item = name → value item = none) := by
    simp
  constructor
  · rintro ⟨after, item, before, split, here, none⟩
    refine ⟨before.reverse, item, after.reverse, ?_, ((found item).mp here).1,
      ((found item).mp here).2, fun later member => (passed later).mp ?_⟩
    · simpa using congrArg List.reverse split
    · exact none later (List.mem_reverse.mp member)
  · rintro ⟨before, item, after, rfl, same, here, none⟩
    refine ⟨after.reverse, item, before.reverse, by simp, (found item).mpr ⟨same, here⟩,
      fun later member => (passed later).mpr (none later (List.mem_reverse.mp member))⟩

/-- In an object made of members in any order the last one of its name is found. -/
theorem exists_ofMembers (before : List (String × Json)) {after : List (String × Json)}
    {name : String} (document : Json) (isLast : ∀ later ∈ after, later.1 ≠ name) :
    ∃ members, Json.ofMembers (before ++ (name, document) :: after) = .object members ∧
      Json.member? members name = some document := by
  -- the members are put in as if they were written one after the other
  have written (entries : List (String × Json)) : Json.ofMembers entries =
      .object (putAll Prod.fst (some ·.2) .empty entries).members :=
    congrArg Json.object (List.foldl_hom Encoder.members fun _ _ => rfl)
  refine ⟨_, written _, member?_putAll_empty_iff.mpr ?_⟩
  refine ⟨before, (name, document), after, rfl, rfl, rfl, fun later member same => ?_⟩
  exact absurd same (isLast later member)

/-- Items with a key that are left out change nothing. -/
theorem putAll_cons_of_none (encoder : Encoder) {item : α} (none : value item = none)
    (items : List α) :
    putAll key value encoder (item :: items) = putAll key value encoder items := by
  rw [putAll, List.foldl_cons, none]
  rfl

/-- Two items with different keys may change places. -/
theorem putAll_swap (encoder : Encoder) {item other : α} (differ : key item ≠ key other)
    (items : List α) :
    putAll key value encoder (item :: other :: items) =
      putAll key value encoder (other :: item :: items) := by
  simp only [putAll, List.foldl_cons]
  rw [put_comm differ]

variable {Key : Type}

/-- What a run of writing steps leaves in an object that was empty, and what each step answers. The
steps write under the keys of a key set, whose names may repeat. -/
def outcome (name : Key → String) (calls : List (Key × WriteAction)) :
    Encoder × List (Except CodingError Unit) :=
  empty.takeAll (calls.map fun (key, action) => ⟨name key, action⟩)

/-- A run in terms of its calls. -/
theorem outcome_eq (name : Key → String) (calls : List (Key × WriteAction)) :
    outcome name calls =
      (putAll (fun call => name call.1) (fun call => call.2.written?) empty calls,
        calls.map fun call => call.2.answer (name call.1)) := by
  rw [outcome, takeAll_eq, putAll, List.foldl_map, List.map_map]
  rfl

/-- The object after a run has what was written last, and steps that write nothing or write under
different names do not get in each other's way. -/
structure WritesLast (name : Key → String) (calls : List (Key × WriteAction)) : Prop where
  /-- Under a name there is what the last step with this name wrote that wrote anything. -/
  found : ∀ wire document,
    Json.member? (outcome name calls).1.members wire = some document ↔
      ∃ before call after, calls = before ++ call :: after ∧ name call.1 = wire ∧
        call.2.written? = some document ∧
        ∀ later ∈ after, name later.1 = wire → later.2.written? = none
  /-- There is no other member, and there is one of each name. -/
  only : ((outcome name calls).1.members.map Prod.fst).Nodup ∧
    ∀ wire, wire ∈ (outcome name calls).1.members.map Prod.fst ↔
      ∃ call ∈ calls, name call.1 = wire ∧ call.2.written?.isSome = true
  /-- A step fails exactly if it has a value without a JSON form, whatever the other steps do. -/
  answers : (outcome name calls).2 = calls.map fun call => call.2.answer (name call.1)
  /-- A step without a value, or with one that has no JSON form, leaves the object as it is, and
  every other step goes on as if it was not there. -/
  idle : ∀ before call after, calls = before ++ call :: after → call.2.written? = none →
    (outcome name (before ++ [call])).1 = (outcome name before).1 ∧
    (outcome name calls).1 = (outcome name (before ++ after)).1 ∧
    ∃ answers answer rest, (outcome name calls).2 = answers ++ answer :: rest ∧
      answers.length = before.length ∧ (outcome name (before ++ after)).2 = answers ++ rest
  /-- Two steps in a row under different names may change places: the object is the same and every
  step answers the same. -/
  swap : ∀ before first second after, calls = before ++ first :: second :: after →
    name first.1 ≠ name second.1 →
    (outcome name (before ++ second :: first :: after)).1 = (outcome name calls).1 ∧
    ∃ answers one two rest, (outcome name calls).2 = answers ++ one :: two :: rest ∧
      answers.length = before.length ∧
      (outcome name (before ++ second :: first :: after)).2 = answers ++ two :: one :: rest

/-- Every run of writing steps under the keys of any key set writes the last values. -/
theorem writesLast (name : Key → String) (calls : List (Key × WriteAction)) :
    WritesLast name calls where
  found wire document := by
    rw [outcome_eq]
    exact member?_putAll_empty_iff
  only := by
    rw [outcome_eq]
    refine ⟨(ascending_putAll List.Pairwise.nil).imp ne_of_lt, fun wire => ?_⟩
    rw [mem_names_putAll, or_iff_left (by exact List.not_mem_nil)]
    simp only [eq_comm]
  answers := by rw [outcome_eq]
  idle := by
    rintro before call after rfl nothing
    simp only [outcome_eq, List.map_append, List.map_cons, putAll_append]
    refine ⟨putAll_cons_of_none _ ?_ [], putAll_cons_of_none _ ?_ after, _, _, _, rfl,
      List.length_map _, rfl⟩
    · exact nothing
    · exact nothing
  swap := by
    rintro before first second after rfl differ
    simp only [outcome_eq, List.map_append, List.map_cons, putAll_append]
    refine ⟨putAll_swap _ ?_ after, _, _, _, _, rfl, List.length_map _, rfl⟩
    exact differ.symm

/-- A value without a JSON form leaves the one before it in place. -/
example : outcome (fun number : Fin 2 => ["id", "id"].get number)
      [(0, .encode (.ok (.text "old"))), (1, .encode (.error .keyMustBeString))] =
    (⟨[("id", .text "old")]⟩, [.ok (), .error (.ofUnwritable "id" "key must be a string")]) :=
  rfl

end Encoder

end RecordCoding
