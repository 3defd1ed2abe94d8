import Mathlib.Data.List.SplitBy

/-!
# Runs of a list

`List.splitBy` cuts a list into the longest runs of elements related to their neighbours. What is
cut depends on neighbours only, and a list that is made of whole pieces is cut between pieces: the
runs of the pieces, each put together.
-/

namespace RecordCoding

variable {α β : Type}

/-- What holds of all neighbours, and of those that are related, holds of related neighbours. -/
private theorem isChain_of_agree {p q : α → α → Prop} {items : List α}
    (related : items.IsChain p) (agree : items.IsChain fun a b => p a b → q a b) :
    items.IsChain q := by
  rw [List.isChain_iff_getElem] at related agree ⊢
  exact fun i inside => agree i inside (related i inside)

/-- Only neighbours are compared. -/
theorem splitBy_congr {r s : α → α → Bool} {items : List α}
    (same : items.IsChain fun a b => r a b = s a b) : items.splitBy r = items.splitBy s := by
  have parts := List.flatten_splitBy s items
  rw [← parts, List.isChain_flatten (List.nil_notMem_splitBy s items)] at same
  obtain ⟨within, between⟩ := same
  rw [List.splitBy_eq_iff]
  refine ⟨parts.symm, List.nil_notMem_splitBy s items, fun run member => ?_, ?_⟩
  · refine isChain_of_agree (List.isChain_of_mem_splitBy member) ((within run member).imp ?_)
    intro a b same related
    rwa [same]
  · refine isChain_of_agree (List.isChain_getLast_head_splitBy s items) (between.imp ?_)
    rintro run next same ⟨some, someToo, apart⟩
    refine ⟨some, someToo, ?_⟩
    rw [same _ (List.getLast_mem_getLast? some) _ (List.head_mem_head? someToo), apart]

/-- Lists that are not empty have at least as many elements as there are lists. -/
private theorem length_le_flatten {runs : List (List α)} (some : [] ∉ runs) :
    runs.length ≤ runs.flatten.length := by
  induction runs with
  | nil => exact Nat.le_refl 0
  | cons run rest ih =>
    obtain ⟨first, others⟩ : [] ≠ run ∧ [] ∉ rest := by simpa using some
    have length := List.length_pos_iff.mpr first.symm
    have onward := ih others
    rw [List.flatten_cons, List.length_append, List.length_cons]
    omega

/-- If there are as many lists as elements, every list has one. -/
private theorem eq_map_singleton {runs : List (List α)} (some : [] ∉ runs)
    (length : runs.flatten.length ≤ runs.length) : runs = runs.flatten.map ([·]) := by
  induction runs with
  | nil => rfl
  | cons run rest ih =>
    obtain ⟨first, others⟩ : [] ≠ run ∧ [] ∉ rest := by simpa using some
    have positive := List.length_pos_iff.mpr first.symm
    have atLeast := length_le_flatten others
    rw [List.flatten_cons, List.length_append, List.length_cons] at length
    obtain ⟨a, rfl⟩ : ∃ a, run = [a] := List.length_eq_one_iff.mp (by omega)
    have onward := ih others (by omega)
    rw [List.flatten_cons, List.map_append, ← onward]
    rfl

/-- If no neighbours are related, every element is a run of its own. -/
theorem splitBy_of_apart {r : α → α → Bool} {items : List α}
    (apart : items.IsChain fun a b => r a b = false) : items.splitBy r = items.map ([·]) := by
  rw [List.splitBy_eq_iff]
  refine ⟨?_, by simp, by simp, ?_⟩
  · rw [← List.flatMap_def, List.flatMap_singleton']
  · rw [List.isChain_map]
    exact apart.imp fun a b alone => ⟨by simp, by simp, alone⟩

/-- If there are as many runs as elements, no neighbours are related. -/
theorem apart_of_length_splitBy {r : α → α → Bool} {items : List α}
    (length : (items.splitBy r).length = items.length) :
    items.IsChain fun a b => r a b = false := by
  have parts := List.flatten_splitBy r items
  have single := eq_map_singleton (List.nil_notMem_splitBy r items) (by rw [parts, length])
  rw [parts] at single
  have apart := List.isChain_getLast_head_splitBy r items
  rw [single, List.isChain_map] at apart
  exact apart.imp fun a b ⟨_, _, alone⟩ => alone

/-- Runs have no elements but those of the list. -/
theorem mem_of_mem_splitBy {r : α → α → Bool} {items run : List α} (member : run ∈ items.splitBy r)
    {a : α} (here : a ∈ run) : a ∈ items := by
  rw [← List.flatten_splitBy r items]
  exact List.mem_flatten.mpr ⟨run, member, here⟩

/-- Putting pieces together goes run by run. -/
theorem flatMap_flatten (f : α → List β) (runs : List (List α)) :
    runs.flatten.flatMap f = (runs.map (List.flatMap f)).flatten := by
  induction runs with
  | nil => rfl
  | cons run rest ih => simp [ih]

section Pieces

variable {r : β → β → Bool} {f : α → List β} {joined : α → α → Bool}

/-- Whole pieces that are joined to their neighbours make something whole. -/
private theorem isChain_flatMap {run : List α} (present : ∀ a ∈ run, f a ≠ [])
    (whole : ∀ a ∈ run, (f a).IsChain fun x y => r x y = true)
    (ends : ∀ a b, ∀ x ∈ (f a).getLast?, ∀ y ∈ (f b).head?, r x y = joined a b)
    (related : run.IsChain fun a b => joined a b = true) :
    (run.flatMap f).IsChain fun x y => r x y = true := by
  have some : [] ∉ run.map f := by
    intro none
    obtain ⟨a, here, empty⟩ := List.mem_map.mp none
    exact present a here empty
  rw [List.flatMap_def, List.isChain_flatten some, List.isChain_map]
  constructor
  · intro piece here
    obtain ⟨a, within, rfl⟩ := List.mem_map.mp here
    exact whole a within
  · refine related.imp ?_
    intro a b related x last y first
    rw [ends a b x last y first, related]

/-- What is made of two runs is apart if the last piece of the one is not joined to the first piece
of the other. -/
private theorem apart_flatMap {run next : List α} (present : ∀ a ∈ run, f a ≠ [])
    (presentToo : ∀ b ∈ next, f b ≠ [])
    (ends : ∀ a b, ∀ x ∈ (f a).getLast?, ∀ y ∈ (f b).head?, r x y = joined a b)
    (apart : ∃ some someToo, joined (run.getLast some) (next.head someToo) = false) :
    ∃ some someToo, r ((run.flatMap f).getLast some) ((next.flatMap f).head someToo) = false := by
  obtain ⟨someRun, someNext, apart⟩ := apart
  obtain ⟨before, a, rfl⟩ : ∃ before a, run = before ++ [a] :=
    ⟨_, _, (List.dropLast_concat_getLast someRun).symm⟩
  obtain ⟨b, behind, rfl⟩ := List.exists_cons_of_ne_nil someNext
  have someA := present a (by simp)
  have someB := presentToo b List.mem_cons_self
  have related : joined a b = false := by simpa using apart
  refine ⟨by simp [someA], by simp [someB], ?_⟩
  simp only [List.flatMap_append, List.flatMap_cons, List.flatMap_nil, List.append_nil,
    List.getLast_append_of_ne_nil _ someA, List.head_append_of_ne_nil someB]
  rw [ends a b _ (List.getLast_mem_getLast? someA) _ (List.head_mem_head? someB), related]

/-- Where pieces begin and end decides which of them are in one run. -/
private theorem splitBy_flatMap_of_forall {items : List α} (present : ∀ a ∈ items, f a ≠ [])
    (whole : ∀ a ∈ items, (f a).IsChain fun x y => r x y = true)
    (ends : ∀ a b, ∀ x ∈ (f a).getLast?, ∀ y ∈ (f b).head?, r x y = joined a b) :
    (items.flatMap f).splitBy r = (items.splitBy joined).map (List.flatMap f) := by
  have some : ∀ run ∈ items.splitBy joined, ∀ a ∈ run, f a ≠ [] := fun run member a here =>
    present a (mem_of_mem_splitBy member here)
  rw [List.splitBy_eq_iff]
  refine ⟨?_, ?_, ?_, ?_⟩
  · rw [← flatMap_flatten, List.flatten_splitBy]
  · intro none
    obtain ⟨run, member, empty⟩ := List.mem_map.mp none
    obtain ⟨a, rest, rfl⟩ := List.exists_cons_of_ne_nil (List.ne_nil_of_mem_splitBy member)
    exact some _ member a List.mem_cons_self
      (List.flatMap_eq_nil_iff.mp empty a List.mem_cons_self)
  · intro joint made
    obtain ⟨run, member, rfl⟩ := List.mem_map.mp made
    exact isChain_flatMap (some run member)
      (fun a here => whole a (mem_of_mem_splitBy member here)) ends
      (List.isChain_of_mem_splitBy member)
  · rw [List.isChain_map]
    refine (List.isChain_getLast_head_splitBy joined items).imp_of_mem_imp ?_
    intro run next member memberToo apart
    exact apart_flatMap (some run member) (some next memberToo) ends apart

/-- Pieces are in one run exactly if all neighbours between them are joined: if the end of one piece
is related to the beginning of the next. -/
theorem splitBy_flatMap {items : List α} (present : ∀ a ∈ items, f a ≠ [])
    (whole : ∀ a ∈ items, (f a).IsChain fun x y => r x y = true)
    (ends : items.IsChain fun a b =>
      ∀ x ∈ (f a).getLast?, ∀ y ∈ (f b).head?, r x y = joined a b) :
    (items.flatMap f).splitBy r = (items.splitBy joined).map (List.flatMap f) := by
  let related (a b : α) : Bool := (f a).getLast?.any fun x => (f b).head?.any fun y => r x y
  have exact : ∀ a b, ∀ x ∈ (f a).getLast?, ∀ y ∈ (f b).head?, r x y = related a b := by
    intro a b x last y first
    simp [related, Option.mem_def.mp last, Option.mem_def.mp first]
  rw [splitBy_flatMap_of_forall present whole exact]
  refine congrArg (List.map _) (splitBy_congr (ends.imp_of_mem_imp ?_))
  intro a b member memberToo same
  have last := List.getLast_mem_getLast? (present a member)
  have first := List.head_mem_head? (present b memberToo)
  rw [← exact a b _ last _ first, same _ last _ first]

end Pieces

end RecordCoding
