import Mathlib.Data.List.Induction
import Mathlib.Data.List.Perm.Basic
import RecordCoding.Coding.ValueOrder

/-!
# Sets and ordered maps

Sets and ordered maps are gathered alike, in the order of a key. What is gathered comes out strictly
ascending; entries with different keys are only rearranged, and what is gathered a second time, from
whatever arrangement, comes out the same. So a set has the given elements, each of them once.
-/

namespace RecordCoding.ValueOrder

variable {order : ValueOrder}

/-- A value comes strictly before another. -/
def Before (order : ValueOrder) (a b : Datum) : Prop := order.compare a b = .lt

/-- Values are level if they are the same. -/
theorem compare_eq_iff {a b : Datum} : order.compare a b = .eq ↔ a = b :=
  Std.LawfulEqCmp.compare_eq_iff_eq

namespace Before

theorem trans {a b c : Datum} (first : order.Before a b) (second : order.Before b c) :
    order.Before a c :=
  Std.TransCmp.lt_trans first second

theorem ne {a b : Datum} (before : order.Before a b) : a ≠ b := by
  intro same
  rw [Before, compare_eq_iff.mpr same] at before
  cases before

theorem asymm {a b : Datum} (before : order.Before a b) : ¬ order.Before b a :=
  fun after => (before.trans after).ne rfl

end Before

section Gathering

variable {α : Type} {key : α → Datum}

/-- An insertion adds nothing but the entry. -/
theorem mem_insertBy {entry item : α} {entries : List α}
    (member : item ∈ order.insertBy key entry entries) : item = entry ∨ item ∈ entries := by
  induction entries with
  | nil => exact Or.inl (List.mem_singleton.mp member)
  | cons other rest ih =>
    unfold insertBy at member
    split at member
    · exact List.mem_cons.mp member
    · exact (List.mem_cons.mp member).imp_right (List.mem_cons_of_mem other)
    · rcases List.mem_cons.mp member with rfl | within
      · exact Or.inr List.mem_cons_self
      · exact (ih within).imp_right (List.mem_cons_of_mem other)

/-- An insertion keeps the order of keys. -/
theorem pairwise_insertBy (entry : α) {entries : List α}
    (ascending : entries.Pairwise fun a b => order.Before (key a) (key b)) :
    (order.insertBy key entry entries).Pairwise fun a b => order.Before (key a) (key b) := by
  induction entries with
  | nil => exact List.pairwise_singleton _ entry
  | cons other rest ih =>
    obtain ⟨least, others⟩ := List.pairwise_cons.mp ascending
    unfold insertBy
    split
    · rename_i before
      refine List.pairwise_cons.mpr ⟨?_, ascending⟩
      intro item member
      rcases List.mem_cons.mp member with rfl | within
      · exact before
      · exact Before.trans before (least item within)
    · rename_i level
      rw [← compare_eq_iff.mp level] at least
      exact List.pairwise_cons.mpr ⟨least, others⟩
    · rename_i after
      refine List.pairwise_cons.mpr ⟨?_, ih others⟩
      intro item member
      rcases mem_insertBy member with rfl | within
      · exact Std.OrientedCmp.lt_of_gt after
      · exact least item within

/-- An entry under a key that is not there is added. -/
theorem perm_insertBy {entry : α} {entries : List α}
    (fresh : ∀ other ∈ entries, key entry ≠ key other) :
    (order.insertBy key entry entries).Perm (entry :: entries) := by
  induction entries with
  | nil => exact .refl _
  | cons other rest ih =>
    unfold insertBy
    split
    · exact .refl _
    · rename_i level
      exact absurd (compare_eq_iff.mp level) (fresh other List.mem_cons_self)
    · have inserted := ih fun item member => fresh item (List.mem_cons_of_mem other member)
      exact (inserted.cons other).trans (.swap entry other rest)

/-- The keys after an insertion are that of the entry and those that were there. -/
theorem mem_map_insertBy {entry : α} {entries : List α} {value : Datum} :
    value ∈ (order.insertBy key entry entries).map key ↔
      value = key entry ∨ value ∈ entries.map key := by
  induction entries with
  | nil => simp [insertBy]
  | cons other rest ih =>
    unfold insertBy
    split
    · simp
    · rename_i level
      simp [compare_eq_iff.mp level]
    · rw [List.map_cons, List.mem_cons, ih, List.map_cons, List.mem_cons, or_left_comm]

/-- One more entry is put in last. -/
theorem gatherBy_concat (entries : List α) (entry : α) :
    order.gatherBy key (entries ++ [entry]) = order.insertBy key entry (order.gatherBy key entries) :=
  List.foldl_concat ..

/-- Nothing is gathered but the given entries. -/
theorem mem_of_mem_gatherBy {entries : List α} {item : α}
    (member : item ∈ order.gatherBy key entries) : item ∈ entries := by
  induction entries using List.reverseRecOn with
  | nil => cases member
  | append_singleton earlier entry ih =>
    rw [gatherBy_concat] at member
    rcases mem_insertBy member with rfl | within
    · exact List.mem_append_right earlier (List.mem_singleton_self _)
    · exact List.mem_append_left _ (ih within)

/-- Every entry has its key among what is gathered. -/
theorem mem_map_gatherBy {entries : List α} {value : Datum} :
    value ∈ (order.gatherBy key entries).map key ↔ value ∈ entries.map key := by
  induction entries using List.reverseRecOn with
  | nil => rfl
  | append_singleton earlier entry ih =>
    rw [gatherBy_concat, mem_map_insertBy, ih]
    simp [or_comm]

/-- What is gathered is strictly ascending. -/
theorem pairwise_gatherBy (entries : List α) :
    (order.gatherBy key entries).Pairwise fun a b => order.Before (key a) (key b) := by
  induction entries using List.reverseRecOn with
  | nil => exact .nil
  | append_singleton earlier entry ih =>
    rw [gatherBy_concat]
    exact pairwise_insertBy entry ih

/-- No key of what is gathered occurs twice. -/
theorem nodup_keys_gatherBy (entries : List α) :
    ((order.gatherBy key entries).map key).Nodup :=
  List.pairwise_map.mpr ((pairwise_gatherBy entries).imp fun before => before.ne)

/-- Entries with different keys are only rearranged. -/
theorem perm_gatherBy {entries : List α} (distinct : (entries.map key).Nodup) :
    (order.gatherBy key entries).Perm entries := by
  induction entries using List.reverseRecOn with
  | nil => exact .refl _
  | append_singleton earlier entry ih =>
    rw [List.map_append, List.map_singleton, List.nodup_append] at distinct
    obtain ⟨before, -, apart⟩ := distinct
    rw [gatherBy_concat]
    refine (perm_insertBy ?_).trans (((ih before).cons entry).trans
      (List.perm_append_singleton entry earlier).symm)
    intro other member same
    have listed : key other ∈ earlier.map key := List.mem_map_of_mem (mem_of_mem_gatherBy member)
    exact apart _ listed _ (List.mem_singleton_self _) same.symm

/-- What was gathered once is gathered again from any arrangement of it. -/
theorem gatherBy_of_perm {entries arranged : List α}
    (rearranged : arranged.Perm (order.gatherBy key entries)) :
    order.gatherBy key arranged = order.gatherBy key entries := by
  have distinct : (arranged.map key).Nodup :=
    (rearranged.map key).nodup_iff.mpr (nodup_keys_gatherBy entries)
  exact List.Perm.eq_of_pairwise (fun _ _ _ _ before after => absurd after before.asymm)
    (pairwise_gatherBy arranged) (pairwise_gatherBy entries)
    ((perm_gatherBy distinct).trans rearranged)

end Gathering

section Sets

/-- A set has the given elements and no others. -/
theorem mem_setOf_iff {elements : List Datum} {value : Datum} :
    value ∈ order.setOf elements ↔ value ∈ elements := by
  have keys : value ∈ (order.gatherBy id elements).map id ↔ value ∈ elements.map id :=
    mem_map_gatherBy
  rwa [List.map_id, List.map_id] at keys

/-- No element of a set occurs twice. -/
theorem nodup_setOf (elements : List Datum) : (order.setOf elements).Nodup := by
  have keys : ((order.gatherBy id elements).map id).Nodup := nodup_keys_gatherBy elements
  rwa [List.map_id] at keys

/-- A set is the set of its elements. -/
theorem setOf_setOf (elements : List Datum) :
    order.setOf (order.setOf elements) = order.setOf elements :=
  gatherBy_of_perm (.refl _)

end Sets

end RecordCoding.ValueOrder

namespace RecordCoding.Datum

/-! ## Ordered maps -/

/-- A map has no entries but the given ones. -/
theorem mem_of_mem_mapOf {pairs : List (Datum × Datum)} {item : Datum × Datum}
    (member : item ∈ mapOf pairs) : item ∈ pairs :=
  ValueOrder.mem_of_mem_gatherBy member

/-- The entries of a map, in any order, give the map again. -/
theorem mapOf_of_perm {pairs entries : List (Datum × Datum)}
    (rearranged : entries.Perm (mapOf pairs)) : mapOf entries = mapOf pairs :=
  ValueOrder.gatherBy_of_perm rearranged

/-- No key of a map occurs twice. -/
theorem nodup_keys_mapOf (pairs : List (Datum × Datum)) : ((mapOf pairs).map Prod.fst).Nodup :=
  ValueOrder.nodup_keys_gatherBy pairs

/-- A map whose keys differ has the given entries and no others. -/
theorem perm_mapOf {pairs : List (Datum × Datum)} (distinct : (pairs.map Prod.fst).Nodup) :
    (mapOf pairs).Perm pairs :=
  ValueOrder.perm_gatherBy distinct

end RecordCoding.Datum
