import Mathlib.Data.List.Nodup

/-!
# Looking up by a key

Where no two entries of a list have the same key, the entry that is found under a key is the one
that has it, whatever the order of the list.
-/

namespace RecordCoding

/-- An entry is found under its own key. -/
theorem find?_key {α κ : Type} [BEq κ] [LawfulBEq κ] {key : α → κ} {entries : List α}
    (distinct : (entries.map key).Nodup) {entry : α} (member : entry ∈ entries) :
    entries.find? (key · == key entry) = some entry := by
  cases found : entries.find? (key · == key entry) with
  | none => exact absurd (List.find?_eq_none.mp found entry member) (by simp)
  | some other =>
    have same : key other = key entry := by simpa using List.find?_some found
    rw [List.inj_on_of_nodup_map distinct (List.mem_of_find?_eq_some found) member same]

/-- A key that no entry has is not the key of an entry. -/
theorem beq_eq_false_of_fresh {α κ : Type} [BEq κ] [LawfulBEq κ] {name : α → κ} {items : List α}
    {key : κ} (fresh : key ∉ items.map name) {item : α} (member : item ∈ items) :
    (name item == key) = false := by
  rw [beq_eq_false_iff_ne]
  intro same
  exact fresh (same ▸ List.mem_map_of_mem member)

/-- An entry is the only one with its key. -/
theorem filter_key {α κ : Type} [BEq κ] [LawfulBEq κ] {key : α → κ} {entries : List α}
    (distinct : (entries.map key).Nodup) {entry : α} (member : entry ∈ entries) :
    entries.filter (key · == key entry) = [entry] := by
  induction entries with
  | nil => cases member
  | cons first rest ih =>
    obtain ⟨fresh, others⟩ := List.nodup_cons.mp distinct
    rcases List.mem_cons.mp member with rfl | within
    · have none : rest.filter (key · == key entry) = [] := by
        refine List.filter_eq_nil_iff.mpr fun other inside => ?_
        simp [beq_eq_false_of_fresh fresh inside]
      rw [List.filter_cons, if_pos (beq_self_eq_true _), none]
    · have apart : ¬ (key first == key entry) = true := by
        intro same
        exact fresh (eq_of_beq same ▸ List.mem_map_of_mem within)
      rw [List.filter_cons, if_neg apart]
      exact ih others within

/-- What entries with a key come to is what the only one comes to. -/
theorem getLast?_filterMap_key {α β κ : Type} [BEq κ] [LawfulBEq κ] {key : α → κ}
    {entries : List α} (distinct : (entries.map key).Nodup) (f : α → Option β) {entry : α}
    (member : entry ∈ entries) :
    ((entries.filter (key · == key entry)).filterMap f).getLast? = f entry := by
  rw [filter_key distinct member]
  cases made : f entry with
  | none => rw [List.filterMap_cons_none made]; rfl
  | some value => rw [List.filterMap_cons_some made]; rfl

/-- What is paired with a name is found under it. -/
theorem lookup_map_pair {α β κ : Type} [BEq κ] [LawfulBEq κ] {name : α → κ} {value : α → β}
    {items : List α} (distinct : (items.map name).Nodup) {item : α} (member : item ∈ items) :
    (items.map fun other => (name other, value other)).lookup (name item) = some (value item) := by
  induction items with
  | nil => cases member
  | cons first rest ih =>
    obtain ⟨fresh, others⟩ := List.nodup_cons.mp distinct
    rw [List.map_cons, List.lookup_cons]
    rcases List.mem_cons.mp member with rfl | within
    · rw [beq_self_eq_true]
    · rw [beq_eq_false_of_fresh fresh within]
      exact ih others within

/-- A list of pairs is given by its names and what is found under them. -/
theorem eq_map_lookup {α β κ : Type} [BEq κ] [LawfulBEq κ] {name : α → κ} {items : List α}
    {pairs : List (κ × β)} (names : pairs.map Prod.fst = items.map name)
    (distinct : (items.map name).Nodup) (other : β) :
    pairs = items.map fun item => (name item, (pairs.lookup (name item)).getD other) := by
  induction items generalizing pairs with
  | nil => exact List.map_eq_nil_iff.mp names
  | cons item rest ih =>
    cases pairs with
    | nil => cases names
    | cons pair others =>
      obtain ⟨key, value⟩ := pair
      rw [List.map_cons, List.map_cons, List.cons.injEq] at names
      obtain ⟨same, names⟩ := names
      dsimp only at same
      subst same
      obtain ⟨fresh, distinct⟩ := List.nodup_cons.mp distinct
      have inner := ih names distinct
      have later : ∀ next ∈ rest, ((name item, value) :: others).lookup (name next) =
          others.lookup (name next) := by
        intro next within
        rw [List.lookup_cons, beq_eq_false_of_fresh fresh within]
      have found : ((name item, value) :: others).lookup (name item) = some value := by
        rw [List.lookup_cons, beq_self_eq_true]
      rw [List.map_cons, found, List.map_congr_left fun next within => by rw [later next within],
        ← inner, Option.getD_some]

end RecordCoding
