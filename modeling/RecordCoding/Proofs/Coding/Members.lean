import Mathlib.Data.List.Nodup
import Mathlib.Data.String.Basic
import RecordCoding.Coding.Encoder
import RecordCoding.Proofs.Lookup

/-!
# Members of objects

Members under different names do not affect each other: an object made of them has all of them,
and writing some of them, or leaving them out, is seen under their own keys only.
-/

namespace RecordCoding

namespace Json

/-- A member under a new name is added. -/
theorem perm_insertMember {members : List (String × Json)} {name : String} (value : Json)
    (fresh : name ∉ members.map Prod.fst) :
    (insertMember members name value).Perm ((name, value) :: members) := by
  induction members with
  | nil => exact .refl _
  | cons entry rest ih =>
    obtain ⟨other, old⟩ := entry
    have apart : name ≠ other ∧ name ∉ rest.map Prod.fst := by simpa using fresh
    unfold insertMember
    split
    · exact .refl _
    · rw [if_neg apart.1]
      exact ((ih apart.2).cons (other, old)).trans (.swap _ _ rest)

/-- The names after an insertion are the ones before it and the new one. -/
theorem mem_names_insertMember {members : List (String × Json)} {name other : String}
    {value : Json} : other ∈ (insertMember members name value).map Prod.fst ↔
      other = name ∨ other ∈ members.map Prod.fst := by
  induction members with
  | nil => simp [insertMember]
  | cons entry rest ih =>
    obtain ⟨first, old⟩ := entry
    unfold insertMember
    split
    · simp
    · split
      · rename_i same
        simp [same]
      · rw [List.map_cons, List.mem_cons, ih, List.map_cons, List.mem_cons]
        exact or_left_comm

/-- Members in ascending order of their names stay so. -/
theorem ascending_insertMember {members : List (String × Json)} {name : String} {value : Json}
    (ascending : (members.map Prod.fst).Pairwise (· < ·)) :
    ((insertMember members name value).map Prod.fst).Pairwise (· < ·) := by
  induction members with
  | nil => exact List.pairwise_singleton _ name
  | cons entry rest ih =>
    obtain ⟨first, old⟩ := entry
    obtain ⟨least, others⟩ := List.pairwise_cons.mp ascending
    unfold insertMember
    split
    · rename_i before
      refine List.pairwise_cons.mpr ⟨?_, ascending⟩
      refine List.forall_mem_cons.mpr ⟨before, ?_⟩
      exact fun other member => before.trans (least other member)
    · split
      · rename_i same
        subst same
        exact ascending
      · rename_i notBefore differ
        refine List.pairwise_cons.mpr ⟨?_, ih others⟩
        intro other member
        rcases mem_names_insertMember.mp member with rfl | within
        · exact lt_of_le_of_ne (not_lt.mp notBefore) (Ne.symm differ)
        · exact least other within

/-- Members under different names are all kept, in some order. -/
theorem perm_ofMembers {members : List (String × Json)}
    (distinct : (members.map Prod.fst).Nodup) :
    ∃ sorted, ofMembers members = .object sorted ∧ sorted.Perm members := by
  refine ⟨_, rfl, ?_⟩
  rw [List.foldl_eq_foldr_reverse]
  have reversed : (members.reverse.map Prod.fst).Nodup := by
    rw [List.map_reverse]
    exact List.nodup_reverse.mpr distinct
  refine List.Perm.trans ?_ members.reverse_perm
  generalize members.reverse = backwards at reversed ⊢
  induction backwards with
  | nil => exact .refl _
  | cons entry rest ih =>
    rw [List.map_cons, List.nodup_cons] at reversed
    have inner := ih reversed.2
    refine (perm_insertMember entry.2 ?_).trans (inner.cons entry)
    intro taken
    exact reversed.1 ((inner.map Prod.fst).mem_iff.mp taken)

end Json

namespace Encoder

/-- Writes a member that may be left out. -/
def put (encoder : Encoder) (key : String) : Option Json → Encoder
  | some value => ⟨Json.insertMember encoder.members key value⟩
  | none => encoder

/-- Other keys are not affected by a member. -/
theorem member?_put_of_ne (encoder : Encoder) {key other : String} (value : Option Json)
    (differ : other ≠ key) :
    Json.member? (encoder.put key value).members other = Json.member? encoder.members other := by
  cases value with
  | none => rfl
  | some value => exact Json.member?_insertMember_of_ne encoder.members value differ

/-- The name of a member that is not left out is added to those before it. -/
theorem mem_names_put {encoder : Encoder} {key other : String} {value : Option Json} :
    other ∈ (encoder.put key value).members.map Prod.fst ↔
      (other = key ∧ value.isSome = true) ∨ other ∈ encoder.members.map Prod.fst := by
  cases value with
  | none => simp [put]
  | some value =>
    rw [put, Json.mem_names_insertMember]
    simp

/-- Members in ascending order of their names stay so. -/
theorem ascending_put {encoder : Encoder} {key : String} {value : Option Json}
    (ascending : (encoder.members.map Prod.fst).Pairwise (· < ·)) :
    ((encoder.put key value).members.map Prod.fst).Pairwise (· < ·) := by
  cases value with
  | none => exact ascending
  | some written => exact Json.ascending_insertMember ascending

variable {α : Type} {key : α → String} {value : α → Option Json}

/-- Writes one member for each of some items. -/
def putAll (key : α → String) (value : α → Option Json) (encoder : Encoder) (items : List α) :
    Encoder :=
  items.foldl (fun written item => written.put (key item) (value item)) encoder

/-- What is found under a key is the member of the last item with that key that is not left out,
or else what was there before. -/
theorem member?_putAll_eq (encoder : Encoder) (items : List α) (other : String) :
    Json.member? (putAll key value encoder items).members other =
      ((items.filter (key · == other)).filterMap value).getLast?.or
        (Json.member? encoder.members other) := by
  induction items generalizing encoder with
  | nil => rfl
  | cons item rest ih =>
    refine (ih (encoder.put (key item) (value item))).trans ?_
    by_cases same : key item = other
    · rw [List.filter_cons, if_pos (by simpa using same)]
      cases written : value item with
      | none => rw [List.filterMap_cons_none written, put]
      | some document =>
        rw [List.filterMap_cons_some written, List.getLast?_cons, put, same,
          Json.member?_insertMember_self]
        cases ((rest.filter (key · == other)).filterMap value).getLast? <;> rfl
    · rw [List.filter_cons, if_neg (by simpa using same),
        member?_put_of_ne encoder (value item) (Ne.symm same)]

/-- The names of the members are the keys of the items that are not left out. -/
theorem mem_names_putAll {encoder : Encoder} {items : List α} {other : String} :
    other ∈ (putAll key value encoder items).members.map Prod.fst ↔
      (∃ item ∈ items, other = key item ∧ (value item).isSome = true) ∨
        other ∈ encoder.members.map Prod.fst := by
  induction items generalizing encoder with
  | nil => simp [putAll]
  | cons item rest ih =>
    have next : putAll key value encoder (item :: rest) =
      putAll key value (encoder.put (key item) (value item)) rest := rfl
    rw [next, ih, mem_names_put, List.exists_mem_cons_iff, or_left_comm, or_assoc]

/-- The members are in ascending order of their names. -/
theorem ascending_putAll {encoder : Encoder} {items : List α}
    (ascending : (encoder.members.map Prod.fst).Pairwise (· < ·)) :
    ((putAll key value encoder items).members.map Prod.fst).Pairwise (· < ·) := by
  induction items generalizing encoder with
  | nil => exact ascending
  | cons item rest ih => exact ih (ascending_put ascending)

/-- Where no two items share a key, what is found under the key of an item is its own member. -/
theorem member?_putAll {items : List α} (distinct : (items.map key).Nodup) {item : α}
    (member : item ∈ items) :
    Json.member? (putAll key value .empty items).members (key item) = value item := by
  rw [member?_putAll_eq, getLast?_filterMap_key distinct value member]
  exact Option.or_none

end Encoder

end RecordCoding
