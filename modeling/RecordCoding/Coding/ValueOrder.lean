import RecordCoding.Coding.Datum

/-!
# Orders of values

A set keeps its elements in the order of their type, and an ordered map its entries in the order of
their keys. What the order is, is up to the type; but it is one, and no two different values of the
type are level in it. The orders of composite types follow from those of their parts.
-/

namespace RecordCoding

/-- An order of values in which no two different ones are level. -/
structure ValueOrder where
  compare : Datum → Datum → Ordering
  transitive : Std.TransCmp compare
  separating : Std.LawfulEqCmp compare

namespace Datum

/-- The value in an optional one, or the elements of a sequence. -/
def parts : Datum → List Datum
  | present value => [value]
  | list elements => elements
  | _ => []

/-- The entries of a map. -/
def pairs : Datum → List (Datum × Datum)
  | entries pairs => pairs
  | _ => []

end Datum

namespace ValueOrder

instance (order : ValueOrder) : Std.TransCmp order.compare := order.transitive

instance (order : ValueOrder) : Std.LawfulEqCmp order.compare := order.separating

/-- What is compared through some part is in order if the parts are. -/
theorem transCmp_on {α β : Type} (cmp : β → β → Ordering) [Std.TransCmp cmp] (part : α → β) :
    Std.TransCmp fun a b => cmp (part a) (part b) where
  eq_swap := Std.OrientedCmp.eq_swap
  isLE_trans first second := Std.TransCmp.isLE_trans first second

/-- The order of outlines. -/
def standard : ValueOrder where
  compare := Datum.compare
  transitive := transCmp_on (List.compareLex Symbol.compare) Datum.outline
  separating :=
    { compare_self := fun {value} =>
        (Std.ReflCmp.compare_self : List.compareLex Symbol.compare value.outline _ = .eq)
      eq_of_compare := fun level =>
        Datum.outline_injective (Std.LawfulEqCmp.eq_of_compare level) }

section

variable {α : Type}

/-- Values by the first difference of their parts, and in another order where there is none. -/
def byParts (parts : Datum → List α) (cmp : α → α → Ordering) (transitive : Std.TransCmp cmp)
    (next : ValueOrder) : ValueOrder where
  compare := compareLex (fun a b => List.compareLex cmp (parts a) (parts b)) next.compare
  transitive :=
    have := transCmp_on (List.compareLex cmp) parts
    inferInstance
  separating :=
    { compare_self := compareLex_eq_eq.mpr ⟨Std.ReflCmp.compare_self, Std.ReflCmp.compare_self⟩
      eq_of_compare := fun level => Std.LawfulEqCmp.eq_of_compare (compareLex_eq_eq.mp level).2 }

/-- Optional values, with no value in front, and sequences. -/
def sequence (element : ValueOrder) : ValueOrder :=
  byParts Datum.parts element.compare element.transitive standard

/-- Pairs, by the first value and then by the second. -/
def pair (first second : ValueOrder) : ValueOrder :=
  byParts (·.parts.take 1) first.compare first.transitive <|
    byParts (·.parts.drop 1) second.compare second.transitive standard

/-- Entries, by their keys and then by their values. -/
def compareEntries (value : ValueOrder) : Datum × Datum → Datum × Datum → Ordering :=
  compareLex (fun a b => standard.compare a.1 b.1) fun a b => value.compare a.2 b.2

/-- Entries are in order if their keys and their values are. -/
theorem transCmp_compareEntries (value : ValueOrder) : Std.TransCmp value.compareEntries := by
  have keys := transCmp_on standard.compare (Prod.fst : Datum × Datum → Datum)
  have values := transCmp_on value.compare (Prod.snd : Datum × Datum → Datum)
  unfold compareEntries
  infer_instance

/-- Maps, by their first difference in a key or a value. -/
def map (value : ValueOrder) : ValueOrder :=
  byParts Datum.pairs value.compareEntries value.transCmp_compareEntries standard

/-- Puts an entry into a list with ascending keys, in place of an entry of the same key. -/
def insertBy (order : ValueOrder) (key : α → Datum) (entry : α) : List α → List α
  | [] => [entry]
  | other :: rest =>
    match order.compare (key entry) (key other) with
    | .lt => entry :: other :: rest
    | .eq => entry :: rest
    | .gt => other :: order.insertBy key entry rest

/-- Puts entries into an empty list; of equal keys the last one counts. -/
def gatherBy (order : ValueOrder) (key : α → Datum) (entries : List α) : List α :=
  entries.foldl (fun gathered entry => order.insertBy key entry gathered) []

end

/-- The elements of a set with the given ones. -/
def setOf (order : ValueOrder) (elements : List Datum) : List Datum := order.gatherBy id elements

/-- The entries of an ordered map with the given ones. -/
def mapOf (order : ValueOrder) (pairs : List (Datum × Datum)) : List (Datum × Datum) :=
  order.gatherBy Prod.fst pairs

end ValueOrder

namespace Datum

/-- A set in the order of outlines. -/
def setOf (elements : List Datum) : List Datum := ValueOrder.standard.setOf elements

/-- An ordered map in the order of outlines. -/
def mapOf (pairs : List (Datum × Datum)) : List (Datum × Datum) := ValueOrder.standard.mapOf pairs

end Datum

end RecordCoding
