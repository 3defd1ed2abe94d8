import Mathlib.Data.List.Forall2

/-!
# Computations that may fail

A computation made of steps succeeds exactly if its steps do. A traversal that succeeds puts the
result of each element beside it.
-/

namespace RecordCoding

variable {α β γ ε : Type}

/-- A mapped computation succeeds with the image of a result. -/
theorem map_eq_ok_iff {f : α → β} {x : Except ε α} {b : β} :
    f <$> x = .ok b ↔ ∃ a, x = .ok a ∧ f a = b := by
  cases x <;> simp [Functor.map, Except.map]

/-- A mapped computation fails as it does. -/
theorem map_eq_error_iff {f : α → β} {x : Except ε α} {error : ε} :
    f <$> x = .error error ↔ x = .error error := by
  cases x <;> simp [Functor.map, Except.map]

/-- A result is what is left of a computation without its error. -/
theorem toOption_eq_some_iff {x : Except ε α} {a : α} : x.toOption = some a ↔ x = .ok a := by
  cases x <;> simp [Except.toOption]

/-- Functions that agree make the same of a result. -/
theorem map_congr {f g : α → β} {x : Except ε α} (agree : ∀ a, f a = g a) : f <$> x = g <$> x :=
  congrArg (· <$> x) (funext agree)

/-- A last step that cannot fail is a mapping. -/
theorem bind_ok_eq_map {f g : α → β} {x : Except ε α} (agree : ∀ a, f a = g a) :
    (x >>= fun a => .ok (f a)) = g <$> x := by
  rw [← map_congr agree]
  cases x <;> rfl

/-- Two steps succeed if the second does on the result of the first. -/
theorem bind_eq_ok_iff {x : Except ε α} {f : α → Except ε β} {b : β} :
    x >>= f = .ok b ↔ ∃ a, x = .ok a ∧ f a = .ok b := by
  cases x <;> simp [bind, Except.bind]

/-- Two steps fail as the first does, or as the second does on the result of the first. -/
theorem bind_eq_error_iff {x : Except ε α} {f : α → Except ε β} {error : ε} :
    x >>= f = .error error ↔ x = .error error ∨ ∃ a, x = .ok a ∧ f a = .error error := by
  cases x <;> simp [bind, Except.bind]

/-- Errors that are only reworded are errors still. -/
theorem mapError_eq_ok_iff {x : Except ε α} {f : ε → γ} {a : α} :
    x.mapError f = .ok a ↔ x = .ok a := by
  cases x <;> simp [Except.mapError]

/-- Errors that are only reworded come from an error. -/
theorem mapError_eq_error_iff {x : Except ε α} {f : ε → γ} {error : γ} :
    x.mapError f = .error error ↔ ∃ reason, x = .error reason ∧ f reason = error := by
  cases x <;> simp [Except.mapError]

/-- A fold whose steps all succeed is the fold of what they do. -/
theorem foldlM_eq_ok {f : β → α → Except ε β} {g : β → α → β} {xs : List α} {start : β}
    (each : ∀ s, ∀ x ∈ xs, f s x = .ok (g s x)) : xs.foldlM f start = .ok (xs.foldl g start) := by
  induction xs generalizing start with
  | nil => rfl
  | cons x xs ih =>
    rw [List.foldlM_cons, each start x List.mem_cons_self]
    exact ih fun s x' member => each s x' (List.mem_cons_of_mem x member)

/-- What every step of a fold keeps holds of its result. -/
theorem foldlM_keeps {f : β → α → Except ε β} {P : β → Prop} {xs : List α} {start result : β}
    (step : ∀ s x s', P s → x ∈ xs → f s x = .ok s' → P s') (holds : P start)
    (folded : xs.foldlM f start = .ok result) : P result := by
  induction xs generalizing start with
  | nil =>
    cases folded
    exact holds
  | cons x xs ih =>
    obtain ⟨next, taken, rest⟩ := bind_eq_ok_iff.mp (List.foldlM_cons.symm.trans folded)
    refine ih (fun s x' s' before member => step s x' s' before (List.mem_cons_of_mem x member)) ?_
      rest
    exact step start x next holds List.mem_cons_self taken

/-- A fold whose steps compute the same whatever was folded before succeeds exactly if all of them
do. -/
theorem foldlM_eq_ok_iff {f : β → α → Except ε β} {g : β → α → γ → β} {compute : α → Except ε γ}
    [Nonempty γ] (step : ∀ s x, f s x = g s x <$> compute x) {xs : List α} {start result : β} :
    xs.foldlM f start = .ok result ↔
      ∃ value : α → γ, (∀ x ∈ xs, compute x = .ok (value x)) ∧
        xs.foldl (fun s x => g s x (value x)) start = result := by
  have follow (value : α → γ) (each : ∀ x ∈ xs, compute x = .ok (value x)) :
      xs.foldlM f start = .ok (xs.foldl (fun s x => g s x (value x)) start) := by
    refine foldlM_eq_ok fun s x member => ?_
    rw [step, each x member]
    rfl
  constructor
  · intro folded
    have single : ∀ x ∈ xs, ∃ value, compute x = .ok value := by
      clear follow
      induction xs generalizing start with
      | nil => exact nofun
      | cons x xs ih =>
        obtain ⟨next, taken, rest⟩ := bind_eq_ok_iff.mp (List.foldlM_cons.symm.trans folded)
        obtain ⟨value, found, -⟩ := map_eq_ok_iff.mp ((step start x).symm.trans taken)
        exact List.forall_mem_cons.mpr ⟨⟨value, found⟩, ih rest⟩
    choose! value each using single
    rw [follow value each] at folded
    exact ⟨value, each, Except.ok.inj folded⟩
  · rintro ⟨value, each, rfl⟩
    exact follow value each

/-- A traversal succeeds exactly if it does at every element. -/
theorem mapM_eq_ok_iff {f : α → Except ε β} {xs : List α} {ys : List β} :
    xs.mapM f = .ok ys ↔ List.Forall₂ (fun x y => f x = .ok y) xs ys := by
  induction xs generalizing ys with
  | nil => cases ys <;> simp [pure, Except.pure]
  | cons x xs ih =>
    rw [List.mapM_cons, bind_eq_ok_iff, List.forall₂_cons_left_iff]
    constructor
    · rintro ⟨y, first, rest⟩
      obtain ⟨ys', others, last⟩ := bind_eq_ok_iff.mp rest
      cases last
      exact ⟨y, ys', first, ih.mp others, rfl⟩
    · rintro ⟨y, ys', first, others, rfl⟩
      exact ⟨y, first, bind_eq_ok_iff.mpr ⟨ys', ih.mpr others, rfl⟩⟩

/-- A traversal that computes a function at every element is the map of it. -/
theorem mapM_eq_ok_map {f : α → Except ε β} {g : α → β} {xs : List α}
    (each : ∀ x ∈ xs, f x = .ok (g x)) : xs.mapM f = .ok (xs.map g) :=
  mapM_eq_ok_iff.mpr (List.forall₂_map_right_iff.mpr (List.forall₂_same.mpr each))

/-- What may be absent is computed if it is there. -/
theorem option_mapM_eq_ok_map {f : α → Except ε β} {g : α → β} {x? : Option α}
    (each : ∀ x, x? = some x → f x = .ok (g x)) : x?.mapM f = .ok (x?.map g) := by
  cases x? with
  | none => rfl
  | some x =>
    rw [Option.mapM_some, each x rfl]
    rfl

/-- What may be absent fails to be computed as it does if it is there. -/
theorem option_mapM_eq_error_iff {f : α → Except ε β} {x? : Option α} {error : ε} :
    x?.mapM f = .error error ↔ ∃ x, x? = some x ∧ f x = .error error := by
  cases x? with
  | none =>
    rw [Option.mapM_none]
    constructor
    · nofun
    · rintro ⟨x, present, -⟩
      cases present
  | some x =>
    rw [Option.mapM_some, map_eq_error_iff]
    simp

/-- Where every element has a counterpart, so has the list. -/
theorem exists_forall₂ {R : α → β → Prop} {xs : List α} (each : ∀ x ∈ xs, ∃ y, R x y) :
    ∃ ys, List.Forall₂ R xs ys := by
  induction xs with
  | nil => exact ⟨[], .nil⟩
  | cons x xs ih =>
    obtain ⟨y, first⟩ := each x List.mem_cons_self
    obtain ⟨ys, others⟩ := ih fun x' member => each x' (List.mem_cons_of_mem x member)
    exact ⟨y :: ys, .cons first others⟩

/-- What stands on the right has a counterpart on the left. -/
theorem exists_of_mem_right {R : α → β → Prop} {xs : List α} {ys : List β}
    (related : List.Forall₂ R xs ys) {y : β} (member : y ∈ ys) : ∃ x ∈ xs, R x y := by
  induction related with
  | nil => cases member
  | cons first others ih =>
    rcases List.mem_cons.mp member with rfl | within
    · exact ⟨_, List.mem_cons_self, first⟩
    · obtain ⟨x, inside, holds⟩ := ih within
      exact ⟨x, List.mem_cons_of_mem _ inside, holds⟩

/-- What stands on the left has a counterpart on the right. -/
theorem exists_of_mem_left {R : α → β → Prop} {xs : List α} {ys : List β}
    (related : List.Forall₂ R xs ys) {x : α} (member : x ∈ xs) : ∃ y ∈ ys, R x y :=
  exists_of_mem_right related.flip member

/-- What is related stays so under what holds of the elements on the left. -/
theorem forall₂_imp_of_mem {R S : α → β → Prop} {xs : List α} {ys : List β}
    (imp : ∀ x y, x ∈ xs → R x y → S x y) (related : List.Forall₂ R xs ys) :
    List.Forall₂ S xs ys := by
  induction related with
  | nil => exact .nil
  | cons first others ih =>
    refine .cons (imp _ _ List.mem_cons_self first) (ih ?_)
    exact fun x y member => imp x y (List.mem_cons_of_mem _ member)

/-- Where there is one related value for each element, the related lists are those of these
values. -/
theorem forall₂_iff_eq_map {R : α → β → Prop} {f : α → β} {xs : List α} {ys : List β}
    (each : ∀ x ∈ xs, ∀ y, R x y ↔ f x = y) : List.Forall₂ R xs ys ↔ xs.map f = ys := by
  induction xs generalizing ys with
  | nil => exact List.forall₂_nil_left_iff.trans eq_comm
  | cons x xs ih =>
    rw [List.forall₂_cons_left_iff, List.map_cons]
    constructor
    · rintro ⟨y, ys, first, rest, rfl⟩
      rw [(each x List.mem_cons_self y).mp first,
        (ih fun x member => each x (List.mem_cons_of_mem _ member)).mp rest]
    · rintro rfl
      exact ⟨f x, xs.map f, (each x List.mem_cons_self _).mpr rfl,
        (ih fun x member => each x (List.mem_cons_of_mem _ member)).mpr rfl, rfl⟩

/-- A traversal that makes something of each result makes it of all of them. -/
theorem mapM_map {f : α → Except ε β} {h : α → Except ε γ} {g : β → γ} {xs : List α}
    (each : ∀ x ∈ xs, h x = g <$> f x) : xs.mapM h = List.map g <$> xs.mapM f := by
  induction xs with
  | nil => rfl
  | cons x xs ih =>
    rw [List.mapM_cons, List.mapM_cons, each x List.mem_cons_self,
      ih fun y member => each y (List.mem_cons_of_mem x member)]
    cases f x with
    | error error => rfl
    | ok y => cases xs.mapM f <;> rfl

/-- A traversal fails at its first element or behind it. -/
theorem mapM_cons_eq_error_iff {f : α → Except ε β} {x : α} {xs : List α} {error : ε} :
    (x :: xs).mapM f = .error error ↔
      f x = .error error ∨ (∃ y, f x = .ok y) ∧ xs.mapM f = .error error := by
  rw [List.mapM_cons]
  cases f x with
  | error other => simp [bind, Except.bind]
  | ok y => cases xs.mapM f <;> simp [bind, Except.bind, pure, Except.pure]

/-- A traversal fails exactly as the first element that does. -/
theorem mapM_eq_error_iff {f : α → Except ε β} {xs : List α} {error : ε} :
    xs.mapM f = .error error ↔
      ∃ before x after, xs = before ++ x :: after ∧ (∀ earlier ∈ before, ∃ y, f earlier = .ok y) ∧
        f x = .error error := by
  constructor
  · intro failed
    induction xs with
    | nil => cases failed
    | cons first rest ih =>
      rcases mapM_cons_eq_error_iff.mp failed with fails | ⟨fine, later⟩
      · exact ⟨[], first, rest, rfl, nofun, fails⟩
      · obtain ⟨before, x, after, rfl, earlier, fails⟩ := ih later
        exact ⟨first :: before, x, after, rfl, List.forall_mem_cons.mpr ⟨fine, earlier⟩, fails⟩
  · rintro ⟨before, x, after, rfl, fine, fails⟩
    induction before with
    | nil => exact mapM_cons_eq_error_iff.mpr (Or.inl fails)
    | cons first before ih =>
      obtain ⟨succeeds, others⟩ := List.forall_mem_cons.mp fine
      exact mapM_cons_eq_error_iff.mpr (Or.inr ⟨succeeds, ih others⟩)

/-- A traversal that fails does so as one of the elements. -/
theorem exists_of_mapM_eq_error {f : α → Except ε β} {xs : List α} {error : ε}
    (failed : xs.mapM f = .error error) : ∃ x ∈ xs, f x = .error error := by
  obtain ⟨before, x, after, rfl, -, fails⟩ := mapM_eq_error_iff.mp failed
  exact ⟨x, List.mem_append_right before List.mem_cons_self, fails⟩

/-- A traversal that does not succeed fails at some element. -/
theorem exists_mapM_eq_error_iff {f : α → Except ε β} {xs : List α} :
    (∃ error, xs.mapM f = .error error) ↔ ∃ x ∈ xs, ∃ error, f x = .error error := by
  constructor
  · rintro ⟨error, failed⟩
    obtain ⟨x, member, fails⟩ := exists_of_mapM_eq_error failed
    exact ⟨x, member, error, fails⟩
  · rintro ⟨x, member, error, fails⟩
    cases found : xs.mapM f with
    | error other => exact ⟨other, rfl⟩
    | ok ys =>
      obtain ⟨y, -, succeeds⟩ := exists_of_mem_left (mapM_eq_ok_iff.mp found) member
      rw [fails] at succeeds
      cases succeeds

/-- Results that are all different come from elements that are all different. -/
theorem nodup_of_mapM {f : α → Except ε β} {xs : List α} {ys : List β}
    (results : xs.mapM f = .ok ys) (distinct : ys.Nodup) : xs.Nodup := by
  have related := mapM_eq_ok_iff.mp results
  clear results
  induction related with
  | nil => exact .nil
  | @cons x y xs ys first others ih =>
    obtain ⟨fresh, rest⟩ := List.nodup_cons.mp distinct
    refine List.nodup_cons.mpr ⟨?_, ih rest⟩
    intro again
    obtain ⟨y', within, same⟩ := exists_of_mem_left others again
    rw [first] at same
    cases same
    exact fresh within

end RecordCoding
