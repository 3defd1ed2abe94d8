import RecordCoding.Proofs.Lines
import RecordCoding.Proofs.Source.Carrying

/-!
# Refusals in one line

What a reader says where it refuses is one line, since its words are set down in the grammar and do
not repeat anything of the source. Every way to put readers together keeps it so, and most readers
are seen to be of this kind by looking at their parts.
-/

namespace RecordCoding.Source

open Text

/-! ## Errors -/

/-- The texts in an error are lines. -/
def SyntaxError.IsLine : SyntaxError → Prop
  | unlexable | leftover _ => True
  | missing text | reserved text | refused text _ => isLine text = true
  | expected alternatives _ => ∀ text ∈ alternatives, isLine text = true

@[simp] theorem SyntaxError.isLine_leftover (delimiter : Option Delimiter) :
    (leftover delimiter).IsLine := trivial

@[simp] theorem SyntaxError.isLine_missing_iff (text : String) :
    (missing text).IsLine ↔ isLine text = true := Iff.rfl

@[simp] theorem SyntaxError.isLine_reserved_iff (text : String) :
    (reserved text).IsLine ↔ isLine text = true := Iff.rfl

@[simp] theorem SyntaxError.isLine_refused_iff (text : String) (atEnd : Bool) :
    (refused text atEnd).IsLine ↔ isLine text = true := Iff.rfl

/-- A message about a place is as good as the words in it. -/
theorem SyntaxError.isLine_located {atEnd : Bool} {message : String}
    (line : isLine message = true) : isLine (located atEnd message) = true := by
  unfold located
  split
  · have words : isLine "unexpected end of input, " = true := isLine_ofList rfl
    rw [isLine_append, words, line]
    rfl
  · exact line

/-- The message is one as well then. -/
theorem SyntaxError.IsLine.message {e : SyntaxError} (line : e.IsLine) :
    isLine e.message = true := by
  unfold SyntaxError.message
  split
  · exact isLine_ofList rfl
  · exact isLine_between (isLine_ofList rfl) line (isLine_ofList rfl)
  · split <;> exact isLine_ofList rfl
  · rename_i only atEnd
    have words : isLine "expected " = true := isLine_ofList rfl
    refine isLine_located ?_
    rw [isLine_append, words, line only (by simp)]
    rfl
  · rename_i first second atEnd
    have front : isLine ("expected " ++ first ++ " or ") = true :=
      isLine_between (isLine_ofList rfl) (line first (by simp)) (isLine_ofList rfl)
    refine isLine_located ?_
    rw [isLine_append, front, line second (by simp)]
    rfl
  · rename_i alternatives atEnd _ _ _
    have words : isLine "expected one of: " = true := isLine_ofList rfl
    refine isLine_located ?_
    rw [isLine_append, words, isLine_intercalate (isLine_ofList rfl) line]
    rfl
  · exact isLine_between (isLine_ofList rfl) line (isLine_ofList rfl)
  · exact isLine_ofList rfl
  · rename_i delimiter
    have closing : isLine (String.singleton delimiter.closing) = true := by
      cases delimiter <;> decide
    exact isLine_between (isLine_ofList rfl) closing (isLine_ofList rfl)
  · exact isLine_located line

namespace Parser

variable {α β : Type} {p : Parser α} {c : Cursor}

/-- If a reader refuses where it is started, it says so in one line. -/
def Terse (p : Parser α) (c : Cursor) : Prop := ∀ e, (p.start c).1 = .error e → e.IsLine

/-! ## Putting readers together -/

@[simp] theorem terse_pure (a : α) : Terse (pure a : Parser α) c := nofun

@[simp] theorem terse_throw (e : SyntaxError) : Terse (throw e : Parser α) c ↔ e.IsLine := by
  constructor
  · exact fun terse => terse e rfl
  · rintro line _ ⟨⟩
    exact line

@[simp] theorem terse_bind {k : α → Parser β} : Terse (p >>= k) c ↔
    Terse p c ∧ ∀ a c', p.start c = (.ok a, c') → Terse (k a) c' := by
  rcases first : p.start c with ⟨e | a, c'⟩
  · simp [Terse, start_bind_of_error first, first]
  · simp [Terse, start_bind_of_ok first, first]

@[simp] theorem terse_map {f : α → β} : Terse (f <$> p) c ↔ Terse p c := by
  have sequence : f <$> p = p >>= fun a => pure (f a) := rfl
  rw [sequence, terse_bind]
  simp

@[simp] theorem terse_ite {q : Parser α} {condition : Prop} [Decidable condition] :
    Terse (if condition then p else q) c ↔ if condition then Terse p c else Terse q c := by
  split <;> rfl

@[simp] theorem terse_ahead : Terse ahead c := nofun

@[simp] theorem terse_sees (test : List Token → Bool) : Terse (sees test) c := nofun

@[simp] theorem terse_atEnd : Terse atEnd c := nofun

@[simp] theorem terse_emit (tokens : List Token) : Terse (emit tokens) c := nofun

@[simp] theorem terse_skip (count : Nat) : Terse (skip count) c := nofun

@[simp] theorem terse_attempt (p : Parser α) : Terse (attempt p) c := nofun

@[simp] theorem terse_refuse (rule : String) :
    Terse (refuse rule : Parser α) c ↔ isLine rule = true := by
  constructor
  · exact fun terse => terse _ rfl
  · rintro line _ ⟨⟩
    exact line

@[simp] theorem terse_expect (alternatives : List String) :
    Terse (expect alternatives : Parser α) c ↔ ∀ text ∈ alternatives, isLine text = true := by
  constructor
  · exact fun terse => terse _ rfl
  · rintro lines _ ⟨⟩
    exact lines

/-- Alternatives that are left out need not be looked at. -/
theorem terse_expectUnmet {alternatives : List (String × (List Token → Bool))}
    (lines : ∀ one ∈ alternatives, isLine one.1 = true) :
    Terse (expectUnmet alternatives : Parser α) c := by
  simp only [expectUnmet, terse_bind, terse_ahead, terse_expect, true_and]
  rintro tokens _ - text member
  obtain ⟨one, inside, rfl⟩ := List.mem_map.mp member
  exact lines one (List.mem_filter.mp inside).1

/-! ## Keeping a record -/

/-- Only what a reader comes to matters. -/
theorem terse_congr {q : Parser α} {d : Cursor} (same : (p.start c).1 = (q.start d).1) :
    Terse p c ↔ Terse q d := by
  simp only [Terse, same]

@[simp] theorem terse_get : Terse (get : Parser Cursor) c := nofun

@[simp] theorem terse_modify (f : Cursor → Cursor) : Terse (modify f : Parser PUnit) c := nofun

@[simp] theorem terse_capture : Terse (capture p) c ↔ Terse p { c with written := [] } := by
  have opened : Terse (capture p) c ↔ Terse (p >>= fun a => do
      let tokens := (← get).written.reverse
      modify ({ · with written := c.written })
      pure (a, tokens)) { c with written := [] } := terse_congr rfl
  simp [opened]

@[simp] theorem terse_recorded : Terse (recorded p) c ↔ Terse p { c with written := [] } := by
  simp [recorded]

@[simp] theorem terse_sourced : Terse (sourced p) c ↔ Terse p c := by
  have opened : Terse (sourced p) c ↔ Terse (p >>= fun a => do
      pure (a, c.rest.take (c.rest.length - (← ahead).length))) c := terse_congr rfl
  simp [opened]

@[simp] theorem terse_verbatimIf {test : α → Bool} :
    Terse (verbatimIf test p) c ↔ Terse p { c with written := [] } := by
  simp [verbatimIf]

@[simp] theorem terse_verbatim : Terse (verbatim p) c ↔ Terse p { c with written := [] } := by
  simp [verbatim]

/-! ## Repetition -/

@[simp] theorem terse_iterate {step : α → Parser (Option α)} (steps : ∀ a c, Terse (step a) c)
    (a : α) : Terse (iterate step a) c := by
  have rounds (bound : Nat) (a : α) (c : Cursor) : Terse (iterate.go step bound a) c := by
    induction bound generalizing a c with
    | zero => simp [iterate.go]
    | succ bound ih =>
      rw [iterate.go, terse_bind]
      refine ⟨steps a c, fun next c' _ => ?_⟩
      cases next with
      | none => simp
      | some next => exact ih next c'
  simp [iterate, rounds]

@[simp] theorem terse_repeated {step : Parser (Option α)} (steps : ∀ c, Terse step c) :
    Terse (repeated step) c := by
  have rounds (found : List α) (c : Cursor) :
      Terse ((Option.map (· :: found)) <$> step) c := by simp [steps]
  simp [repeated, terse_iterate rounds]

@[simp] theorem terse_whileSees {test : List Token → Bool} {item : Parser α}
    (items : ∀ c, Terse item c) : Terse (whileSees test item) c :=
  terse_repeated fun c => by simp [items]

/-! ## Tokens -/

@[simp] theorem terse_mark {expected : String} (line : isLine expected = true) :
    Terse (mark expected) c := by
  simp [mark, line]

@[simp] theorem terse_mark? {expected : String} (line : isLine expected = true) :
    Terse (mark? expected) c := by
  simp [mark?, line]

@[simp] theorem terse_markIf {condition : Bool} {expected : String}
    (line : isLine expected = true) : Terse (markIf condition expected) c := by
  simp [markIf, line]

@[simp] theorem terse_word {expected : String} (line : isLine expected = true) :
    Terse (word expected) c := by
  have quotes : isLine "`" = true := isLine_ofList rfl
  simp [word, line, quotes]

@[simp] theorem terse_word? {expected : String} (line : isLine expected = true) :
    Terse (word? expected) c := by
  simp [word?, line]

@[simp] theorem terse_anyWord : Terse anyWord c := by
  simp only [anyWord, terse_bind, terse_ahead, true_and]
  intro tokens c' _
  split <;> simp +decide

/-- The words that are reserved are lines. -/
theorem isLine_of_reserved {word : String} (reserved : isName word = false) :
    isLine word = true := by
  have all : reservedWords.all isLine = true := by decide +kernel
  simp only [isName, Bool.not_eq_false', List.contains_iff_mem] at reserved
  exact List.all_eq_true.mp all word reserved

@[simp] theorem terse_name : Terse name c := by
  simp only [name, terse_bind, terse_ahead, true_and]
  intro tokens c' _
  split
  · split
    · simp
    · rename_i reserved
      simpa using isLine_of_reserved (Bool.eq_false_iff.mpr reserved)
  · simp +decide

@[simp] theorem terse_lifetime : Terse lifetime c := by
  simp only [lifetime, terse_bind, terse_ahead, true_and]
  intro tokens c' _
  split <;> simp +decide

@[simp] theorem terse_lifetime? : Terse lifetime? c := by
  simp [lifetime?]

@[simp] theorem terse_literal : Terse literal c := by
  simp only [literal, terse_bind, terse_ahead, true_and]
  intro tokens c' _
  split
  · simp
  · split
    · split <;> simp
    · simp +decide

/-! ## Groups -/

/-- The kinds of groups are called by lines. -/
theorem isLine_name (delimiter : Delimiter) : isLine delimiter.name = true := by
  cases delimiter <;> exact isLine_ofList rfl

/-- A reader of a group is as good as what reads the content. -/
@[simp] theorem terse_group {delimiter : Delimiter} : Terse (group delimiter p) c ↔
    ∀ content tail, c.rest = .group delimiter content :: tail →
      Terse p ⟨content, [], c.leftover⟩ := by
  obtain ⟨rest, written, leftover⟩ := c
  match rest with
  | .group found content :: tail =>
    by_cases same : found = delimiter
    · subst same
      have inside : ((group found p).start ⟨.group found content :: tail, written, leftover⟩).1 =
          (p.start ⟨content, [], leftover⟩).1 := by
        rw [start_group]
      rw [terse_congr inside]
      simp
    · rw [group, terse_bind]
      simp [same, start_ahead, isLine_name]
  | [] | .ident _ :: _ | .literal _ :: _ | .punct .. :: _ =>
    rw [group, terse_bind]
    simp [start_ahead, isLine_name]

@[simp] theorem terse_anyGroup : Terse anyGroup c := by
  simp only [anyGroup, terse_bind, terse_ahead, true_and]
  intro tokens c' _
  split <;> simp +decide

@[simp] theorem terse_terminated {item : Parser α} {separator : String}
    (line : isLine separator = true) (items : ∀ c, Terse item c) :
    Terse (terminated item separator) c :=
  terse_repeated fun c => by simp [items, line]

@[simp] theorem terse_everything : Terse everything c := by
  simp [everything]

end Parser

end RecordCoding.Source
