import RecordCoding.Proofs.Source.Outlook

/-!
# Reading where the tokens go on

What a reader makes of an item must not depend on what stands behind the item, and a deeper grammar
must not read it differently. Both are one relation between two readers: whatever the first one
reads, the second one reads in the same way where the tokens go on, and leaves the same tokens in
front. Every way to put readers together keeps the relation, so that it is found for a reader by
looking at its parts.
-/

namespace RecordCoding.Source

/-- The cursor with further tokens behind those in front. -/
def Cursor.before (cursor : Cursor) (behind : List Token) : Cursor :=
  { cursor with rest := cursor.rest ++ behind }

@[simp] theorem Cursor.before_nil (cursor : Cursor) : cursor.before [] = cursor := by
  simp [before]

namespace Parser

/-! ## Sequences -/

section Start

variable {α β : Type} {p : Parser α} {k : α → Parser β} {c c' : Cursor}

/-- A sequence is its first reader, and then the second one if the first did not refuse. -/
theorem start_bind (p : Parser α) (k : α → Parser β) (c : Cursor) :
    (p >>= k).start c =
      @ExceptT.bindCont _ (StateM Cursor) _ _ _ k (p.start c).1 (p.start c).2 := rfl

theorem start_bind_of_ok {a : α} (first : p.start c = (.ok a, c')) :
    (p >>= k).start c = (k a).start c' := by
  rw [start_bind, first]
  rfl

theorem start_bind_of_error {e : SyntaxError} (first : p.start c = (.error e, c')) :
    (p >>= k).start c = (.error e, c') := by
  rw [start_bind, first]
  rfl

/-- Where a sequence has a result, both of its readers have one. -/
theorem of_start_bind {b : β} {c'' : Cursor} (whole : (p >>= k).start c = (.ok b, c'')) :
    ∃ a c', p.start c = (.ok a, c') ∧ (k a).start c' = (.ok b, c'') := by
  rcases first : p.start c with ⟨e | a, c'⟩
  · rw [start_bind_of_error first] at whole
    cases whole
  · rw [start_bind_of_ok first] at whole
    exact ⟨a, c', rfl, whole⟩

/-- A test of the tokens in front leaves the cursor where it is. -/
theorem start_sees (test : List Token → Bool) (c : Cursor) :
    (sees test).start c = (.ok (test c.rest), c) := rfl

/-- A look at the tokens in front does the same. -/
theorem start_ahead (c : Cursor) : ahead.start c = (.ok c.rest, c) := rfl

end Start

/-! ## The relation -/

/-- What one reader reads, another one reads in the same way where the tokens go on. -/
class Carries {α : Type} (behind : List Token) (p q : Parser α) : Prop where
  carry : ∀ {c c' : Cursor} {a : α}, p.start c = (.ok a, c') →
    c'.rest <:+ c.rest ∧ q.start (c.before behind) = (.ok a, c'.before behind)

section Relation

variable {α β : Type} {behind : List Token} {p q : Parser α}

/-- What was read leaves a last part of the tokens in front. -/
theorem Carries.suffix (behind : List Token) (q : Parser α) [Carries behind p q] {c c' : Cursor}
    {a : α} (read : p.start c = (.ok a, c')) : c'.rest <:+ c.rest :=
  (‹Carries behind p q›.carry read).1

/-! ## Putting readers together -/

instance carries_pure (a : α) : Carries behind (pure a : Parser α) (pure a) where
  carry read := by
    cases read
    exact ⟨List.suffix_rfl, rfl⟩

instance carries_throw (e : SyntaxError) : Carries behind (throw e : Parser α) q where
  carry read := by cases read

instance carries_bind (k l : α → Parser β) [Carries behind p q]
    [then_ : ∀ a, Carries behind (k a) (l a)] : Carries behind (p >>= k) (q >>= l) where
  carry read := by
    obtain ⟨a, c', first, second⟩ := of_start_bind read
    obtain ⟨suffix, reads⟩ := ‹Carries behind p q›.carry first
    obtain ⟨suffix', reads'⟩ := (then_ a).carry second
    exact ⟨suffix'.trans suffix, (start_bind_of_ok reads).trans reads'⟩

/-- A sequence in which the result of the first reader is taken apart. -/
instance carries_bind_pair {γ : Type} {p q : Parser (α × γ)} (k l : α × γ → Parser β)
    [Carries behind p q] [then_ : ∀ a b, Carries behind (k (a, b)) (l (a, b))] :
    Carries behind (p >>= k) (q >>= l) :=
  @carries_bind _ _ _ _ _ k l _ fun pair => then_ pair.1 pair.2

instance carries_map (f : α → β) [Carries behind p q] :
    Carries behind (f <$> p) (f <$> q) :=
  carries_bind (fun a => pure (f a)) fun a => pure (f a)

instance carries_ite {r s : Parser α} (condition : Prop) [Decidable condition]
    [Carries behind p q] [Carries behind r s] :
    Carries behind (if condition then p else r) (if condition then q else s) := by
  by_cases holds : condition
  · simp only [if_pos holds]
    infer_instance
  · simp only [if_neg holds]
    infer_instance

/-- A choice that the result of a reader makes. -/
instance carries_choice {r s : Parser α} {first first' : Parser Bool}
    [Carries behind first first'] [Carries behind p q] [Carries behind r s] :
    Carries behind (first >>= fun holds => if holds = true then p else r)
      (first' >>= fun holds => if holds = true then q else s) :=
  carries_bind _ _

/-! ## Looking ahead -/

instance carries_sees (test : List Token → Bool) [Ahead.Steady behind test] :
    Carries behind (sees test) (sees test) where
  carry {c c' a} read := by
    cases read
    refine ⟨List.suffix_rfl, ?_⟩
    rw [start_sees]
    exact congrArg (fun seen => (Except.ok seen, c.before behind)) (Ahead.Steady.eq c.rest)

/-- What is done with the tokens in front, where it is done in the same way when these go on. -/
theorem carries_ahead {k l : List Token → Parser α}
    (then_ : ∀ tokens, Carries behind (k tokens) (l (tokens ++ behind))) :
    Carries behind (ahead >>= k) (ahead >>= l) where
  carry {c c' a} read := by
    rw [start_bind_of_ok (start_ahead c)] at read
    rw [start_bind_of_ok (start_ahead (c.before behind))]
    exact (then_ c.rest).carry read

/-- What is done with the result of a test, whatever the test turns out to be where the tokens go
on. -/
theorem carries_of_seen {test : List Token → Bool} {k l : Bool → Parser α}
    (then_ : ∀ c c' a, (k (test c.rest)).start c = (.ok a, c') → c'.rest <:+ c.rest ∧
      (l (test (c.rest ++ behind))).start (c.before behind) = (.ok a, c'.before behind)) :
    Carries behind (sees test >>= k) (sees test >>= l) where
  carry {c c' a} read := by
    rw [start_bind_of_ok (start_sees test c)] at read
    rw [start_bind_of_ok (start_sees test (c.before behind))]
    exact then_ c c' a read

/-- Where a test may turn out differently when the tokens go on, there must be nothing to read. -/
theorem carries_sees_unless {test : List Token → Bool} {k l : Bool → Parser α}
    (then_ : ∀ seen, Carries behind (k seen) (l seen))
    (nothing : ∀ c, test (c.rest ++ behind) ≠ test c.rest →
      ∀ a c', (k (test c.rest)).start c ≠ (.ok a, c')) :
    Carries behind (sees test >>= k) (sees test >>= l) := by
  refine carries_of_seen fun c c' a read => ?_
  by_cases same : test (c.rest ++ behind) = test c.rest
  · rw [same]
    exact (then_ _).carry read
  · exact absurd read (nothing c same a c')

instance carries_atEnd : Carries [] atEnd atEnd :=
  carries_sees List.isEmpty

/-- With no tokens going on, what was seen is the same. -/
instance carries_ahead_nil {k l : List Token → Parser α}
    [then_ : ∀ tokens, Carries [] (k tokens) (l tokens)] :
    Carries [] (ahead >>= k) (ahead >>= l) :=
  carries_ahead fun tokens => by
    rw [List.append_nil]
    exact then_ tokens

/-! ## Keeping a record -/

instance carries_emit (tokens : List Token) : Carries behind (emit tokens) (emit tokens) where
  carry {c c' a} read := by
    obtain ⟨-, rfl⟩ := Prod.mk.inj read
    exact ⟨List.suffix_rfl, rfl⟩

/-- What is read out of the record is read with an empty one, and the record is as before. -/
theorem start_capture_of_ok {p : Parser α} {c c' : Cursor} {a : α}
    (read : p.start { c with written := [] } = (.ok a, c')) :
    (capture p).start c = (.ok (a, c'.written.reverse), { c' with written := c.written }) := by
  have opened : (capture p).start c = (p >>= fun a => do
      let tokens := (← get).written.reverse
      modify ({ · with written := c.written })
      pure (a, tokens)).start { c with written := [] } := rfl
  rw [opened, start_bind_of_ok read]
  rfl

/-- Where something is read out of the record, there is something to read with an empty one. -/
theorem of_start_capture {p : Parser α} {c c' : Cursor} {result : α × List Token}
    (read : (capture p).start c = (.ok result, c')) :
    ∃ after, p.start { c with written := [] } = (.ok result.1, after) ∧
      result.2 = after.written.reverse ∧ c' = { after with written := c.written } := by
  rcases inner : p.start { c with written := [] } with ⟨e | a, after⟩
  · have opened : (capture p).start c = (p >>= fun a => do
        let tokens := (← get).written.reverse
        modify ({ · with written := c.written })
        pure (a, tokens)).start { c with written := [] } := rfl
    rw [opened, start_bind_of_error inner] at read
    cases read
  · rw [start_capture_of_ok inner] at read
    cases read
    exact ⟨after, rfl, rfl, rfl⟩

instance carries_capture [Carries behind p q] : Carries behind (capture p) (capture q) where
  carry {c c' result} read := by
    obtain ⟨after, inner, tokens, rfl⟩ := of_start_capture read
    obtain ⟨suffix, reads⟩ := ‹Carries behind p q›.carry inner
    refine ⟨suffix, ?_⟩
    have alone : q.start { c.before behind with written := [] } =
        (.ok result.1, after.before behind) := reads
    rw [start_capture_of_ok alone]
    exact congrArg (fun result => (Except.ok result, _)) (Prod.ext rfl tokens.symm)

instance carries_recorded [Carries behind p q] : Carries behind (recorded p) (recorded q) := by
  dsimp only [recorded]
  infer_instance

/-- Where the tokens that were passed over are asked for, something was read. -/
theorem of_start_sourced {p : Parser α} {c c' : Cursor} {result : α × List Token}
    (read : (sourced p).start c = (.ok result, c')) :
    p.start c = (.ok result.1, c') ∧
      result.2 = c.rest.take (c.rest.length - c'.rest.length) := by
  have opened : (sourced p).start c = (p >>= fun a => do
      pure (a, c.rest.take (c.rest.length - (← ahead).length))).start c := rfl
  rw [opened] at read
  obtain ⟨a, after, inner, rest⟩ := of_start_bind read
  cases rest
  exact ⟨inner, rfl⟩

/-- The tokens that were passed over are a first part of those in front. -/
theorem start_sourced_of_ok {p : Parser α} {c c' : Cursor} {a : α}
    (read : p.start c = (.ok a, c')) :
    (sourced p).start c =
      (.ok (a, c.rest.take (c.rest.length - c'.rest.length)), c') := by
  have opened : (sourced p).start c = (p >>= fun a => do
      pure (a, c.rest.take (c.rest.length - (← ahead).length))).start c := rfl
  rw [opened, start_bind_of_ok read]
  rfl

instance carries_sourced [Carries behind p q] : Carries behind (sourced p) (sourced q) where
  carry {c c' result} read := by
    obtain ⟨inner, tokens⟩ := of_start_sourced read
    obtain ⟨suffix, reads⟩ := ‹Carries behind p q›.carry inner
    refine ⟨suffix, ?_⟩
    have passed : (c.rest ++ behind).take
        ((c.rest ++ behind).length - (c'.rest ++ behind).length) = result.2 := by
      rw [tokens, List.length_append, List.length_append, Nat.add_sub_add_right,
        List.take_append_of_le_length (Nat.sub_le ..)]
    rw [start_sourced_of_ok reads]
    exact congrArg (fun tokens => (Except.ok (result.1, tokens), _)) passed

instance carries_verbatimIf (test : α → Bool) [Carries behind p q] :
    Carries behind (verbatimIf test p) (verbatimIf test q) := by
  have outcome (a : α) (canonical source : List Token) : Carries behind
      (do emit (if test a then source else canonical); pure a)
      (do emit (if test a then source else canonical); pure a) := inferInstance
  dsimp only [verbatimIf]
  exact @carries_bind_pair _ _ _ _ _ _ _ _ _ fun pair source => outcome pair.1 pair.2 source

instance carries_verbatim [Carries behind p q] : Carries behind (verbatim p) (verbatim q) := by
  dsimp only [verbatim]
  infer_instance

end Relation

/-! ## Repetition -/

section Repetition

variable {α : Type} {behind : List Token}

/-- A further round is no harm where the rounds were enough. -/
theorem carries_go {step step' : α → Parser (Option α)}
    [steps : ∀ a, Carries behind (step a) (step' a)] {bound bound' : Nat}
    (deep : bound ≤ bound') (a : α) :
    Carries behind (iterate.go step bound a) (iterate.go step' bound' a) := by
  induction bound generalizing bound' a with
  | zero => exact carries_throw _
  | succ bound ih =>
    obtain ⟨bound', rfl⟩ := Nat.exists_eq_succ_of_ne_zero (Nat.ne_of_gt (Nat.lt_of_lt_of_le
      (Nat.succ_pos bound) deep))
    refine @carries_bind _ _ _ _ _ _ _ (steps a) fun next => ?_
    cases next with
    | none => exact carries_pure a
    | some next => exact ih (Nat.le_of_succ_le_succ deep) next

instance carries_iterate {step step' : α → Parser (Option α)}
    [steps : ∀ a, Carries behind (step a) (step' a)] (a : α) :
    Carries behind (iterate step a) (iterate step' a) :=
  carries_ahead fun _ => carries_go
    (Nat.succ_le_succ (List.length_append ▸ Nat.le_add_right ..)) a

instance carries_repeated {step step' : Parser (Option α)} [Carries behind step step'] :
    Carries behind (repeated step) (repeated step') := by
  dsimp only [repeated]
  infer_instance

instance carries_whileSees (test : List Token → Bool) {item item' : Parser α}
    [Ahead.Steady behind test] [Carries behind item item'] :
    Carries behind (whileSees test item) (whileSees test item') := by
  dsimp only [whileSees]
  infer_instance

end Repetition

/-! ## Single tokens -/

section Tokens

variable {behind : List Token}

instance carries_refuse {α : Type} (rule : String) {q : Parser α} :
    Carries behind (refuse rule) q where
  carry read := by cases read

instance carries_expect {α : Type} (alternatives : List String) {q : Parser α} :
    Carries behind (expect alternatives) q where
  carry read := by cases read

instance carries_expectUnmet {α : Type} (alternatives : List (String × (List Token → Bool)))
    {q : Parser α} : Carries behind (expectUnmet alternatives) q where
  carry read := by cases read

/-- Tokens are passed over in the same way where more tokens go on behind them. -/
theorem before_drop {c : Cursor} {count : Nat} (inside : count ≤ c.rest.length)
    (written : List Token) :
    { c.before behind with rest := (c.before behind).rest.drop count, written } =
      Cursor.before { c with rest := c.rest.drop count, written } behind := by
  unfold Cursor.before
  rw [List.drop_append_of_le_length inside]

/-- What passes over tokens in front does so where more tokens go on behind them. -/
theorem carry_skip {α : Type} {k : Unit → Parser α} [then_ : ∀ u, Carries behind (k u) (k u)]
    {count : Nat} {c c' : Cursor} {a : α} (inside : count ≤ c.rest.length)
    (read : (skip count >>= k).start c = (.ok a, c')) : c'.rest <:+ c.rest ∧
      (skip count >>= k).start (c.before behind) = (.ok a, c'.before behind) := by
  have passed (c : Cursor) :
      (skip count).start c = (.ok (), { c with rest := c.rest.drop count }) := rfl
  rw [start_bind_of_ok (passed c)] at read
  obtain ⟨suffix, reads⟩ := (then_ ()).carry read
  refine ⟨suffix.trans (List.drop_suffix ..), ?_⟩
  rw [start_bind_of_ok (passed _), ← reads]
  exact congrArg (k ()).start (before_drop inside c.written)

/-- Punctuation that comes next is passed over and written down. -/
theorem start_mark_of_seen {expected : String} {c : Cursor}
    (seen : Ahead.mark expected c.rest = true) :
    (Parser.mark expected).start c = (.ok (), { c with
      rest := c.rest.drop expected.length
      written := (Token.ofPunctuation expected.toList).reverse ++ c.written }) := by
  unfold Parser.mark
  rw [start_bind_of_ok (start_sees _ c), seen]
  rfl

/-- Punctuation that does not come next is refused. -/
theorem start_mark_of_unseen {expected : String} {c : Cursor}
    (unseen : Ahead.mark expected c.rest = false) :
    (Parser.mark expected).start c = (.error (.missing expected), c) := by
  unfold Parser.mark
  rw [start_bind_of_ok (start_sees _ c), unseen]
  rfl

instance carries_mark (expected : String) :
    Carries behind (Parser.mark expected) (Parser.mark expected) where
  carry {c c' a} read := by
    cases seen : Ahead.mark expected c.rest with
    | false =>
      rw [start_mark_of_unseen seen] at read
      cases read
    | true =>
      obtain ⟨still, short⟩ := Ahead.marks_append seen behind
      rw [start_mark_of_seen seen] at read
      cases read
      have inside : expected.length ≤ c.rest.length := by
        rwa [String.length_toList] at short
      refine ⟨List.drop_suffix .., ?_⟩
      have going : Ahead.mark expected (c.before behind).rest = true := still
      rw [start_mark_of_seen going]
      exact congrArg (Prod.mk (Except.ok ())) (before_drop inside _)

instance carries_mark? (expected : String) [Ahead.Steady behind (Ahead.mark expected)] :
    Carries behind (mark? expected) (mark? expected) := by
  dsimp only [mark?]
  infer_instance

instance carries_markIf (condition : Bool) (expected : String)
    [Ahead.Steady behind (Ahead.mark expected)] :
    Carries behind (markIf condition expected) (markIf condition expected) := by
  dsimp only [markIf]
  infer_instance

instance carries_anyWord : Carries behind anyWord anyWord where
  carry {c c' a} read := by
    obtain ⟨rest, written, leftover⟩ := c
    match rest with
    | .ident found :: rest =>
      cases read
      exact ⟨List.suffix_cons .., rfl⟩
    | [] | .literal _ :: _ | .punct .. :: _ | .group .. :: _ => cases read

/-- A word that comes next is passed over and written down. -/
theorem start_word_of_seen {expected : String} {c : Cursor}
    (seen : Ahead.word expected c.rest = true) :
    (Parser.word expected).start c = (.ok (), { c with
      rest := c.rest.drop 1
      written := [Token.ident expected].reverse ++ c.written }) := by
  unfold Parser.word
  rw [start_bind_of_ok (start_sees _ c), seen]
  rfl

instance carries_word (expected : String) [Behind behind] :
    Carries behind (Parser.word expected) (Parser.word expected) where
  carry {c c' a} read := by
    cases seen : Ahead.word expected c.rest with
    | false =>
      rw [Parser.word, start_bind_of_ok (start_sees _ c), seen] at read
      cases read
    | true =>
      have still : Ahead.word expected (c.rest ++ behind) = true :=
        (Ahead.Steady.eq c.rest).trans seen
      have inside : 1 ≤ c.rest.length := by
        by_contra none
        rw [List.length_eq_zero_iff.mp (Nat.lt_one_iff.mp (Nat.lt_of_not_le none))] at seen
        cases seen
      rw [start_word_of_seen seen] at read
      cases read
      refine ⟨List.drop_suffix .., ?_⟩
      have going : Ahead.word expected (c.before behind).rest = true := still
      rw [start_word_of_seen going]
      exact congrArg (Prod.mk (Except.ok ())) (before_drop inside _)

instance carries_word? (expected : String) [Behind behind] :
    Carries behind (word? expected) (word? expected) := by
  dsimp only [word?]
  infer_instance

instance carries_name : Carries behind name name := by
  refine carries_ahead fun tokens => ?_
  match tokens with
  | .ident found :: _ => exact carries_ite _
  | [] | .literal _ :: _ | .punct .. :: _ | .group .. :: _ => exact carries_expect _

instance carries_lifetime : Carries behind lifetime lifetime where
  carry {c c' a} read := by
    rw [lifetime, start_bind_of_ok (start_ahead c)] at read
    obtain ⟨rest, written, leftover⟩ := c
    split at read
    · rename_i joined found tail same
      cases same
      cases read
      exact ⟨(List.suffix_cons ..).trans (List.suffix_cons ..), rfl⟩
    · cases read

instance carries_lifetime? [Behind behind] : Carries behind lifetime? lifetime? := by
  dsimp only [lifetime?]
  infer_instance

/-- A truth value is a literal, whatever follows it. -/
theorem start_literal_truth {found : String} (truth : (found == "true" || found == "false") = true)
    (tail written : List Token) (leftover : Option Delimiter) :
    literal.start ⟨.ident found :: tail, written, leftover⟩ =
      (.ok none, ⟨tail, .ident found :: written, leftover⟩) := by
  rw [literal, start_bind_of_ok (start_ahead _)]
  exact congrArg (fun p => start p ⟨.ident found :: tail, written, leftover⟩) (if_pos truth)

/-- A number with a sign is a literal, whatever follows it. -/
theorem start_literal_signed {text : String} (number : (Literal.numberKind? text).isSome = true)
    (joined : Bool) (tail written : List Token) (leftover : Option Delimiter) :
    literal.start ⟨.punct '-' joined :: .literal text :: tail, written, leftover⟩ =
      (.ok none, ⟨tail, .literal text :: .punct '-' false :: written, leftover⟩) := by
  rw [literal, start_bind_of_ok (start_ahead _)]
  exact congrArg (fun p => start p ⟨.punct '-' joined :: .literal text :: tail, written, leftover⟩)
    (if_pos number)

/-- What is no literal is not read as one. -/
theorem start_literal_of_unseen {c : Cursor} {a : Option String} {c' : Cursor}
    (unseen : Ahead.literal c.rest = false) : literal.start c ≠ (.ok a, c') := by
  intro read
  rw [literal, start_bind_of_ok (start_ahead c)] at read
  split at read
  · rename_i same
    rw [same] at unseen
    cases unseen
  · rw [if_neg (by rw [unseen]; exact Bool.false_ne_true)] at read
    cases read

instance carries_literal : Carries behind literal literal where
  carry {c c' a} read := by
    have seen : Ahead.literal c.rest = true := by
      by_contra unseen
      exact start_literal_of_unseen (Bool.not_eq_true _ |>.mp unseen) read
    obtain ⟨rest, written, leftover⟩ := c
    unfold Ahead.literal at seen
    split at seen
    · rename_i text tail same
      cases same
      cases read
      exact ⟨List.suffix_cons .., rfl⟩
    · rename_i found tail same
      cases same
      rw [start_literal_truth seen] at read
      cases read
      exact ⟨List.suffix_cons .., start_literal_truth seen ..⟩
    · rename_i joined text tail same
      cases same
      rw [start_literal_signed seen] at read
      cases read
      exact ⟨(List.suffix_cons ..).trans (List.suffix_cons ..), start_literal_signed seen ..⟩
    · cases seen

instance carries_anyGroup : Carries behind anyGroup anyGroup where
  carry {c c' a} read := by
    rw [anyGroup, start_bind_of_ok (start_ahead c)] at read
    obtain ⟨rest, written, leftover⟩ := c
    split at read
    · rename_i delimiter content tail same
      cases same
      cases read
      exact ⟨List.suffix_cons .., rfl⟩
    · cases read

end Tokens

/-! ## Groups -/

section Groups

variable {α : Type} {behind : List Token} {p q : Parser α}

/-- The cursor behind a group, given where the reader of its content stopped. -/
def closing (cursor : Cursor) (delimiter : Delimiter)
    (after : Cursor) : Cursor where
  rest := cursor.rest.drop 1
  written := .group delimiter after.written.reverse :: cursor.written
  leftover := after.leftover.or (if after.rest.isEmpty then none else some delimiter)

/-- What is in a group of the kind is read with its own cursor. -/
theorem start_group (delimiter : Delimiter) (content tail written : List Token)
    (leftover : Option Delimiter) :
    (group delimiter p).start ⟨.group delimiter content :: tail, written, leftover⟩ =
      ((p.start ⟨content, [], leftover⟩).1,
        closing ⟨.group delimiter content :: tail, written, leftover⟩ delimiter
          (p.start ⟨content, [], leftover⟩).2) := by
  rw [group, start_bind_of_ok (start_ahead _)]
  exact congrArg (fun p => start p ⟨.group delimiter content :: tail, written, leftover⟩)
    (if_pos rfl)

/-- Where a group was read, its content was. -/
theorem of_start_group {delimiter : Delimiter} {c c' : Cursor} {a : α}
    (read : (group delimiter p).start c = (.ok a, c')) :
    ∃ content tail after, c.rest = .group delimiter content :: tail ∧
      p.start ⟨content, [], c.leftover⟩ = (.ok a, after) ∧ c' = closing c delimiter after := by
  obtain ⟨rest, written, leftover⟩ := c
  match rest with
  | .group found content :: tail =>
    by_cases same : found = delimiter
    · subst same
      rw [start_group] at read
      obtain ⟨outcome, rfl⟩ := Prod.mk.inj read
      exact ⟨content, tail, _, rfl, Prod.ext outcome rfl, rfl⟩
    · rw [group, start_bind_of_ok (start_ahead _)] at read
      have refused : start (expect [delimiter.name])
          ⟨.group found content :: tail, written, leftover⟩ = (.ok a, c') :=
        (congrArg (fun p => start p ⟨.group found content :: tail, written, leftover⟩)
          (if_neg same)).symm.trans read
      cases refused
  | [] | .ident _ :: _ | .literal _ :: _ | .punct .. :: _ => cases read

/-- What is behind a group does not reach its content. -/
instance carries_group (delimiter : Delimiter) [Carries [] p q] :
    Carries behind (group delimiter p) (group delimiter q) where
  carry {c c' a} read := by
    obtain ⟨content, tail, after, group, inner, rfl⟩ := of_start_group read
    obtain ⟨rest, written, leftover⟩ := c
    cases group
    obtain ⟨-, going⟩ := ‹Carries [] p q›.carry inner
    rw [Cursor.before_nil, Cursor.before_nil] at going
    have reads := @start_group _ q delimiter content (tail ++ behind) written leftover
    rw [going] at reads
    exact ⟨List.suffix_cons .., reads⟩

/-- Items up to the end of a group. -/
instance carries_terminated (separator : String) [Carries [] p q] :
    Carries [] (terminated p separator) (terminated q separator) := by
  dsimp only [terminated]
  infer_instance

instance carries_everything : Carries [] everything everything where
  carry {c c' a} read := by
    cases read
    rw [Cursor.before_nil, Cursor.before_nil]
    exact ⟨List.drop_suffix .., rfl⟩

end Groups

end Parser
end RecordCoding.Source
