import RecordCoding.Proofs.Source.Carrying

/-!
# What a reader takes

A reader takes some tokens if it reads them off the front, whatever the record and the groups
before. Every way to put readers together says what is taken by the whole, so that a reader is
shown to accept a text by going through its parts.
-/

namespace RecordCoding.Source

namespace Parser

variable {α β : Type} {p q : Parser α} {tokens rest further : List Token} {a : α} {b : β}
  {out out' : List Token}

/-- A reader reads a result off the front of tokens, up to a rest, and writes tokens down. -/
def Takes (p : Parser α) (tokens rest : List Token) (a : α) (out : List Token) : Prop :=
  ∀ written leftover,
    p.start ⟨tokens, written, leftover⟩ = (.ok a, ⟨rest, out.reverse ++ written, leftover⟩)

/-- Where everything is taken, the reading of the tokens has that result. -/
theorem Takes.readAll_eq (takes : Takes p tokens [] a out) : readAll p tokens = .ok (a, out) := by
  have read := takes [] none
  rw [List.append_nil] at read
  simp [readAll, read]

/-! ## Sequences and choices -/

theorem takes_pure (a : α) (tokens : List Token) : Takes (pure a) tokens tokens a [] :=
  fun _ _ => rfl

theorem takes_bind {k : α → Parser β} (first : Takes p tokens rest a out)
    (second : Takes (k a) rest further b out') :
    Takes (p >>= k) tokens further b (out ++ out') := by
  intro written leftover
  rw [start_bind_of_ok (first written leftover), second, List.reverse_append, List.append_assoc]

/-- A sequence in which the second reader writes nothing. -/
theorem takes_then {k : α → Parser β} (first : Takes p tokens rest a out)
    (second : Takes (k a) rest further b []) : Takes (p >>= k) tokens further b out := by
  have whole := takes_bind first second
  rwa [List.append_nil] at whole

/-- A sequence in which the first reader writes nothing. -/
theorem takes_after {k : α → Parser β} (first : Takes p tokens rest a [])
    (second : Takes (k a) rest further b out) : Takes (p >>= k) tokens further b out :=
  takes_bind first second

theorem takes_map (f : α → β) (takes : Takes p tokens rest a out) :
    Takes (f <$> p) tokens rest (f a) out :=
  takes_then takes (takes_pure (f a) rest)

/-- A test of the tokens in front takes nothing. -/
theorem takes_sees {test : List Token → Bool} {seen : Bool} (holds : test tokens = seen) :
    Takes (sees test) tokens tokens seen [] := by
  intro written leftover
  rw [start_sees, holds]
  rfl

/-- A choice is made by what is seen. -/
theorem takes_seen {test : List Token → Bool} (seen : test tokens = true)
    (then_ : Takes p tokens rest a out) :
    Takes (sees test >>= fun holds => if holds = true then p else q) tokens rest a out :=
  takes_after (takes_sees seen) (by rwa [if_pos rfl])

/-- The other choice is made by what is not seen. -/
theorem takes_unseen {test : List Token → Bool} (unseen : test tokens = false)
    (else_ : Takes q tokens rest a out) :
    Takes (sees test >>= fun holds => if holds = true then p else q) tokens rest a out :=
  takes_after (takes_sees unseen) (by rwa [if_neg Bool.false_ne_true])

/-! ## The record -/

theorem takes_emit (out tokens : List Token) : Takes (emit out) tokens tokens () out :=
  fun _ _ => rfl

/-- What is captured is not written. -/
theorem takes_capture (takes : Takes p tokens rest a out) :
    Takes (capture p) tokens rest (a, out) [] := by
  intro written leftover
  have alone := takes [] leftover
  rw [List.append_nil] at alone
  rw [start_capture_of_ok alone, List.reverse_reverse]
  rfl

/-- What is recorded is written. -/
theorem takes_recorded (takes : Takes p tokens rest a out) :
    Takes (recorded p) tokens rest (a, out) out :=
  takes_after (takes_capture takes)
    (takes_then (takes_emit out rest) (takes_pure (a, out) rest))

/-- Where what was read fails a test, it is written in canonical form. -/
theorem takes_verbatimIf {test : α → Bool} (fails : test a = false)
    (takes : Takes p tokens rest a out) : Takes (verbatimIf test p) tokens rest a out := by
  intro written leftover
  have captured := start_sourced_of_ok (takes_capture takes written leftover)
  have kept : (if test a then tokens.take (tokens.length - rest.length) else out) = out := by
    rw [fails, if_neg Bool.false_ne_true]
  rw [verbatimIf, start_bind_of_ok captured]
  dsimp only
  rw [kept]
  exact takes_then (takes_emit out rest) (takes_pure a rest) written leftover

/-! ## Repetition -/

/-- The turns of a step that is repeated until it gives nothing. -/
inductive Turns (step : α → Parser (Option α)) :
    α → List Token → List Token → α → List Token → Prop
  | stop {a : α} {tokens : List Token} (none : Takes (step a) tokens tokens none []) :
      Turns step a tokens tokens a []
  | more {a b c : α} {tokens rest further out out' : List Token}
      (first : Takes (step a) tokens rest (some b) out) (shorter : rest.length < tokens.length)
      (others : Turns step b rest further c out') : Turns step a tokens further c (out ++ out')

/-- A step is repeated as long as it gives something. -/
theorem Turns.takes {step : α → Parser (Option α)} {a b : α}
    (turns : Turns step a tokens rest b out) : Takes (iterate step a) tokens rest b out := by
  have bounded {bound : Nat} (room : tokens.length < bound) :
      Takes (iterate.go step bound a) tokens rest b out := by
    induction turns generalizing bound with
    | stop none =>
      obtain ⟨bound, rfl⟩ := Nat.exists_eq_succ_of_ne_zero (Nat.ne_zero_of_lt room)
      exact takes_then none (takes_pure _ _)
    | more first shorter others ih =>
      obtain ⟨bound, rfl⟩ := Nat.exists_eq_succ_of_ne_zero (Nat.ne_zero_of_lt room)
      exact takes_bind first (ih (by omega))
  have looked : Takes ahead tokens tokens tokens [] := fun _ _ => rfl
  exact takes_after looked (bounded (Nat.lt_succ_self _))

/-- The rounds of a step that is repeated until it gives nothing, with what it gives. -/
inductive Rounds (step : Parser (Option α)) :
    List Token → List Token → List α → List Token → Prop
  | stop {tokens : List Token} (none : Takes step tokens tokens none []) :
      Rounds step tokens tokens [] []
  | more {tokens rest further : List Token} {a : α} {as : List α} {out out' : List Token}
      (first : Takes step tokens rest (some a) out) (shorter : rest.length < tokens.length)
      (others : Rounds step rest further as out') :
      Rounds step tokens further (a :: as) (out ++ out')

/-- The results of the rounds are collected, the last first. -/
theorem Rounds.turns {step : Parser (Option α)} {as : List α}
    (rounds : Rounds step tokens rest as out) (found : List α) :
    Turns (fun found => do return (← step).map (· :: found)) found tokens rest
      (as.reverse ++ found) out := by
  induction rounds generalizing found with
  | stop none => exact .stop (takes_then none (takes_pure _ _))
  | more first shorter others ih =>
    rw [List.reverse_cons, List.append_assoc]
    exact .more (takes_then first (takes_pure _ _)) shorter (ih _)

/-- What a step gives is collected. -/
theorem Rounds.takes {step : Parser (Option α)} {as : List α}
    (rounds : Rounds step tokens rest as out) : Takes (repeated step) tokens rest as out := by
  have all := (rounds.turns []).takes
  rw [List.append_nil] at all
  refine takes_then all ?_
  rw [List.reverse_reverse]
  exact takes_pure as rest

/-! ## Single tokens -/

/-- Punctuation that comes next is taken. -/
theorem takes_mark {expected : String} (seen : Ahead.mark expected tokens = true) :
    Takes (mark expected) tokens (tokens.drop expected.length) ()
      (Token.ofPunctuation expected.toList) :=
  fun _ _ => start_mark_of_seen seen

/-- Punctuation that may come next is taken. -/
theorem takes_mark?_of_seen {expected : String} (seen : Ahead.mark expected tokens = true) :
    Takes (mark? expected) tokens (tokens.drop expected.length) true
      (Token.ofPunctuation expected.toList) :=
  takes_seen seen (takes_then (takes_mark seen) (takes_pure true _))

/-- Punctuation that does not come next is not missed. -/
theorem takes_mark?_of_unseen {expected : String} (unseen : Ahead.mark expected tokens = false) :
    Takes (mark? expected) tokens tokens false [] :=
  takes_unseen unseen (takes_pure false tokens)

/-- A certain word is taken. -/
theorem takes_word (expected : String) (rest : List Token) :
    Takes (word expected) (.ident expected :: rest) rest () [.ident expected] :=
  fun _ _ => start_word_of_seen (by simp [Ahead.word])

/-- A word that may come next is taken. -/
theorem takes_word?_of_seen (expected : String) (rest : List Token) :
    Takes (word? expected) (.ident expected :: rest) rest true [.ident expected] :=
  takes_seen (by simp [Ahead.word]) (takes_then (takes_word expected rest) (takes_pure true rest))

/-- A word that does not come next is not missed. -/
theorem takes_word?_of_unseen {expected : String} (unseen : Ahead.word expected tokens = false) :
    Takes (word? expected) tokens tokens false [] :=
  takes_unseen unseen (takes_pure false tokens)

/-- A lifetime is taken. -/
theorem takes_lifetime (name : String) (rest : List Token) :
    Takes lifetime (.punct '\'' true :: .ident name :: rest) rest ()
      [.punct '\'' true, .ident name] := fun _ _ => rfl

/-- A lifetime that may come next is taken. -/
theorem takes_lifetime?_of_seen (name : String) (rest : List Token) :
    Takes lifetime? (.punct '\'' true :: .ident name :: rest) rest true
      [.punct '\'' true, .ident name] :=
  takes_seen rfl (takes_then (takes_lifetime name rest) (takes_pure true rest))

/-- A lifetime that does not come next is not missed. -/
theorem takes_lifetime?_of_unseen (unseen : Ahead.lifetime tokens = false) :
    Takes lifetime? tokens tokens false [] :=
  takes_unseen unseen (takes_pure false tokens)

/-- A literal is taken. -/
theorem takes_literal (text : String) (rest : List Token) :
    Takes literal (.literal text :: rest) rest (some text) [.literal text] := fun _ _ => rfl

/-- A truth value is taken as a literal. -/
theorem takes_literal_truth {found : String} (truth : (found == "true" || found == "false") = true)
    (rest : List Token) : Takes literal (.ident found :: rest) rest none [.ident found] :=
  fun written leftover => start_literal_truth truth rest written leftover

/-- A number with a sign is taken as a literal. -/
theorem takes_literal_signed {text : String} (number : (Literal.numberKind? text).isSome = true)
    (joined : Bool) (rest : List Token) :
    Takes literal (.punct '-' joined :: .literal text :: rest) rest none
      [.punct '-' false, .literal text] :=
  fun written leftover => start_literal_signed number joined rest written leftover

/-- Whether anything is left. -/
theorem takes_atEnd (tokens : List Token) : Takes atEnd tokens tokens tokens.isEmpty [] :=
  fun _ _ => rfl

/-- A name is taken. -/
theorem takes_name {found : String} (named : isName found = true) (rest : List Token) :
    Takes name (.ident found :: rest) rest found [.ident found] := by
  intro written leftover
  rw [name, start_bind_of_ok (start_ahead _)]
  dsimp only
  rw [if_pos named]
  rfl

/-! ## Groups -/

/-- A group is taken if all of its content is. -/
theorem takes_group {delimiter : Delimiter} {content : List Token}
    (takes : Takes p content [] a out) (rest : List Token) :
    Takes (group delimiter p) (.group delimiter content :: rest) rest a [.group delimiter out] := by
  intro written leftover
  rw [start_group, takes [] leftover, List.append_nil]
  simp [closing]

end Parser

end RecordCoding.Source
