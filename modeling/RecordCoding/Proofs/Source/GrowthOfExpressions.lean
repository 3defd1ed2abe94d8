import RecordCoding.Proofs.Source.Growth

/-!
# Deeper grammars: patterns and expressions

An expression may look further ahead than to its next token: to what is behind the parameters that
a loop could introduce. If these are cut off by the end of the tokens, and a comma goes on behind
them, something else is seen, but there is nothing to read in either case.
-/

namespace RecordCoding.Source

open Source.Parser

set_option synthInstance.maxSize 100000

section

variable {behind : List Token} [Behind behind] {g g' : Grammar} [Grows g g']

/-! ## Patterns -/

instance carries_alternatives : Carries behind (alternatives g) (alternatives g') := by
  dsimp only [alternatives]
  infer_instance

/-- A position is read as it is, whatever follows it. -/
theorem start_member_of_index {text : String} {index : Nat}
    (integer : Literal.numberKind? text = some .integer) (read : Literal.index text = .ok index)
    (tail written : List Token) (leftover : Option Delimiter) :
    member.start ⟨.literal text :: tail, written, leftover⟩ =
      (.ok false, ⟨tail, .literal (toString index) :: written, leftover⟩) := by
  rw [member, start_bind_of_ok (start_ahead _)]
  dsimp only
  rw [if_pos integer, read]
  rfl

instance carries_member : Carries behind member member where
  carry {c c' a} read := by
    rw [member, start_bind_of_ok (start_ahead c)] at read
    obtain ⟨rest, written, leftover⟩ := c
    split at read
    · rename_i text tail same
      cases same
      split at read
      · rename_i integer
        split at read
        · rename_i index found
          cases read
          exact ⟨List.suffix_cons .., start_member_of_index integer found ..⟩
        · cases read
      · cases read
    · split at read <;> cases read
    · rename_i other signed
      have named : Carries behind
          (if Ahead.name rest then (do let _ ← name; pure true)
            else refuse "expected identifier or integer" : Parser Bool)
          (if Ahead.name rest then (do let _ ← name; pure true)
            else refuse "expected identifier or integer" : Parser Bool) := inferInstance
      obtain ⟨suffix, reads⟩ := named.carry read
      refine ⟨suffix, ?_⟩
      match rest with
      | .ident found :: tail => exact reads
      | [] | .literal _ :: _ | .punct .. :: _ | .group .. :: _ => cases read

instance carries_rangeBound : Carries behind (rangeBound g) (rangeBound g') := by
  dsimp only [rangeBound]
  infer_instance

instance carries_rangeDots : Carries behind rangeDots rangeDots := by
  dsimp only [rangeDots]
  refine @carries_choice _ _ _ _ _ _ _ _ _ _ (carries_of_seen fun c c' a read => ?_)
  rw [Ahead.Steady.eq (f := Ahead.mark "...")]
  cases seen : Ahead.mark "..." c.rest with
  | true =>
    rw [seen] at read
    exact carry_skip (Ahead.marks_append seen []).2 read
  | false =>
    rw [seen] at read
    have plain : Carries behind (do mark ".."; pure false) (do mark ".."; pure false) :=
      inferInstance
    exact plain.carry read

instance carries_rangeRest : Carries behind (rangeRest g) (rangeRest g') := by
  dsimp only [rangeRest]
  infer_instance

instance carries_rangeWithoutStart :
    Carries behind (rangeWithoutStart g) (rangeWithoutStart g') := by
  dsimp only [rangeWithoutStart]
  infer_instance

instance carries_fieldPattern : Carries [] (fieldPattern g) (fieldPattern g') := by
  dsimp only [fieldPattern]
  infer_instance

instance carries_fieldPatterns : Carries [] (fieldPatterns g) (fieldPatterns g') := by
  dsimp only [fieldPatterns]
  infer_instance

instance carries_sliceElement : Carries [] (sliceElement g) (sliceElement g') := by
  dsimp only [sliceElement]
  infer_instance

instance carries_pathPattern : Carries behind (pathPattern g) (pathPattern g') := by
  dsimp only [pathPattern]
  infer_instance

instance carries_boundPattern : Carries behind (boundPattern g) (boundPattern g') := by
  dsimp only [boundPattern]
  infer_instance

instance carries_bindingPattern : Carries behind (bindingPattern g) (bindingPattern g') := by
  dsimp only [bindingPattern]
  infer_instance

instance carries_patternIn : Carries behind (patternIn g) (patternIn g') := by
  dsimp only [patternIn]
  infer_instance

/-! ## Operators -/

/-- Whether a reader moves on does not depend on what goes on behind the tokens. -/
instance carries_progress {α : Type} {p q : Parser α} [Carries behind p q] :
    Carries behind
      (do
        let before := (← ahead).length
        let a ← p
        pure (if (← ahead).length < before then some a else none))
      (do
        let before := (← ahead).length
        let a ← q
        pure (if (← ahead).length < before then some a else none)) where
  carry {c c' a} read := by
    rw [start_bind_of_ok (start_ahead c)] at read
    obtain ⟨b, after, inner, rest⟩ := of_start_bind read
    cases rest
    obtain ⟨suffix, reads⟩ := ‹Carries behind p q›.carry inner
    refine ⟨suffix, ?_⟩
    rw [start_bind_of_ok (start_ahead _), start_bind_of_ok reads, start_bind_of_ok (start_ahead _)]
    have shifted : (c'.before behind).rest.length < (c.before behind).rest.length ↔
        c'.rest.length < c.rest.length := by
      simp [Cursor.before]
    exact congrArg (fun result => (Except.ok result, c'.before behind))
      (if_congr shifted rfl rfl)

instance carries_rightOperand (place : Place) (precedence : Precedence) :
    Carries behind (rightOperand g place precedence) (rightOperand g' place precedence) := by
  dsimp only [rightOperand]
  refine @carries_bind _ _ _ _ _ _ _ _ fun first => @carries_iterate _ _ _ _ (fun right => ?_) _
  refine carries_ahead fun tokens => ?_
  rw [Ahead.Steady.eq (f := Ahead.precedence)]
  infer_instance

instance carries_rangeMark : Carries behind rangeMark rangeMark := by
  dsimp only [rangeMark]
  infer_instance

instance carries_rangeFromDots (place : Place) :
    Carries behind (rangeFromDots g place) (rangeFromDots g' place) := by
  dsimp only [rangeFromDots]
  infer_instance

omit [Behind behind] in
/-- A reader that has nothing but refusals. -/
theorem carries_refusals {α : Type} {p q r : Parser α} (condition : Prop) [Decidable condition]
    [Carries behind p r] [Carries behind q r] : Carries behind (if condition then p else q) r := by
  by_cases holds : condition
  · rwa [if_pos holds]
  · rwa [if_neg holds]

instance carries_endOfCast : Carries behind endOfCast endOfCast := by
  dsimp only [endOfCast]
  refine carries_ahead fun tokens => ?_
  rw [Ahead.Steady.eq (f := Ahead.selection), Ahead.Steady.eq (f := Ahead.mark "?"),
    Ahead.Steady.eq (f := Ahead.group .bracket), Ahead.Steady.eq (f := Ahead.group .parenthesis)]
  have selected : Carries behind
      (if Ahead.word "await" (Ahead.next tokens) then
        refuse ("casts cannot be followed by " ++ "`.await`")
      else if Ahead.name (Ahead.next tokens) &&
          (Ahead.group .parenthesis (Ahead.next (Ahead.next tokens)) ||
            Ahead.mark "::" (Ahead.next (Ahead.next tokens))) then
        refuse ("casts cannot be followed by " ++ "a method call")
      else refuse ("casts cannot be followed by " ++ "a field access"))
      (if Ahead.word "await" (Ahead.next (tokens ++ behind)) then
        refuse ("casts cannot be followed by " ++ "`.await`")
      else if Ahead.name (Ahead.next (tokens ++ behind)) &&
          (Ahead.group .parenthesis (Ahead.next (Ahead.next (tokens ++ behind))) ||
            Ahead.mark "::" (Ahead.next (Ahead.next (tokens ++ behind)))) then
        refuse ("casts cannot be followed by " ++ "a method call")
      else refuse ("casts cannot be followed by " ++ "a field access") : Parser Unit) :=
    @carries_refusals _ _ _ _ _ _ _ inferInstance (carries_refusals _)
  infer_instance

instance carries_castOf (operand : Expression) :
    Carries behind (castOf g operand) (castOf g' operand) := by
  dsimp only [castOf]
  infer_instance

instance carries_continued (left : Expression) (form : ExpressionForm) {p q : Parser Unit}
    [Carries behind p q] : Carries behind (continued left form p) (continued left form q) := by
  dsimp only [continued]
  infer_instance

instance carries_operatorStep (place : Place) (least : Precedence) (left : Expression) :
    Carries behind (operatorStep g place least left) (operatorStep g' place least left) := by
  dsimp only [operatorStep]
  refine @carries_ite _ _ _ _ _ _ _ _ _ (carries_ahead fun tokens => ?_)
  rw [Ahead.Steady.eq (f := Ahead.operator?)]
  cases Ahead.operator? tokens with
  | none => infer_instance
  | some found => infer_instance

instance carries_operatorsIn (place : Place) (least : Precedence) (left : Expression) :
    Carries behind (operatorsIn g place least left) (operatorsIn g' place least left) := by
  dsimp only [operatorsIn]
  infer_instance

omit [Behind behind] in
/-- A number with a fraction is taken apart in the same way where the tokens go on. -/
theorem carry_selectPositions {text : String} {c c' : Cursor} {goesOn : Bool}
    (inside : 1 ≤ c.rest.length) (read : (selectPositions text).start c = (.ok goesOn, c')) :
    c'.rest <:+ c.rest ∧
      (selectPositions text).start (c.before behind) = (.ok goesOn, c'.before behind) := by
  dsimp only [selectPositions] at read ⊢
  have lifted (outcome : Except SyntaxError (List Nat × Bool)) (c : Cursor) :
      start (liftM outcome) c = (outcome, c) := rfl
  generalize positions text = outcome at read ⊢
  cases outcome with
  | error e =>
    rw [start_bind_of_error (lifted _ c)] at read
    cases read
  | ok found =>
    rw [start_bind_of_ok (lifted _ c)] at read
    rw [start_bind_of_ok (lifted _ _)]
    exact carry_skip inside read

instance carries_callArguments : Carries behind (callArguments g) (callArguments g') := by
  dsimp only [callArguments]
  infer_instance

instance carries_selected : Carries behind (selected g) (selected g') := by
  dsimp only [selected]
  infer_instance

instance carries_selection : Carries behind (selection g) (selection g') := by
  dsimp only [selection]
  refine @carries_bind _ _ _ _ _ _ _ _ fun _ => ⟨fun {c c' a} read => ?_⟩
  rw [start_bind_of_ok (start_ahead c)] at read
  rw [start_bind_of_ok (start_ahead _)]
  have plain : Carries behind (selected g) (selected g') := inferInstance
  obtain ⟨rest, written, leftover⟩ := c
  split at read
  · rename_i text tail same
    cases same
    split at read
    · rename_i fractional
      obtain ⟨goesOn, after, taken, further⟩ := of_start_bind read
      obtain ⟨suffix, reads⟩ := @carry_selectPositions behind _ _ _ _ (by simp) taken
      have follows : Carries behind (if goesOn then selected g else pure ())
        (if goesOn then selected g' else pure ()) := inferInstance
      obtain ⟨suffix', reads'⟩ := follows.carry further
      refine ⟨suffix'.trans suffix, ?_⟩
      exact (congrArg (fun p => start p _) (if_pos fractional)).trans
        ((start_bind_of_ok reads).trans reads')
    · rename_i whole
      obtain ⟨suffix, reads⟩ := plain.carry read
      exact ⟨suffix, (congrArg (fun p => start p _) (if_neg whole)).trans reads⟩
  · rename_i joined text tail same
    cases same
    split at read
    · cases read
    · rename_i whole
      obtain ⟨suffix, reads⟩ := plain.carry read
      exact ⟨suffix, (congrArg (fun p => start p _) (if_neg whole)).trans reads⟩
  · rename_i tokens unnumbered unsigned
    obtain ⟨suffix, reads⟩ := plain.carry read
    refine ⟨suffix, ?_⟩
    split
    · rename_i text tail same
      exfalso
      match rest with
      | [] => cases ‹Behind behind› <;> cases same
      | first :: rest =>
        cases same
        exact unnumbered _ _ rfl
    · rename_i joined text tail same
      exfalso
      match rest with
      | [] | [_] => cases ‹Behind behind› <;> cases same
      | first :: second :: rest =>
        cases same
        exact unsigned _ _ _ rfl
    · exact reads

instance carries_callStep (form : ExpressionForm) :
    Carries behind (callStep g form) (callStep g' form) := by
  dsimp only [callStep]
  infer_instance

instance carries_callsBehind (form : ExpressionForm) :
    Carries behind (callsBehind g form) (callsBehind g' form) := by
  dsimp only [callsBehind]
  infer_instance

/-! ## Expressions -/

instance carries_conditional : Carries behind (conditional g) (conditional g') := by
  dsimp only [conditional]
  infer_instance

instance carries_arm : Carries [] (arm g) (arm g') := by
  dsimp only [arm]
  infer_instance

instance carries_distinction : Carries behind (distinction g) (distinction g') := by
  dsimp only [distinction]
  infer_instance

instance carries_labelled : Carries behind (labelled g) (labelled g') := by
  dsimp only [labelled]
  infer_instance

instance carries_selfEnding : Carries behind (selfEnding g) (selfEnding g') := by
  dsimp only [selfEnding]
  infer_instance

instance carries_leadingIn : Carries [] (leadingIn g) (leadingIn g') := by
  dsimp only [leadingIn]
  infer_instance

instance carries_fieldValue : Carries [] (fieldValue g) (fieldValue g') := by
  dsimp only [fieldValue]
  infer_instance

instance carries_fieldValues : Carries [] (fieldValues g) (fieldValues g') := by
  dsimp only [fieldValues]
  infer_instance

instance carries_pathExpression (admitsStruct : Bool) :
    Carries behind (pathExpression g admitsStruct) (pathExpression g' admitsStruct) := by
  dsimp only [pathExpression]
  infer_instance

instance carries_builtInExpression : Carries behind builtInExpression builtInExpression := by
  dsimp only [builtInExpression]
  infer_instance

instance carries_closureArgument : Carries behind (closureArgument g) (closureArgument g') := by
  dsimp only [closureArgument]
  infer_instance

instance carries_closure (place : Place) : Carries behind (closure g place) (closure g' place) := by
  dsimp only [closure]
  infer_instance

instance carries_enclosedExpression :
    Carries behind (enclosedExpression g) (enclosedExpression g') := by
  dsimp only [enclosedExpression]
  infer_instance

instance carries_arrayExpression : Carries behind (arrayExpression g) (arrayExpression g') := by
  dsimp only [arrayExpression]
  infer_instance

instance carries_breakExpression (place : Place) :
    Carries behind (breakExpression g place) (breakExpression g' place) := by
  have labelled : Ahead.Steady behind fun tokens =>
      Ahead.lifetime tokens && Ahead.mark ":" (Ahead.next tokens) := Ahead.steady_next rfl
  dsimp only [breakExpression]
  infer_instance

instance carries_letExpression (place : Place) :
    Carries behind (letExpression g place) (letExpression g' place) := by
  dsimp only [letExpression]
  infer_instance

section Cut

variable {g : Grammar} [exacting : Exacting g] {rest written : List Token}
  {leftover : Option Delimiter} {c' : Cursor} (cut : Ahead.Cut rest)

include cut

/-- Parameters that are cut off are no pattern, with alternatives or without. -/
theorem not_alternatives_of_cut {form : PatternForm} :
    (alternatives g).start ⟨rest, written, leftover⟩ ≠ (.ok form, c') := by
  intro read
  have unmarked : (alternatives g).start ⟨rest, written, leftover⟩ = (g.pattern >>= fun first => do
      let more ← repeated do
        if ← sees Ahead.alternative then
          mark "|"
          some <$> g.pattern
        else pure none
      pure (if false || !more.isEmpty then .other else first)).start ⟨rest, written, leftover⟩ := by
    cases cut <;> rfl
  rw [unmarked] at read
  obtain ⟨first, after, pattern, -⟩ := of_start_bind read
  exact exacting.pattern cut pattern

/-- A loop over parameters that are cut off is not read. -/
theorem not_selfEnding_of_cut :
    (selfEnding g).start ⟨.ident "for" :: rest, written, leftover⟩ ≠ (.ok (), c') := by
  intro read
  have loop : (selfEnding g).start ⟨.ident "for" :: rest, written, leftover⟩ =
      (alternatives g >>= fun _ => do
        word "in"
        let _ ← g.subject
        let _ ← attributedBlock g).start ⟨rest, .ident "for" :: written, leftover⟩ := rfl
  rw [loop] at read
  obtain ⟨form, after, pattern, -⟩ := of_start_bind read
  exact not_alternatives_of_cut cut pattern

/-- An expression that ends itself is not read from a loop over parameters that are cut off. -/
theorem not_ending_of_cut {form : ExpressionForm} {q : Parser ExpressionForm} :
    (sees Ahead.selfEnding >>= fun seen =>
      if seen = true then (do selfEnding g; pure .block) else q).start
        ⟨.ident "for" :: rest, written, leftover⟩ ≠ (.ok form, c') := by
  intro read
  rw [start_bind_of_ok (start_sees _ _), Ahead.selfEnding_of_cut cut] at read
  obtain ⟨_, after, ended, -⟩ := of_start_bind read
  exact not_selfEnding_of_cut cut ended

end Cut

omit [Behind behind] in
/-- Where a test turns out differently when the tokens go on, there is a loop over parameters that
are cut off. -/
theorem cut_of_differs {test : List Token → Bool} {c : Cursor}
    (same : (∀ rest, c.rest = .ident "for" :: rest → ¬ Ahead.Cut rest) →
      test (c.rest ++ behind) = test c.rest)
    (differs : test (c.rest ++ behind) ≠ test c.rest) :
    ∃ rest, c.rest = .ident "for" :: rest ∧ Ahead.Cut rest := by
  by_contra none
  exact differs (same fun rest loop cut => none ⟨rest, loop, cut⟩)

/-- An expression that ends itself, or something else. -/
theorem carries_ending {p q : Parser ExpressionForm} [Carries behind p q] : Carries behind
    (sees Ahead.selfEnding >>= fun seen =>
      if seen = true then (do selfEnding g; pure .block) else p)
    (sees Ahead.selfEnding >>= fun seen =>
      if seen = true then (do selfEnding g'; pure .block) else q) := by
  have := Grows.exacting (g := g) g'
  refine carries_sees_unless (fun seen => inferInstance) fun c differs form c' read => ?_
  obtain ⟨rest, loop, cut⟩ := cut_of_differs Ahead.selfEnding_append differs
  obtain ⟨_, written, leftover⟩ := c
  cases loop
  exact not_ending_of_cut (q := p) cut
    ((start_bind_of_ok (start_sees _ _)).trans read)

/-- A closure, or something else that cannot be read from a loop over parameters that are cut
off. -/
theorem carries_closureOr {place : Place} {p q : Parser ExpressionForm} [Carries behind p q]
    (nothing : ∀ {rest written leftover form c'}, Ahead.Cut rest →
      p.start ⟨.ident "for" :: rest, written, leftover⟩ ≠ (.ok form, c')) : Carries behind
    (sees (fun ts => !Ahead.selfEnding ts && Ahead.closure ts) >>= fun seen =>
      if seen = true then (do closure g place; pure .other) else p)
    (sees (fun ts => !Ahead.selfEnding ts && Ahead.closure ts) >>= fun seen =>
      if seen = true then (do closure g' place; pure .other) else q) := by
  refine carries_sees_unless (fun seen => inferInstance) fun c differs form c' read => ?_
  have same (uncut : ∀ rest, c.rest = .ident "for" :: rest → ¬ Ahead.Cut rest) :
      (!Ahead.selfEnding (c.rest ++ behind) && Ahead.closure (c.rest ++ behind)) =
        (!Ahead.selfEnding c.rest && Ahead.closure c.rest) := by
    rw [Ahead.selfEnding_append uncut, Ahead.closure_append uncut]
  obtain ⟨rest, loop, cut⟩ := @cut_of_differs _
    (fun tokens => !Ahead.selfEnding tokens && Ahead.closure tokens) _ same differs
  obtain ⟨_, written, leftover⟩ := c
  cases loop
  dsimp only at read
  rw [Ahead.selfEnding_of_cut cut] at read
  exact nothing cut read

instance carries_atom (place : Place) : Carries behind (atom g place) (atom g' place) := by
  have := Grows.exacting (g := g) g'
  have ending {p q : Parser ExpressionForm} [Carries behind p q] :=
    @carries_ending behind _ g g' _ p q _
  dsimp only [atom]
  refine @carries_choice _ _ _ _ _ _ _ _ _ _ (@carries_choice _ _ _ _ _ _ _ _ _ _
    (carries_closureOr fun {rest written leftover form c'} cut read => ?_))
  have tail := @not_ending_of_cut g _ rest written leftover c' cut form (do
    if ← sees (Ahead.mark "..") then
      rangeFromDots g place
      pure .range
    else if ← word? "_" then pure .other
    else refuse "expected an expression")
  cases cut <;> exact tail read

instance carries_referenceOperand (place : Place) :
    Carries behind (referenceOperand g place) (referenceOperand g' place) := by
  have raw : Ahead.Steady behind fun tokens => Ahead.word "raw" tokens &&
      (Ahead.word "mut" (Ahead.next tokens) || Ahead.word "const" (Ahead.next tokens)) :=
    Ahead.steady_next (g := fun tokens => Ahead.word "mut" tokens || Ahead.word "const" tokens) rfl
  dsimp only [referenceOperand]
  infer_instance

instance carries_calledAtom (place : Place) (isAttributed : Bool) :
    Carries behind (calledAtom g place isAttributed) (calledAtom g' place isAttributed) := by
  dsimp only [calledAtom]
  infer_instance

instance carries_operandForm (place : Place) :
    Carries behind (operandForm g place) (operandForm g' place) := by
  dsimp only [operandForm]
  infer_instance

instance carries_operandIn (place : Place) :
    Carries behind (operandIn g place) (operandIn g' place) := by
  dsimp only [operandIn]
  infer_instance

instance carries_expressionIn (place : Place) :
    Carries behind (expressionIn g place) (expressionIn g' place) := by
  dsimp only [expressionIn]
  infer_instance

end
end RecordCoding.Source
