import Mathlib.Data.List.Find
import RecordCoding.Source.Reading

/-!
# What is seen in front of a comma

A list of items is read item by item, and what an item is must not depend on whether a comma and
further items stand behind it. Readers decide by looking at the tokens in front; almost all of them
look for something that is no comma, or take a comma for the end of the tokens. So what they see
stays the same when the tokens go on with a comma.
-/

namespace RecordCoding.Source

/-- What may stand behind the tokens of an item: nothing, or a comma and further tokens. -/
class inductive Behind : List Token → Prop
  | nothing : Behind []
  | comma (joined : Bool) (further : List Token) : Behind (.punct ',' joined :: further)

attribute [instance] Behind.nothing Behind.comma

namespace Ahead

/-- What is seen stays the same when the tokens go on. -/
class Steady {β : Type} (behind : List Token) (f : List Token → β) : Prop where
  eq : ∀ tokens, f (tokens ++ behind) = f tokens

variable {behind : List Token}

/-- Nothing is changed by nothing. -/
instance steady_nil {β : Type} (f : List Token → β) : Steady [] f where
  eq tokens := by rw [List.append_nil]

/-! ## Combinations -/

instance steady_const {β : Type} (b : β) : Steady behind fun _ => b := ⟨fun _ => rfl⟩

instance steady_not (f : List Token → Bool) [Steady behind f] :
    Steady behind fun tokens => !f tokens where
  eq tokens := by rw [Steady.eq (f := f)]

instance steady_and (f g : List Token → Bool) [Steady behind f] [Steady behind g] :
    Steady behind fun tokens => f tokens && g tokens where
  eq tokens := by rw [Steady.eq (f := f), Steady.eq (f := g)]

instance steady_or (f g : List Token → Bool) [Steady behind f] [Steady behind g] :
    Steady behind fun tokens => f tokens || g tokens where
  eq tokens := by rw [Steady.eq (f := f), Steady.eq (f := g)]

/-! ## Single tokens -/

section FirstToken

variable [from_ : Behind behind]

/-- What is seen of the first token alone, and not of a comma, is steady. -/
theorem steady_of_first {f : List Token → Bool} (none : f [] = false)
    (comma : ∀ joined further, f (.punct ',' joined :: further) = false)
    (first : ∀ token tokens, f (token :: tokens) = f [token]) : Steady behind f where
  eq tokens := by
    cases tokens with
    | nil =>
      cases from_ with
      | nothing => rfl
      | comma joined further => exact (comma joined further).trans none.symm
    | cons token tokens =>
      rw [List.cons_append, first, first token tokens]

instance steady_anyWord : Steady behind anyWord :=
  steady_of_first rfl (fun _ _ => rfl) fun token _ => by cases token <;> rfl

instance steady_word (expected : String) : Steady behind (word expected) :=
  steady_of_first rfl (fun _ _ => rfl) fun token _ => by cases token <;> rfl

instance steady_name : Steady behind name :=
  steady_of_first rfl (fun _ _ => rfl) fun token _ => by cases token <;> rfl

instance steady_group (delimiter : Delimiter) : Steady behind (group delimiter) :=
  steady_of_first rfl (fun _ _ => rfl) fun token _ => by cases token <;> rfl

instance steady_anyGroup : Steady behind anyGroup :=
  steady_of_first rfl (fun _ _ => rfl) fun token _ => by cases token <;> rfl

instance steady_stringLiteral : Steady behind stringLiteral :=
  steady_of_first rfl (fun _ _ => rfl) fun token _ => by cases token <;> rfl

end FirstToken

/-! ## Punctuation -/

/-- Punctuation that is seen is still seen when the tokens go on, and it is all in front. -/
theorem marks_append {chars : List Char} {tokens : List Token}
    (seen : marks chars tokens = true) (behind : List Token) :
    marks chars (tokens ++ behind) = true ∧ chars.length ≤ tokens.length := by
  induction chars generalizing tokens with
  | nil => exact ⟨rfl, Nat.zero_le _⟩
  | cons c chars ih =>
    match tokens with
    | [] => cases chars <;> cases seen
    | .ident _ :: _ | .literal _ :: _ | .group .. :: _ => cases chars <;> cases seen
    | .punct found joined :: tokens =>
      cases chars with
      | nil => exact ⟨seen, by simp⟩
      | cons d chars =>
        simp only [marks, Bool.and_eq_true] at seen
        obtain ⟨still, short⟩ := ih seen.2
        refine ⟨?_, Nat.succ_le_succ short⟩
        simp only [List.cons_append, marks, Bool.and_eq_true]
        exact ⟨seen.1, still⟩

/-- Punctuation with no comma in it is seen if it is in front of what is behind. -/
theorem marks_of_append [from_ : Behind behind] {chars : List Char} {tokens : List Token}
    (free : ',' ∉ chars) (seen : marks chars (tokens ++ behind) = true) :
    marks chars tokens = true := by
  induction chars generalizing tokens with
  | nil => cases tokens <;> rfl
  | cons c chars ih =>
    obtain ⟨other, free⟩ := not_or.mp (fun here => free (List.mem_cons.mpr here))
    match tokens with
    | [] =>
      cases from_ with
      | nothing => exact seen
      | comma joined further => cases chars <;> simp [marks, Ne.symm other] at seen
    | .ident _ :: _ | .literal _ :: _ | .group .. :: _ => cases chars <;> cases seen
    | .punct found joined :: tokens =>
      cases chars with
      | nil => exact seen
      | cons d chars =>
        simp only [List.cons_append, marks, Bool.and_eq_true] at seen ⊢
        exact ⟨seen.1, ih free seen.2⟩

/-- Punctuation is steady if there is no comma in it. -/
theorem steady_mark [Behind behind] (expected : String) (free : ',' ∉ expected.toList) :
    Steady behind (mark expected) where
  eq tokens := by
    rw [Bool.eq_iff_iff]
    exact ⟨marks_of_append free, fun seen => (marks_append seen behind).1⟩

section Punctuation

variable [Behind behind]

instance : Steady behind (mark "::") := steady_mark _ (by decide)
instance : Steady behind (mark ":") := steady_mark _ (by decide)
instance : Steady behind (mark "=") := steady_mark _ (by decide)
instance : Steady behind (mark "=>") := steady_mark _ (by decide)
instance : Steady behind (mark "<") := steady_mark _ (by decide)
instance : Steady behind (mark "<=") := steady_mark _ (by decide)
instance : Steady behind (mark "<<=") := steady_mark _ (by decide)
instance : Steady behind (mark ">") := steady_mark _ (by decide)
instance : Steady behind (mark "->") := steady_mark _ (by decide)
instance : Steady behind (mark "+") := steady_mark _ (by decide)
instance : Steady behind (mark "-") := steady_mark _ (by decide)
instance : Steady behind (mark "-=") := steady_mark _ (by decide)
instance : Steady behind (mark "*") := steady_mark _ (by decide)
instance : Steady behind (mark "*=") := steady_mark _ (by decide)
instance : Steady behind (mark "&") := steady_mark _ (by decide)
instance : Steady behind (mark "&=") := steady_mark _ (by decide)
instance : Steady behind (mark "|") := steady_mark _ (by decide)
instance : Steady behind (mark "||") := steady_mark _ (by decide)
instance : Steady behind (mark "|=") := steady_mark _ (by decide)
instance : Steady behind (mark "!") := steady_mark _ (by decide)
instance : Steady behind (mark "!=") := steady_mark _ (by decide)
instance : Steady behind (mark "?") := steady_mark _ (by decide)
instance : Steady behind (mark "@") := steady_mark _ (by decide)
instance : Steady behind (mark "#") := steady_mark _ (by decide)
instance : Steady behind (mark ".") := steady_mark _ (by decide)
instance : Steady behind (mark "..") := steady_mark _ (by decide)
instance : Steady behind (mark "...") := steady_mark _ (by decide)
instance : Steady behind (mark "..=") := steady_mark _ (by decide)

end Punctuation

/-! ## Two tokens -/

section SecondToken

variable [from_ : Behind behind]

/-- What is seen of two tokens, and of no comma among them, is steady. -/
theorem steady_of_second {f : List Token → Bool} (none : f [] = false)
    (comma : ∀ joined further, f (.punct ',' joined :: further) = false)
    (last : ∀ token joined further, f (token :: .punct ',' joined :: further) = f [token])
    (second : ∀ token following tokens,
      f (token :: following :: tokens) = f [token, following]) : Steady behind f where
  eq tokens := by
    cases from_ with
    | nothing => rw [List.append_nil]
    | comma joined further =>
      match tokens with
      | [] => exact (comma joined further).trans none.symm
      | [token] => exact last token joined further
      | token :: following :: tokens =>
        rw [List.cons_append, List.cons_append, second, second token following tokens]

instance steady_lifetime : Steady behind lifetime := by
  refine steady_of_second rfl (fun _ _ => rfl) ?_ ?_
  · intro token joined further
    unfold lifetime
    split <;> simp_all
  · intro token following tokens
    unfold lifetime
    split <;> simp_all

instance steady_literal : Steady behind literal := by
  refine steady_of_second rfl (fun _ _ => rfl) ?_ ?_
  · intro token joined further
    unfold literal
    split <;> simp_all
  · intro token following tokens
    unfold literal
    split <;> simp_all

/-- A token counts for itself, unless it begins a lifetime. -/
theorem next_cons {first : Token} {tokens : List Token}
    (single : first = .punct '\'' true → anyWord tokens = false) :
    next (first :: tokens) = tokens := by
  unfold next
  split
  · rename_i word rest lifetime
    obtain ⟨rfl, rfl⟩ := List.cons.inj lifetime
    cases single rfl
  · rename_i other rest _ same
    exact (List.cons.inj same).2.symm
  · rename_i none
    cases none

/-- What is behind the first token, if there is one, goes on like the tokens. -/
theorem next_append {tokens : List Token} (some : tokens ≠ []) :
    next (tokens ++ behind) = next tokens ++ behind := by
  cases tokens with
  | nil => exact absurd rfl some
  | cons first tokens =>
    by_cases single : first = .punct '\'' true → anyWord tokens = false
    · have still : first = .punct '\'' true → anyWord (tokens ++ behind) = false := by
        rw [Steady.eq (f := anyWord)]
        exact single
      rw [List.cons_append, next_cons still, next_cons single]
    · obtain ⟨rfl, word⟩ := Classical.not_imp.mp single
      match tokens with
      | .ident _ :: _ => rfl
      | [] | .literal _ :: _ | .punct .. :: _ | .group .. :: _ => exact absurd rfl word

/-- What is seen behind a first token is steady where there is such a token. -/
theorem steady_next {f g : List Token → Bool} [Steady behind f] [Steady behind g]
    (first : f [] = false) : Steady behind fun tokens => f tokens && g (next tokens) where
  eq tokens := by
    cases tokens with
    | nil => rw [Steady.eq (f := f), first, Bool.false_and, Bool.false_and]
    | cons token tokens =>
      rw [Steady.eq (f := f), next_append (List.cons_ne_nil _ _), Steady.eq (f := g)]

/-- Behind a colon with another one, that other one comes next. -/
theorem mark_next_of_colons {tokens : List Token} (colons : mark "::" tokens = true) :
    mark ":" (next tokens) = true := by
  change marks [':', ':'] tokens = true at colons
  match tokens with
  | [] | .ident _ :: _ | .literal _ :: _ | .group .. :: _ => cases colons
  | .punct c joined :: tokens =>
    simp only [marks, Bool.and_eq_true, beq_iff_eq] at colons
    obtain ⟨⟨rfl, -⟩, second⟩ := colons
    rw [next_cons (by simp)]
    exact second

/-- What is seen behind two colons is steady where they are. -/
theorem steady_behindColons (g : List Token → Bool) [Steady behind g] :
    Steady behind fun tokens => mark "::" tokens && g (next (next tokens)) where
  eq tokens := by
    have second : Steady behind fun tokens => mark ":" tokens && g (next tokens) :=
      steady_next rfl
    have both : Steady behind fun tokens =>
        mark "::" tokens && (mark ":" (next tokens) && g (next (next tokens))) :=
      steady_next (g := fun tokens => mark ":" tokens && g (next tokens)) rfl
    have same (tokens : List Token) : (mark "::" tokens && g (next (next tokens))) =
        (mark "::" tokens && (mark ":" (next tokens) && g (next (next tokens)))) := by
      cases colons : mark "::" tokens with
      | false => rfl
      | true => rw [mark_next_of_colons colons, Bool.true_and, Bool.true_and]
    rw [same, same]
    exact both.eq tokens

end SecondToken

/-! ## The looks of the grammar -/

section Grammar

variable [from_ : Behind behind]

instance steady_pathRoot : Steady behind pathRoot := by
  unfold pathRoot
  infer_instance

instance steady_plainSegment : Steady behind plainSegment := by
  unfold plainSegment
  infer_instance

instance steady_constant : Steady behind constant := by
  unfold constant
  infer_instance

instance steady_announced : Steady behind announced := steady_behindColons (mark "<")

instance steady_invocation : Steady behind invocation := by
  unfold invocation
  infer_instance

instance steady_typePath : Steady behind typePath := by
  unfold typePath
  infer_instance

instance steady_functionType : Steady behind functionType := by
  unfold functionType
  infer_instance

instance steady_bound (rules : BoundRules) : Steady behind (bound rules) := by
  unfold bound
  infer_instance

instance steady_alternative : Steady behind alternative := by
  unfold alternative
  infer_instance

instance steady_assignment : Steady behind assignment := by
  unfold assignment
  infer_instance

instance steady_selection : Steady behind selection := by
  unfold selection
  infer_instance

instance steady_call : Steady behind call := by
  unfold call
  infer_instance

instance steady_expression : Steady behind expression := by
  unfold expression
  infer_instance

instance steady_builtIn : Steady behind builtIn := steady_next rfl

instance steady_asyncBlock : Steady behind asyncBlock := by
  have moved : Steady behind fun tokens =>
      group .brace tokens || (word "move" tokens && group .brace (next tokens)) := by
    have block : Steady behind fun tokens => word "move" tokens && group .brace (next tokens) :=
      steady_next rfl
    infer_instance
  exact steady_next (g := fun tokens =>
    group .brace tokens || (word "move" tokens && group .brace (next tokens))) rfl

instance steady_pathExpression : Steady behind pathExpression := by
  have invoked : Steady behind fun tokens =>
      word "try" tokens && (mark "!" (next tokens) || mark "::" (next tokens)) :=
    steady_next (g := fun tokens => mark "!" tokens || mark "::" tokens) rfl
  exact steady_or _ _

instance steady_pathPattern : Steady behind pathPattern := by
  have named : Steady behind fun tokens => name tokens && (mark "::" (next tokens) ||
      mark "!" (next tokens) || group .brace (next tokens) || group .parenthesis (next tokens) ||
      mark ".." (next tokens)) :=
    steady_next (g := fun tokens => mark "::" tokens || mark "!" tokens || group .brace tokens ||
      group .parenthesis tokens || mark ".." tokens) rfl
  have receiver : Steady behind fun tokens => word "self" tokens && mark "::" (next tokens) :=
    steady_next rfl
  unfold pathPattern
  infer_instance

instance steady_plainBlock : Steady behind plainBlock :=
  steady_of_first rfl (fun _ _ => rfl) fun token _ => by
    match token with
    | .group .brace _ | .group .bracket _ | .group .parenthesis _ => rfl
    | .ident _ | .literal _ | .punct .. => rfl

/-! ## A comma for the end -/

/-- Where there are tokens in front, punctuation is seen if it was, a comma included. -/
theorem mark_append {tokens : List Token} (some : tokens ≠ []) {expected : String}
    (single : expected = "," ∨ ',' ∉ expected.toList) :
    mark expected (tokens ++ behind) = mark expected tokens := by
  rcases single with rfl | free
  · cases tokens with
    | nil => exact absurd rfl some
    | cons token tokens => cases token <;> rfl
  · exact (steady_mark expected free).eq tokens

omit from_ in
/-- Tokens in front stay in front. -/
theorem isEmpty_append {tokens : List Token} (inside : tokens ≠ []) :
    (tokens ++ behind).isEmpty = tokens.isEmpty := by
  cases tokens with
  | nil => exact absurd rfl inside
  | cons token tokens => rfl

/-- What takes a comma for the end of the tokens is steady, if it is so where there are tokens in
front. -/
theorem steady_of_end {f : List Token → Bool} (atEnd : f [] = true)
    (comma : ∀ joined further, f (.punct ',' joined :: further) = true)
    (inside : ∀ tokens, tokens ≠ [] → f (tokens ++ behind) = f tokens) : Steady behind f where
  eq tokens := by
    by_cases none : tokens = []
    · subst none
      cases from_ with
      | nothing => rfl
      | comma joined further => exact (comma joined further).trans atEnd.symm
    · exact inside tokens none

instance steady_endOfBounds : Steady behind endOfBounds := by
  refine steady_of_end rfl (fun _ _ => rfl) fun tokens inside => ?_
  have comma : mark "," (tokens ++ behind) = mark "," tokens := mark_append inside (.inl rfl)
  have kept : (tokens ++ behind).isEmpty = tokens.isEmpty := isEmpty_append inside
  unfold endOfBounds
  rw [comma, kept, Steady.eq (f := mark ">")]

instance steady_openEnd : Steady behind openEnd := by
  refine steady_of_end rfl (fun _ _ => rfl) fun tokens inside => ?_
  have comma : mark "," (tokens ++ behind) = mark "," tokens := mark_append inside (.inl rfl)
  have semicolon : mark ";" (tokens ++ behind) = mark ";" tokens :=
    mark_append inside (.inr (by decide))
  have kept : (tokens ++ behind).isEmpty = tokens.isEmpty := isEmpty_append inside
  unfold openEnd
  rw [comma, semicolon, kept, Steady.eq (f := mark "|"), Steady.eq (f := mark "="),
    Steady.eq (f := mark ":"), Steady.eq (f := mark "::"), Steady.eq (f := word "if")]

/-- The marks that end a range are a comma and marks without one. -/
theorem rangeStops_single : ∀ expected ∈ rangeStops, expected = "," ∨ ',' ∉ expected.toList := by
  decide

instance steady_rangeStop (admitsStruct : Bool) : Steady behind (rangeStop admitsStruct) := by
  refine steady_of_end rfl (fun _ _ => rfl) fun tokens inside => ?_
  have kept : (tokens ++ behind).isEmpty = tokens.isEmpty := isEmpty_append inside
  have stops : rangeStops.any (mark · (tokens ++ behind)) = rangeStops.any (mark · tokens) := by
    rw [Bool.eq_iff_iff, List.any_eq_true, List.any_eq_true]
    refine exists_congr fun expected => and_congr_right fun member => ?_
    rw [mark_append inside (rangeStops_single expected member)]
  unfold rangeStop
  rw [stops, kept, Steady.eq (f := selection), Steady.eq (f := group .brace),
    Steady.eq (f := word "as")]

/-! ## Operators -/

/-- There is no comma in an operator. -/
theorem binaryOperators_free : ∀ entry ∈ binaryOperators, ',' ∉ entry.1.toList := by
  decide

instance steady_operator? : Steady behind operator? where
  eq tokens := List.find?_congr fun entry member =>
    (steady_mark entry.1 (binaryOperators_free entry member)).eq tokens

instance steady_precedence : Steady behind precedence where
  eq tokens := by
    unfold precedence
    rw [Steady.eq (f := operator?), Steady.eq (f := assignment), Steady.eq (f := mark ".."),
      Steady.eq (f := word "as")]

instance steady_openingOperator : Steady behind openingOperator where
  eq tokens := by
    unfold openingOperator
    rw [Steady.eq (f := operator?)]

/-- Where no attribute comes first, none does where the tokens go on. -/
theorem behindAttributes_append {tokens : List Token}
    (none : ∀ joined content rest, tokens ≠ .punct '#' joined :: .group .bracket content :: rest) :
    behindAttributes (tokens ++ behind) = tokens ++ behind := by
  unfold behindAttributes
  split
  · rename_i joined content rest same
    exfalso
    match tokens with
    | [] | [_] =>
      cases from_ <;> cases same
    | first :: second :: tokens =>
      cases same
      exact none joined content tokens rfl
  · rfl

instance steady_behindAttributes :
    Steady behind fun tokens => lifetime (behindAttributes tokens) where
  eq tokens := by
    fun_induction behindAttributes tokens with
    | case1 joined content rest ih => exact ih
    | case2 tokens none =>
      rw [behindAttributes_append none]
      exact Steady.eq tokens

/-! ## Parameters that are introduced -/

/-- Parameters that are cut off behind the first name: with a comma behind it they would look like
parameters. -/
inductive Cut : List Token → Prop
  | name (joined : Bool) {found : String} (named : isName found = true) :
    Cut [.punct '<' joined, .ident found]
  | lifetime (joined joined' : Bool) (found : String) :
    Cut [.punct '<' joined, .punct '\'' joined', .ident found]

/-- A name with nothing behind it is all there is. -/
theorem cut_of_next {second : List Token} (joined : Bool)
    (named : (lifetime second || name second) = true) (none : next second = []) :
    Cut (.punct '<' joined :: second) := by
  rcases (Bool.or_eq_true _ _).mp named with quoted | word
  · unfold lifetime at quoted
    split at quoted
    · rename_i joined' found rest
      cases joined' with
      | false => cases none
      | true =>
        obtain rfl : rest = [] := none
        exact .lifetime joined true found
    · cases quoted
  · match second with
    | .ident found :: rest =>
      obtain rfl : rest = [] := none
      exact .name joined word
    | [] | .literal _ :: _ | .punct .. :: _ | .group .. :: _ => cases word

/-- Parameters are seen in the same way where the tokens go on, unless they are cut off. -/
theorem parameters_append {tokens : List Token} (uncut : ¬ Cut tokens) :
    parameters (tokens ++ behind) = parameters tokens := by
  match tokens with
  | [] =>
    cases from_ with
    | nothing => rfl
    | comma joined further => rfl
  | .punct c joined :: second =>
    by_cases opens : c = '<'
    · subst opens
      have behindBracket (ts : List Token) : parameters (.punct '<' joined :: ts) =
          (mark ">" ts || mark "#" ts || word "const" ts || ((lifetime ts || name ts) &&
            (mark ">" (next ts) || mark "," (next ts) ||
              (mark ":" (next ts) && !mark "::" (next ts)) || mark "=" (next ts)))) := by
        unfold parameters
        rw [next_cons (by simp)]
        rfl
      rw [List.cons_append, behindBracket, behindBracket, Steady.eq (f := mark ">"),
        Steady.eq (f := mark "#"), Steady.eq (f := word "const"), Steady.eq (f := lifetime),
        Steady.eq (f := name)]
      cases named : lifetime second || name second with
      | false => rfl
      | true =>
        have inside : second ≠ [] := by
          rintro rfl
          cases named
        have more : next second ≠ [] := fun none => uncut (cut_of_next joined named none)
        rw [next_append inside, mark_append more (.inl rfl), Steady.eq (f := mark ">"),
          Steady.eq (f := mark ":"), Steady.eq (f := mark "::"), Steady.eq (f := mark "=")]
    · have unseen (ts : List Token) : parameters (.punct c joined :: ts) = false := by
        have other : mark "<" (.punct c joined :: ts) = false :=
          beq_false_of_ne (Ne.symm opens)
        unfold parameters
        rw [other]
        rfl
      exact (unseen _).trans (unseen _).symm
  | .ident _ :: _ | .literal _ :: _ | .group .. :: _ => rfl

/-- Parameters are introduced in the same way where the tokens go on, unless they are cut off. -/
theorem introduction_append {tokens : List Token}
    (uncut : ∀ rest, tokens = .ident "for" :: rest → ¬ Cut rest) :
    introduction (tokens ++ behind) = introduction tokens := by
  unfold introduction
  rw [Steady.eq (f := word "for")]
  match tokens with
  | .ident found :: rest =>
    by_cases same : found = "for"
    · subst same
      exact congrArg (word "for" (.ident "for" :: rest) && ·) (parameters_append (uncut rest rfl))
    · have other : word "for" (.ident found :: rest) = false := by
        simpa [word] using same
      rw [other, Bool.false_and, Bool.false_and]
  | [] | .literal _ :: _ | .punct .. :: _ | .group .. :: _ => rfl

/-- Parameters that are cut off are not taken for parameters. -/
theorem introduction_of_cut {rest : List Token} (cut : Cut rest) :
    introduction (.ident "for" :: rest) = false := by
  cases cut with
  | @name joined found named =>
    have other : word "const" [.ident found] = false := by
      refine beq_false_of_ne ?_
      rintro rfl
      exact absurd named (by decide)
    have unfolded : introduction [.ident "for", .punct '<' joined, .ident found] =
        (word "const" [.ident found] || (isName found && false)) := rfl
    rw [unfolded, other, Bool.and_false, Bool.or_false]
  | lifetime joined joined' found =>
    cases joined' <;> rfl

section Uncut

variable {tokens : List Token} (uncut : ∀ rest, tokens = .ident "for" :: rest → ¬ Cut rest)

include uncut

/-- A closure is seen in the same way where the tokens go on. -/
theorem closure_append : closure (tokens ++ behind) = closure tokens := by
  have const : Steady behind fun tokens => word "const" tokens && !group .brace (next tokens) :=
    steady_next (g := fun tokens => !group .brace tokens) rfl
  have async : Steady behind fun tokens =>
      word "async" tokens && (mark "|" (next tokens) || word "move" (next tokens)) :=
    steady_next (g := fun tokens => mark "|" tokens || word "move" tokens) rfl
  dsimp only [closure]
  rw [introduction_append uncut, const.eq, async.eq, Steady.eq (f := mark "|"),
    Steady.eq (f := word "move"), Steady.eq (f := word "static")]

/-- An expression that ends itself is seen in the same way where the tokens go on. -/
theorem selfEnding_append : selfEnding (tokens ++ behind) = selfEnding tokens := by
  have try_ : Steady behind fun tokens => word "try" tokens && group .brace (next tokens) :=
    steady_next rfl
  have const : Steady behind fun tokens => word "const" tokens && group .brace (next tokens) :=
    steady_next rfl
  dsimp only [selfEnding]
  rw [introduction_append uncut, const.eq, try_.eq, Steady.eq (f := word "if"),
    Steady.eq (f := word "while"), Steady.eq (f := word "for"), Steady.eq (f := word "loop"),
    Steady.eq (f := word "match"), Steady.eq (f := word "unsafe"),
    Steady.eq (f := group .brace), Steady.eq (f := lifetime)]

end Uncut

/-- A loop over parameters that are cut off looks like a loop. -/
theorem selfEnding_of_cut {rest : List Token} (cut : Cut rest) :
    selfEnding (.ident "for" :: rest) = true := by
  have loop : selfEnding (.ident "for" :: rest) =
      (!introduction (.ident "for" :: rest) || false || false || false || false || false ||
        false || false) := rfl
  rw [loop, introduction_of_cut cut]
  rfl

end Grammar

end Ahead
end RecordCoding.Source
