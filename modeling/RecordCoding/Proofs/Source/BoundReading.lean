import RecordCoding.Proofs.Source.PathReading

/-!
# Reading bounds

The tokens of a bound are read back as a bound of its kind, and bounds in a row as several, if the
types within them are read back: the lifetimes it introduces, its path with generic arguments, or
the arguments and the result of functions.
-/

namespace RecordCoding.Source

open Source.Parser

variable {g : Grammar}

/-! ## Introduced lifetimes -/

/-- A lifetime is a parameter that is introduced. -/
theorem takes_introducedParameter (lifetime : Lifetime) {rest : List Token}
    (noBounds : Ahead.mark ":" rest = false) :
    Takes (introducedParameter g) (lifetime.tokens ++ rest) rest () lifetime.tokens := by
  have bare : Takes (outerAttributes g) (lifetime.tokens ++ rest) (lifetime.tokens ++ rest) [] [] :=
    (Rounds.stop (takes_unseen rfl (takes_pure none _))).takes
  have parameter : Takes (lifetimeParameter []) (lifetime.tokens ++ rest) rest
      ⟨.lifetime, [], lifetime.tokens, [], false⟩ lifetime.tokens := by
    refine takes_then (takes_recorded (takes_lifetime lifetime.name rest)) ?_
    exact takes_after (takes_unseen noBounds (takes_pure [] rest)) (takes_pure _ rest)
  have noName : Ahead.name (lifetime.tokens ++ rest) = false := rfl
  have seen : Ahead.lifetime (lifetime.tokens ++ rest) = true := rfl
  have noConstant : Ahead.word "const" (lifetime.tokens ++ rest) = false := rfl
  refine takes_after bare (takes_after (takes_sees noName) (takes_after (takes_sees seen) ?_))
  refine takes_after (takes_sees noConstant) ?_
  rw [if_neg Bool.false_ne_true, if_pos rfl]
  exact takes_then parameter (takes_pure () rest)

/-- The step that reads one of the items between angle brackets. -/
def furtherItem {α : Type} (item : Parser α) : Parser (Option (α × Bool)) := do
  if ← sees (Ahead.mark ">") then pure none
  else
    let a ← item
    let hasComma := !(← sees (Ahead.mark ">"))
    if hasComma then mark ","
    pure (some (a, hasComma))

/-- Lifetimes are introduced one after the other, up to the closing bracket. -/
theorem rounds_introduced {lifetimes : List Lifetime} {tokens rest : List Token} {joined : Bool}
    (inRow : InRow ',' Lifetime.tokens lifetimes tokens) :
    ∃ found, Rounds (furtherItem (introducedParameter g)) (tokens ++ .punct '>' joined :: rest)
      (.punct '>' joined :: rest) found (separated ',' (lifetimes.map (·.tokens))) := by
  have closed : Ahead.mark ">" (.punct '>' joined :: rest) = true := mark_punct rfl joined _
  induction inRow with
  | @last lifetime tokens loosened =>
    obtain ⟨_, rfl, behind⟩ := Loosened.of_joined loosened
    obtain ⟨_, rfl, none⟩ := behind.of_ident
    cases none
    have takes := @takes_introducedParameter g lifetime (.punct '>' joined :: rest)
      (by simp [Ahead.mark, Ahead.marks])
    have step : Takes (furtherItem (introducedParameter g))
        (lifetime.tokens ++ .punct '>' joined :: rest) (.punct '>' joined :: rest)
        (some ((), false)) lifetime.tokens := by
      refine takes_unseen (by simp [Lifetime.tokens, Ahead.mark, Ahead.marks]) (takes_then takes ?_)
      exact takes_after (takes_sees closed) (takes_pure _ _)
    exact ⟨_, .more step (by simp) (.stop (takes_seen closed (takes_pure none _)))⟩
  | @more lifetime lifetimes tokens behind loosened joined' others ih =>
    obtain ⟨_, rfl, ident⟩ := Loosened.of_joined loosened
    obtain ⟨_, rfl, none⟩ := ident.of_ident
    cases none
    obtain ⟨found, rounds⟩ := ih
    have takes := @takes_introducedParameter g lifetime
      (.punct ',' joined' :: (behind ++ .punct '>' joined :: rest))
      (by simp [Ahead.mark, Ahead.marks])
    have open_ : Ahead.mark ">" (.punct ',' joined' :: (behind ++ .punct '>' joined :: rest)) =
        false := not_mark_punct joined' _ (by decide)
    have step : Takes (furtherItem (introducedParameter g))
        (lifetime.tokens ++ .punct ',' joined' :: (behind ++ .punct '>' joined :: rest))
        (behind ++ .punct '>' joined :: rest)
        (some ((), true)) (lifetime.tokens ++ [.punct ',' false]) := by
      refine takes_unseen (by simp [Lifetime.tokens, Ahead.mark, Ahead.marks]) (takes_bind takes ?_)
      refine takes_after (takes_sees open_) ?_
      exact takes_then (takes_mark (mark_punct rfl _ _)) (takes_pure _ _)
    rw [others.separated_cons lifetime]
    exact ⟨_, .more step (by simp; omega) rounds⟩

/-- The lifetimes that a type introduces for itself are read, if there are any. -/
theorem takes_introduced? {introduced : List Lifetime} {tokens rest : List Token}
    (loosened : Loosened tokens (introducing introduced))
    (other : Ahead.word "for" rest = false) :
    Takes (introduced? g) (tokens ++ rest) rest (!introduced.isEmpty) (introducing introduced) := by
  cases introduced with
  | nil =>
    cases loosened
    exact takes_after (takes_word?_of_unseen other) (takes_pure false rest)
  | cons first more =>
    rw [introducing, List.map_cons, bracketed, ← List.map_cons] at loosened ⊢
    obtain ⟨_, rfl, behind⟩ := loosened.of_ident
    obtain ⟨joined, _, rfl, loosenedBehind⟩ := Loosened.of_mark behind
    obtain ⟨inner, closing, rfl, loosenedInner, close⟩ := loosenedBehind.of_append
    obtain ⟨joined', _, rfl, none⟩ := Loosened.of_mark close
    cases none
    obtain ⟨found, rounds⟩ :=
      @rounds_introduced g _ _ rest joined' (inRow_of_separated loosenedInner)
    have opened : Ahead.mark "<" (.punct '<' joined :: (inner ++ .punct '>' joined' :: rest)) =
        true := mark_punct rfl joined _
    have closed : Ahead.mark ">" (.punct '>' joined' :: rest) = true := mark_punct rfl joined' _
    have list : Takes (bracketedList (introducedParameter g))
        (.punct '<' joined :: (inner ++ .punct '>' joined' :: rest)) rest found
        ([.punct '<' false] ++ (separated ',' ((first :: more).map (·.tokens)) ++
          [.punct '>' false])) := by
      refine takes_bind (takes_mark opened) (takes_bind rounds.takes ?_)
      exact takes_then (takes_mark closed) (takes_pure _ rest)
    have whole := takes_bind (k := fun isFor => if isFor = true then do
        let _ ← bracketedList (introducedParameter g)
        pure true
      else pure false) (takes_word?_of_seen "for" _) (takes_then list (takes_pure true rest))
    rw [List.cons_append, List.cons_append, List.append_assoc]
    exact whole

/-! ## Functions -/

/-- What ends a type where a plus sign is admitted also does so where none is. -/
theorem EndsType.refusing {admitsPlus : Bool} {tokens : List Token}
    (ends : EndsType admitsPlus tokens) : EndsType false tokens := by
  cases ends with
  | nothing => exact .nothing
  | mark mark joined rest => exact .mark mark joined rest
  | plus refused joined rest => exact .plus rfl joined rest

/-- A result is read behind its arrow, if there is one. -/
theorem takes_returnType? {result : Option TypeTree} {tokens rest : List Token}
    (read : ∀ type ∈ result, IsRead g type.closed)
    (loosened : Loosened tokens (TypeTree.tokensOfResult result)) (ends : EndsType false rest) :
    Takes (returnType? g false) (tokens ++ rest) rest result.isSome
      (TypeTree.tokensOfResult result) := by
  cases result with
  | none =>
    rw [TypeTree.tokensOfResult] at loosened ⊢
    cases loosened
    exact takes_after (takes_mark?_of_unseen (ends.not_mark (by decide))) (takes_pure false rest)
  | some type =>
    rw [TypeTree.tokensOfResult] at loosened ⊢
    obtain ⟨_, rfl, behind⟩ := Loosened.of_joined loosened
    obtain ⟨joined, inner, rfl, loosenedInner⟩ := Loosened.of_mark behind
    have seen :
        Ahead.mark "->" (.punct '-' true :: .punct '>' joined :: (inner ++ rest)) = true := by
      simp [Ahead.mark, Ahead.marks]
    have takes := (read type rfl).closed loosenedInner ends
    exact takes_bind (k := fun seen => if seen = true then do
        let _ ← g.type false
        pure true
      else pure false) (takes_mark?_of_seen seen) (takes_then takes (takes_pure true rest))

/-- The step that reads one of several types up to the end. -/
def furtherType (g : Grammar) : Parser (Option TypeExpr) := do
  if ← atEnd then pure none
  else
    let a ← g.type true
    if !(← atEnd) then mark ","
    pure (some a)

/-- Types are read one after the other, up to the end. -/
theorem rounds_types {types : List TypeTree} {tokens : List Token}
    (read : ∀ type ∈ types, IsRead g type) (inRow : InRow ',' TypeTree.tokens types tokens) :
    Rounds (furtherType g) tokens [] (types.map (·.expr))
      (separated ',' (types.map (·.tokens))) := by
  induction inRow with
  | @last type tokens loosened =>
    have present := (TypeTree.beginsType loosened (@EndsType.nothing true)).ne_nil
    have takes := (read type List.mem_cons_self).whole loosened .nothing
    rw [List.append_nil] at present takes
    have some_ : tokens.isEmpty = false := List.isEmpty_eq_false_iff.mpr present
    have step : Takes (furtherType g) tokens [] (some type.expr) type.tokens := by
      refine takes_after (takes_atEnd tokens) ?_
      rw [some_]
      exact takes_then takes (takes_after (takes_atEnd []) (takes_pure _ _))
    exact .more step (List.length_pos_of_ne_nil present)
      (.stop (takes_after (takes_atEnd []) (takes_pure none [])))
  | @more type types tokens behind loosened joined others ih =>
    have ends : EndsType true (.punct ',' joined :: behind) := .mark (by decide) joined behind
    have takes := (read type List.mem_cons_self).whole loosened ends
    have some_ : (tokens ++ .punct ',' joined :: behind).isEmpty = false := by simp
    have step : Takes (furtherType g) (tokens ++ .punct ',' joined :: behind) behind
        (some type.expr) (type.tokens ++ [.punct ',' false]) := by
      refine takes_after (takes_atEnd _) ?_
      rw [some_]
      refine takes_bind takes (takes_after (takes_atEnd _) ?_)
      exact takes_then (takes_mark (mark_punct rfl _ _)) (takes_pure _ behind)
    rw [others.separated_cons type]
    exact .more step (by simp; omega)
      (ih fun type member => read type (List.mem_cons_of_mem _ member))

/-- Types with commas between them are read up to the end. -/
theorem takes_terminated {types : List TypeTree} {tokens : List Token}
    (read : ∀ type ∈ types, IsRead g type)
    (loosened : Loosened tokens (separated ',' (types.map (·.tokens)))) :
    Takes (terminated (g.type true) ",") tokens [] (types.map (·.expr))
      (separated ',' (types.map (·.tokens))) := by
  cases types with
  | nil =>
    cases loosened
    exact (Rounds.stop (takes_after (takes_atEnd []) (takes_pure none []))).takes
  | cons first more => exact (rounds_types read (inRow_of_separated loosened)).takes

/-- The arguments and the result of a path that stands for functions are read. -/
theorem takes_functionArguments {arguments : List TypeTree} {result : Option TypeTree}
    {tokens rest : List Token}
    (read : ∀ part ∈ arguments ++ result.toList.map (·.closed), IsRead g part)
    (loosened : Loosened tokens (.group .parenthesis (separated ',' (arguments.map (·.tokens))) ::
      TypeTree.tokensOfResult result)) (ends : EndsType false rest) :
    Takes (functionArguments g) (tokens ++ rest) rest ()
      (.group .parenthesis (separated ',' (arguments.map (·.tokens))) ::
        TypeTree.tokensOfResult result) := by
  obtain ⟨content, behind, rfl, loosenedContent, loosenedBehind⟩ := Loosened.of_group loosened
  have takes : ∀ type ∈ arguments, IsRead g type := fun type member =>
    read type (List.mem_append_left _ member)
  have takesResult : ∀ type ∈ result, IsRead g type.closed := fun type member =>
    read type.closed (List.mem_append_right _
      (List.mem_map_of_mem (Option.mem_toList.mpr member)))
  refine takes_bind (takes_group (takes_terminated takes loosenedContent) _) ?_
  exact takes_then (takes_returnType? takesResult loosenedBehind ends) (takes_pure () rest)

/-! ## Traits -/

/-- Behind a path without generic arguments there are none to leave out. -/
theorem NamePath.withoutEmptyArguments_tokens (path : NamePath) :
    withoutEmptyArguments path.tokens = path.tokens := by
  have further (first : String) (more : List String) : ∃ front last,
      nameTokens (first :: more) = front ++ [.ident last] := by
    induction more generalizing first with
    | nil => exact ⟨[], first, rfl⟩
    | cons second more ih =>
      obtain ⟨front, last, shape⟩ := ih second
      exact ⟨.ident first :: colons ++ front, last, by
        rw [List.append_assoc, ← shape]
        rfl⟩
  obtain ⟨first, more, shape⟩ := List.exists_cons_of_ne_nil path.present
  obtain ⟨front, last, ends⟩ := further first more
  rw [NamePath.tokens, shape, ends, ← List.append_assoc, withoutEmptyArguments, List.reverse_append]
  rfl

/-- What generic arguments or the arguments of functions contain is read behind the path of a
bound. -/
theorem takes_boundPath {path : NamePath} {lifetimes : List Lifetime}
    {arguments : List ArgumentTree} {tokens rest : List Token}
    (read : ∀ part ∈ arguments.flatMap (·.parts), IsRead g part)
    (loosened : Loosened tokens (path.tokens ++
      bracketed (lifetimes.map (·.tokens) ++ ArgumentTree.tokensOfEach arguments)))
    (ends : EndsType false rest) :
    Takes (boundPath g) (tokens ++ rest) rest () (path.tokens ++
      bracketed (lifetimes.map (·.tokens) ++ ArgumentTree.tokensOfEach arguments)) := by
  have found :=
    takes_appliedPath read (ends.not_mark (by decide)) (ends.not_mark (by decide)) loosened
  have noAnnounced : (Ahead.mark "::" rest &&
      Ahead.group .parenthesis (Ahead.next (Ahead.next rest))) = false := by
    rw [ends.not_mark (by decide), Bool.false_and]
  refine takes_after (takes_capture found) (takes_after (takes_sees noAnnounced) ?_)
  refine takes_after (takes_sees (ends.not_group .parenthesis)) ?_
  exact takes_emit _ rest

/-- The arguments of functions are read behind the path of a bound. -/
theorem takes_boundPath_function {path : NamePath} {arguments : List TypeTree}
    {result : Option TypeTree} {tokens rest : List Token}
    (read : ∀ part ∈ arguments ++ result.toList.map (·.closed), IsRead g part)
    (loosened : Loosened tokens (path.tokens ++
      (.group .parenthesis (separated ',' (arguments.map (·.tokens))) ::
        TypeTree.tokensOfResult result)))
    (ends : EndsType false rest) :
    Takes (boundPath g) (tokens ++ rest) rest () (path.tokens ++
      (.group .parenthesis (separated ',' (arguments.map (·.tokens))) ::
        TypeTree.tokensOfResult result)) := by
  obtain ⟨names, behind, rfl, loosenedNames, loosenedBehind⟩ := loosened.of_append
  obtain ⟨content, others, rfl, -⟩ := Loosened.of_group loosenedBehind
  have bare : path.tokens ++ bracketed ((List.map (·.tokens) ([] : List Lifetime)) ++
      ArgumentTree.tokensOfEach []) = path.tokens := List.append_nil _
  have found := @takes_appliedPath g path [] [] names
    (.group .parenthesis content :: others ++ rest) nofun (not_mark_other _ (by decide) (by simp))
    (not_mark_other _ (by decide) (by simp)) (bare.symm ▸ loosenedNames)
  rw [bare] at found
  have arguments_ := takes_functionArguments read loosenedBehind ends
  rw [List.append_assoc]
  have noAnnounced : (Ahead.mark "::" (.group .parenthesis content :: others ++ rest) &&
      Ahead.group .parenthesis (Ahead.next (Ahead.next
        (.group .parenthesis content :: others ++ rest)))) = false := by
    rw [List.cons_append, not_mark_other _ (by decide) (by simp), Bool.false_and]
  have seen : Ahead.group .parenthesis (.group .parenthesis content :: others ++ rest) = true := rfl
  refine takes_after (takes_capture found) (takes_after (takes_sees noAnnounced) ?_)
  refine takes_after (takes_sees seen) ?_
  have plain : (PathForm.ofSegments false path.isAbsolute
      (segments path.names (ArgumentTree.exprs? [] []))).endsPlain = true := by
    rw [PathForm.ofSegments]
    dsimp only
    rw [getLast?_segments path.present, List.getLast?_eq_getLast_of_ne_nil path.present]
    rfl
  rw [plain, path.withoutEmptyArguments_tokens]
  exact takes_bind (takes_emit path.tokens _) arguments_

/-! ## Bounds -/

/-- Tokens that begin with a bound that names a trait. -/
inductive BeginsTrait : List Token → Prop
  | path {tokens : List Token} (begins : BeginsPath tokens) : BeginsTrait tokens
  | introduced (rest : List Token) : BeginsTrait (.ident "for" :: rest)
  | relaxed (joined : Bool) (rest : List Token) : BeginsTrait (.punct '?' joined :: rest)

namespace BeginsTrait

variable {tokens : List Token}

/-- A trait begins with few of the reserved words. -/
theorem not_word (begins : BeginsTrait tokens) {word : String} (reserved : word ∈ reservedWords)
    (other : word ≠ "for") : Ahead.word word tokens = false := by
  cases begins with
  | path begins => exact begins.not_word reserved
  | introduced rest => simpa [Ahead.word] using other.symm
  | relaxed => rfl

theorem not_group (begins : BeginsTrait tokens) (delimiter : Delimiter) :
    Ahead.group delimiter tokens = false := by
  rcases begins with (_ | _) | _ | _ <;> rfl

theorem not_lifetime (begins : BeginsTrait tokens) : Ahead.lifetime tokens = false := by
  rcases begins with (_ | _) | _ | _ <;> rfl

/-- No trait begins with a star. -/
theorem not_star (begins : BeginsTrait tokens) : Ahead.mark "*" tokens = false := by
  cases begins with
  | path begins => exact begins.not_mark (by decide) (by decide)
  | introduced => rfl
  | relaxed joined rest => exact not_mark_punct joined rest (by decide)

/-- A trait is seen as a bound. -/
theorem bound (begins : BeginsTrait tokens) (rules : BoundRules) :
    Ahead.bound rules tokens = true := by
  rcases begins with (_ | _) | _ | _ <;>
    simp [Ahead.bound, Ahead.anyWord, Ahead.mark, Ahead.marks]

end BeginsTrait

/-- A trait begins as traits do. -/
theorem TraitTree.beginsTrait {trait : TraitTree} {tokens : List Token}
    (loosened : Loosened tokens trait.tokens) (rest : List Token) :
    BeginsTrait (tokens ++ rest) := by
  have behind {introduced : List Lifetime} {path : NamePath} {others tokens : List Token}
      (loosened : Loosened tokens (introducing introduced ++ (path.tokens ++ others))) :
      BeginsTrait (tokens ++ rest) := by
    cases introduced with
    | nil =>
      rw [introducing, List.nil_append] at loosened
      obtain ⟨names, more, rfl, loosenedNames, -⟩ := loosened.of_append
      rw [List.append_assoc]
      exact .path (NamePath.beginsPath loosenedNames _)
    | cons first more =>
      obtain ⟨_, rfl, -⟩ := Loosened.of_ident loosened
      exact .introduced _
  cases trait with
  | named introduced path lifetimes arguments =>
    rw [TraitTree.tokens] at loosened
    exact behind loosened
  | relaxed path =>
    rw [TraitTree.tokens] at loosened
    obtain ⟨joined, _, rfl, -⟩ := Loosened.of_mark loosened
    exact .relaxed joined _
  | function introduced path arguments result =>
    rw [TraitTree.tokens] at loosened
    exact behind loosened

/-- No trait is about constants. -/
theorem takes_constMarks {tokens : List Token} (begins : BeginsTrait tokens) (rules : BoundRules) :
    Takes (constMarks rules) tokens tokens false [] :=
  takes_unseen (begins.not_group .bracket) <|
    takes_after (takes_word?_of_unseen (begins.not_word (by decide) (by decide)))
      (takes_pure false tokens)

/-- A path is read behind the lifetimes that a trait introduces. -/
theorem takes_traitBound_of_path {introduced : List Lifetime} {path : NamePath}
    {rules : BoundRules} {tokens rest others : List Token}
    (loosened : Loosened tokens (introducing introduced ++ (path.tokens ++ others)))
    (bound : ∀ ⦃tokens : List Token⦄, Loosened tokens (path.tokens ++ others) →
      Takes (boundPath g) (tokens ++ rest) rest () (path.tokens ++ others)) :
    Takes (traitBound g rules) (tokens ++ rest) rest false
      (introducing introduced ++ (path.tokens ++ others)) := by
  obtain ⟨binder, behind, rfl, loosenedBinder, loosenedBehind⟩ := loosened.of_append
  obtain ⟨names, more, rfl, loosenedNames, -⟩ := loosenedBehind.of_append
  have begins : BeginsPath (names ++ more ++ rest) := by
    rw [List.append_assoc]
    exact NamePath.beginsPath loosenedNames _
  rw [List.append_assoc]
  refine takes_bind (takes_introduced? loosenedBinder (begins.not_word (by decide))) ?_
  refine takes_after (takes_constMarks (.path begins) rules) ?_
  refine takes_after (takes_mark?_of_unseen (begins.not_mark (by decide) (by decide))) ?_
  exact takes_after (takes_pure _ _) (takes_then (bound loosenedBehind) (takes_pure false rest))

/-- A trait is read, with the lifetimes it introduces. -/
theorem takes_traitBound {trait : TraitTree} {rules : BoundRules} {tokens rest : List Token}
    (read : ∀ part ∈ trait.parts, IsRead g part) (loosened : Loosened tokens trait.tokens)
    (ends : EndsType false rest) :
    Takes (traitBound g rules) (tokens ++ rest) rest false trait.tokens := by
  cases trait with
  | named introduced path lifetimes arguments =>
    rw [TraitTree.tokens] at loosened ⊢
    exact takes_traitBound_of_path loosened fun tokens behind => takes_boundPath read behind ends
  | function introduced path arguments result =>
    rw [TraitTree.tokens, TypeTree.tokensOfEach_eq] at loosened ⊢
    exact takes_traitBound_of_path loosened fun tokens behind =>
      takes_boundPath_function read behind ends
  | relaxed path =>
    rw [TraitTree.tokens] at loosened ⊢
    obtain ⟨joined, names, rfl, loosenedNames⟩ := Loosened.of_mark loosened
    have seen : Ahead.mark "?" (.punct '?' joined :: (names ++ rest)) = true :=
      mark_punct rfl joined _
    have begins := NamePath.beginsPath loosenedNames rest
    have unintroduced {tokens : List Token} (other : Ahead.word "for" tokens = false) :
        Takes (introduced? g) tokens tokens false [] :=
      takes_after (takes_word?_of_unseen other) (takes_pure false tokens)
    have bare : path.tokens ++ bracketed ((List.map (·.tokens) ([] : List Lifetime)) ++
        ArgumentTree.tokensOfEach []) = path.tokens := List.append_nil _
    have none_ : ∀ part ∈ ([] : List ArgumentTree).flatMap (·.parts), IsRead g part := by simp
    have bound := @takes_boundPath g path [] [] names rest none_ (bare.symm ▸ loosenedNames) ends
    rw [bare] at bound
    refine takes_after (unintroduced rfl) ?_
    refine takes_after (takes_constMarks (.relaxed joined _) rules) ?_
    refine takes_bind (takes_mark?_of_seen seen) ?_
    refine takes_after (unintroduced (begins.not_word (by decide))) ?_
    exact takes_then bound (takes_pure false rest)

/-- What a bound is. -/
def BoundTree.form : BoundTree → BoundForm
  | .lifetime _ => .lifetime
  | .trait _ => .trait

/-- A bound is read. -/
theorem takes_boundIn {bound : BoundTree} {rules : BoundRules} {tokens rest : List Token}
    (read : ∀ part ∈ bound.parts, IsRead g part) (loosened : Loosened tokens bound.tokens)
    (ends : EndsType false rest) :
    Takes (boundIn g rules) (tokens ++ rest) rest bound.form bound.tokens := by
  cases bound with
  | lifetime lifetime =>
    obtain ⟨_, rfl, behind⟩ := Loosened.of_joined loosened
    obtain ⟨_, rfl, none⟩ := behind.of_ident
    cases none
    exact takes_then (takes_lifetime?_of_seen lifetime.name rest) (takes_pure _ rest)
  | trait trait =>
    have begins := TraitTree.beginsTrait loosened rest
    have takes := @takes_traitBound g trait rules tokens rest read loosened ends
    refine takes_after (takes_lifetime?_of_unseen begins.not_lifetime) ?_
    refine takes_unseen (begins.not_word (by decide) (by decide)) ?_
    refine takes_then (takes_verbatimIf rfl ?_) (takes_pure _ rest)
    exact takes_unseen (begins.not_group .parenthesis) takes

/-! ## Bounds in a row -/

/-- A bound is read off the front of tokens, whatever its rules are. -/
def IsBoundRead (g : Grammar) (bound : BoundTree) : Prop :=
  ∀ ⦃rules : BoundRules⦄ ⦃tokens rest : List Token⦄, Loosened tokens bound.tokens →
    EndsType false rest → Takes (g.bound rules) (tokens ++ rest) rest bound.form bound.tokens

/-- A bound is seen where it begins. -/
theorem BoundTree.seen {bound : BoundTree} {tokens : List Token}
    (loosened : Loosened tokens bound.tokens) (rules : BoundRules) (rest : List Token) :
    Ahead.bound rules (tokens ++ rest) = true := by
  cases bound with
  | lifetime lifetime =>
    obtain ⟨_, rfl, behind⟩ := Loosened.of_joined loosened
    obtain ⟨_, rfl, none⟩ := behind.of_ident
    simp [Ahead.bound, Ahead.lifetime]
  | trait trait => exact (TraitTree.beginsTrait loosened rest).bound rules

/-- The first bound of several is seen where they begin. -/
theorem InRow.seen {bounds : List BoundTree} {tokens : List Token}
    (inRow : InRow '+' BoundTree.tokens bounds tokens) (rules : BoundRules) (rest : List Token) :
    Ahead.bound rules (tokens ++ rest) = true := by
  cases inRow with
  | last loosened => exact BoundTree.seen loosened rules rest
  | more loosened joined others =>
    rw [List.append_assoc]
    exact BoundTree.seen loosened rules _

/-- The step that reads one of the bounds joined by plus signs. -/
def furtherBound (g : Grammar) (rules : BoundRules) (admitsPlus : Bool) :
    List BoundForm × Bool × Bool → Parser (Option (List BoundForm × Bool × Bool)) :=
  fun (found, goesOn, _) => do
    if !goesOn then pure none
    else
      let found := found ++ [← g.bound rules]
      if ← markIf admitsPlus "+" then
        let goesOn ← sees (Ahead.bound rules)
        pure (some (found, goesOn, !goesOn))
      else pure (some (found, false, false))

/-- Bounds are read one after the other. -/
theorem turns_bounds {items : List BoundTree} {rules : BoundRules} {admitsPlus : Bool}
    {tokens rest : List Token} (read : ∀ bound ∈ items, IsBoundRead g bound)
    (inRow : InRow '+' BoundTree.tokens items tokens) (ends : EndsType admitsPlus rest)
    (single : admitsPlus = false → items.length = 1) (found : List BoundForm) :
    Turns (furtherBound g rules admitsPlus) (found, true, false) (tokens ++ rest) rest
      (found ++ items.map (·.form), false, false) (separated '+' (items.map (·.tokens))) := by
  induction inRow generalizing found with
  | @last bound tokens loosened =>
    have present : tokens ≠ [] := by
      rintro rfl
      have seen := BoundTree.seen loosened rules []
      simp [Ahead.bound, Ahead.anyWord, Ahead.mark, Ahead.marks, Ahead.lifetime,
        Ahead.group] at seen
    have noPlus : Takes (markIf admitsPlus "+") rest rest false [] := by
      cases admitsPlus with
      | true => exact takes_mark?_of_unseen ends.not_plus
      | false => exact takes_pure false rest
    have step : Takes (furtherBound g rules admitsPlus (found, true, false)) (tokens ++ rest) rest
        (some (found ++ [bound.form], false, false)) bound.tokens :=
      takes_then (read bound List.mem_cons_self loosened ends.refusing)
        (takes_after noPlus (takes_pure _ rest))
    have shorter : rest.length < (tokens ++ rest).length := by
      have := List.length_pos_of_ne_nil present
      simp only [List.length_append]
      omega
    exact .more step shorter (.stop (takes_pure none rest))
  | @more bound items tokens behind loosened joined others ih =>
    obtain rfl : admitsPlus = true := by
      cases admitsPlus with
      | true => rfl
      | false =>
        have one := single rfl
        cases others <;> simp at one
    have plus : EndsType false (.punct '+' joined :: (behind ++ rest)) := .plus rfl joined _
    have seen : Ahead.mark "+" (.punct '+' joined :: (behind ++ rest)) = true :=
      mark_punct rfl joined _
    have step : Takes (furtherBound g rules true (found, true, false))
        (tokens ++ .punct '+' joined :: (behind ++ rest)) (behind ++ rest)
        (some (found ++ [bound.form], true, false)) (bound.tokens ++ [.punct '+' false]) := by
      refine takes_bind (read bound List.mem_cons_self loosened plus) ?_
      refine takes_then (takes_mark?_of_seen seen) ?_
      exact takes_after (takes_sees (others.seen rules rest)) (takes_pure _ _)
    have turns := ih (fun bound member => read bound (List.mem_cons_of_mem _ member))
      (fun refused => absurd refused Bool.true_eq_false.mp) (found ++ [bound.form])
    rw [others.separated_cons bound, List.append_assoc, List.cons_append]
    rw [List.append_assoc] at turns
    exact .more step (by simp; omega) turns

/-- Bounds of which one names a trait are read. -/
theorem takes_traitBounds {items : List BoundTree} {rules : BoundRules} {admitsPlus : Bool}
    {complaint : String} {tokens rest : List Token} (read : ∀ bound ∈ items, IsBoundRead g bound)
    (inRow : InRow '+' BoundTree.tokens items tokens) (ends : EndsType admitsPlus rest)
    (single : admitsPlus = false → items.length = 1)
    (named : BoundForm.trait ∈ items.map (·.form)) :
    Takes (traitBounds g rules admitsPlus complaint) (tokens ++ rest) rest
      (items.map (·.form), false) (separated '+' (items.map (·.tokens))) := by
  have turns := @turns_bounds g items rules admitsPlus tokens rest read inRow ends single []
  have found : Takes (bounds g rules admitsPlus) (tokens ++ rest) rest
      (items.map (·.form), false) (separated '+' (items.map (·.tokens))) :=
    takes_then turns.takes (takes_pure _ rest)
  refine takes_then found ?_
  have seen : (items.map (·.form)).contains .trait = true := List.contains_iff_mem.mpr named
  dsimp only
  rw [if_pos seen]
  exact takes_pure _ rest

end RecordCoding.Source
