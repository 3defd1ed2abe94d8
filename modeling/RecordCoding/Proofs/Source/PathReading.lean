import RecordCoding.Proofs.Source.Taking
import RecordCoding.Proofs.Source.TypeEdges
import RecordCoding.Source.Reading

/-!
# Reading paths and generic arguments

The tokens of a path are read back as that path, wherever punctuation happens to be joined: its
names one after the other, and the generic arguments behind the last, if the types among them are
read back.
-/

namespace RecordCoding.Source

open Source.Parser

/-! ## Plain paths -/

/-- The segments of a path that are all plain up to the last. -/
def segments : List String → Option (List TypeExpr) → List (String × Option (List TypeExpr))
  | [], _ => []
  | [last], arguments => [(last, arguments)]
  | first :: second :: more, arguments => (first, none) :: segments (second :: more) arguments

variable {g : Grammar} {inExpression : Bool}

theorem not_pathRoot {name : String} (named : isName name = true) (rest : List Token) :
    (Ahead.pathRoot (.ident name :: rest) || Ahead.word "try" (.ident name :: rest)) = false := by
  have other : ∀ word ∈ ["super", "self", "crate", "try"], name ≠ word := fun word member =>
    ne_of_isName named (by revert word; decide)
  simp [Ahead.pathRoot, Ahead.word, other]

theorem not_self {name : String} (named : isName name = true) (rest : List Token) :
    Ahead.word "Self" (.ident name :: rest) = false := by
  simp [Ahead.word, ne_of_isName named (show "Self" ∈ reservedWords by decide)]

/-- A name is a segment where neither arguments nor their announcement are behind it. -/
theorem takes_pathSegment_plain {name : String} {rest : List Token} (named : isName name = true)
    (unannounced : Ahead.announced rest = false) (bare : Ahead.mark "<" rest = false) :
    Takes (pathSegment g inExpression) (.ident name :: rest) rest (name, none)
      [.ident name] := by
  refine takes_unseen (not_pathRoot named rest) ?_
  refine takes_unseen (not_self named rest) (takes_then (takes_name named rest) ?_)
  exact takes_unseen unannounced (takes_unseen (by simp [bare]) (takes_pure _ _))

/-- A name with generic arguments behind it is a segment with these. -/
theorem takes_pathSegment_applied {name : String} {tokens rest out : List Token}
    {arguments : List TypeExpr} (named : isName name = true)
    (unannounced : Ahead.announced tokens = false) (opened : Ahead.mark "<" tokens = true)
    (single : Ahead.mark "<=" tokens = false) (alone : Ahead.mark "<<=" tokens = false)
    (takes : Takes (genericArguments g) tokens rest arguments out) :
    Takes (pathSegment g false) (.ident name :: tokens) rest (name, some arguments)
      (.ident name :: out) := by
  refine takes_unseen (not_pathRoot named tokens) ?_
  refine takes_unseen (not_self named tokens) (takes_bind (takes_name named tokens) ?_)
  refine takes_unseen unannounced (takes_seen (by simp [opened, single, alone]) ?_)
  exact takes_then takes (takes_pure _ _)

/-- The step that reads a further segment of a path. -/
def furtherSegment (g : Grammar) (inExpression : Bool) :
    Parser (Option (String × Option (List TypeExpr))) := do
  if ← sees fun ts =>
      Ahead.mark "::" ts && !Ahead.group .parenthesis (Ahead.next (Ahead.next ts)) then
    mark "::"
    some <$> pathSegment g inExpression
  else pure none

/-- Names in a row are the segments of a path, the last with what it takes behind it. -/
theorem takes_segments {tokens rest further out : List Token}
    {arguments : Option (List TypeExpr)}
    (last : ∀ name, isName name = true → Takes (pathSegment g inExpression) (.ident name :: rest)
      further (name, arguments) (.ident name :: out))
    (shorter : further.length ≤ rest.length) (ended : Ahead.mark "::" further = false)
    {first : String} {more : List String} (named : ∀ n ∈ first :: more, isName n = true)
    (loosened : Loosened tokens (moreNames more)) :
    ∃ between segment others passed passed',
      Takes (pathSegment g inExpression) (.ident first :: tokens ++ rest) between segment passed ∧
      Rounds (furtherSegment g inExpression) between further others passed' ∧
      segment :: others = segments (first :: more) arguments ∧
      passed ++ passed' = nameTokens (first :: more) ++ out ∧
      between.length ≤ (tokens ++ rest).length := by
  -- Only the last name is read together with what is behind it; the others are read alone.
  induction more generalizing first tokens with
  | nil =>
    cases loosened
    refine ⟨further, _, [], _, [], last first (named first List.mem_cons_self), .stop ?_, rfl,
      List.append_nil _, shorter⟩
    exact takes_unseen (by simp [ended]) (takes_pure none further)
  | cons second more ih =>
    have apart : moreNames (second :: more) = colons ++ .ident second :: moreNames more := rfl
    rw [apart] at loosened
    obtain ⟨joined, _, rfl, named_⟩ := loosened.of_colons
    obtain ⟨tokens, rfl, more_⟩ := named_.of_ident
    obtain ⟨between, segment, others, passed, passed', takes, rounds, whole, all, short⟩ :=
      ih (fun n member => named n (List.mem_cons_of_mem _ member)) more_
    refine ⟨.punct ':' true :: .punct ':' joined :: .ident second :: tokens ++ rest, (first, none),
      segment :: others, [.ident first], (colons ++ passed) ++ passed', ?_, ?_, ?_, ?_, le_rfl⟩
    · exact takes_pathSegment_plain (named first List.mem_cons_self)
        (by simp [Ahead.announced, Ahead.mark, Ahead.marks, Ahead.next])
        (by simp [Ahead.mark, Ahead.marks])
    · refine .more ?_ ?_ rounds
      · refine takes_seen ?_ (takes_bind (takes_mark ?_) (takes_map some takes))
        · simp [Ahead.mark, Ahead.marks, Ahead.next, Ahead.group]
        · simp [Ahead.mark, Ahead.marks]
      · simp only [List.length_append, List.length_cons] at short ⊢
        omega
    · rw [whole]
      rfl
    · rw [List.append_assoc, all]
      rfl

/-- The mark at the root of a path is taken, if there is one. -/
theorem takes_root {path : NamePath} {tokens : List Token} (rest : List Token)
    (loosened : Loosened tokens path.tokens) :
    ∃ names, Takes (mark? "::") (tokens ++ rest) (names ++ rest) path.isAbsolute
      (if path.isAbsolute then colons else []) ∧ Loosened names (nameTokens path.names) := by
  obtain ⟨isAbsolute, names, present, identifiers, named⟩ := path
  cases isAbsolute with
  | true =>
    obtain ⟨joined, behind, rfl, loosenedBehind⟩ := loosened.of_colons
    exact ⟨behind, takes_mark?_of_seen (by simp [Ahead.mark, Ahead.marks]), loosenedBehind⟩
  | false =>
    obtain ⟨first, more, rfl⟩ := List.exists_cons_of_ne_nil present
    refine ⟨tokens, takes_mark?_of_unseen ?_, loosened⟩
    obtain ⟨behind, rfl, -⟩ := loosened.of_ident
    simp [Ahead.mark, Ahead.marks]

/-- A path is taken up to what its last name takes behind it. -/
theorem takes_unqualifiedPath {path : NamePath} {tokens rest further out : List Token}
    {arguments : Option (List TypeExpr)}
    (last : ∀ name, isName name = true → Takes (pathSegment g inExpression) (.ident name :: rest)
      further (name, arguments) (.ident name :: out))
    (shorter : further.length ≤ rest.length) (ended : Ahead.mark "::" further = false)
    (loosened : Loosened tokens path.tokens) :
    Takes (unqualifiedPath g inExpression) (tokens ++ rest) further
      (.ofSegments false path.isAbsolute (segments path.names arguments)) (path.tokens ++ out) := by
  obtain ⟨names, root, loosened⟩ := takes_root rest loosened
  obtain ⟨first, more, shape⟩ := List.exists_cons_of_ne_nil path.present
  have named := path.named
  rw [shape] at loosened named
  obtain ⟨behind, rfl, loosenedBehind⟩ := loosened.of_ident
  obtain ⟨between, segment, others, passed, passed', takes, rounds, whole, all, -⟩ :=
    takes_segments last shorter ended named loosenedBehind
  have written : path.tokens ++ out =
      (if path.isAbsolute then colons else []) ++ (passed ++ passed') := by
    rw [all, NamePath.tokens, shape, List.append_assoc]
  rw [written, shape, ← whole]
  exact takes_bind root (takes_bind takes (takes_then rounds.takes (takes_pure _ _)))

/-- The last name of a path is at the end of its segments, with the arguments. -/
theorem getLast?_segments {names : List String} (present : names ≠ [])
    (arguments : Option (List TypeExpr)) :
    (segments names arguments).getLast? = names.getLast?.map (·, arguments) := by
  fun_induction segments names arguments with
  | case1 => exact absurd rfl present
  | case2 => rfl
  | case3 first second more arguments ih =>
    rw [List.getLast?_cons, List.getLast?_cons, ih (List.cons_ne_nil second more),
      List.getLast?_cons]
    rfl

theorem names_segments (names : List String) (arguments : Option (List TypeExpr)) :
    (segments names arguments).map (·.1) = names := by
  fun_induction segments names arguments with
  | case1 | case2 => rfl
  | case3 first second more arguments ih => rw [List.map_cons, ih]

/-! ## Types in front -/

/-- A type is read off the front of tokens up to what ends it, where plus signs are admitted if it
has one at its end. -/
def IsRead (g : Grammar) (type : TypeTree) : Prop :=
  ∀ ⦃admitsPlus : Bool⦄ ⦃tokens rest : List Token⦄,
    (type.joinsBounds = true → admitsPlus = true) → Loosened tokens type.tokens →
      EndsType admitsPlus rest →
        Takes (g.type admitsPlus) (tokens ++ rest) rest type.expr type.tokens

namespace IsRead

variable {type : TypeTree} {tokens rest : List Token}

/-- A type is read where plus signs are admitted. -/
theorem whole (read : IsRead g type) (loosened : Loosened tokens type.tokens)
    (ends : EndsType true rest) :
    Takes (g.type true) (tokens ++ rest) rest type.expr type.tokens :=
  read (fun _ => rfl) loosened ends

/-- A type in parentheses, if it needs them, is read where no plus signs are admitted. -/
theorem closed (read : IsRead g type.closed) {admitsPlus : Bool}
    (loosened : Loosened tokens (enclosedIf type.joinsBounds type.tokens))
    (ends : EndsType admitsPlus rest) :
    Takes (g.type admitsPlus) (tokens ++ rest) rest type.closed.expr
      (enclosedIf type.joinsBounds type.tokens) := by
  rw [← TypeTree.tokens_closed] at loosened ⊢
  refine read (fun joins => ?_) loosened ends
  rw [TypeTree.closed] at joins
  split at joins
  · cases joins
  · contradiction

end IsRead

/-! ## Generic arguments -/

/-- A generic argument: a lifetime, or any other. -/
abbrev GenericItem : Type := Lifetime ⊕ ArgumentTree

namespace GenericItem

/-- The tokens of a generic argument. -/
def tokens : GenericItem → List Token := Sum.elim Lifetime.tokens ArgumentTree.tokens

/-- The type that a generic argument is, if it is one, as it is read. -/
def type? : GenericItem → Option TypeExpr
  | .inr (.type type) => some type.expr
  | _ => none

/-- The generic arguments of a name, lifetimes first. -/
def inOrder (lifetimes : List Lifetime) (arguments : List ArgumentTree) : List GenericItem :=
  lifetimes.map .inl ++ arguments.map .inr

theorem map_tokens_inOrder (lifetimes : List Lifetime) (arguments : List ArgumentTree) :
    (inOrder lifetimes arguments).map tokens =
      lifetimes.map (·.tokens) ++ arguments.map (·.tokens) := by
  simp [inOrder, tokens, Function.comp_def]

/-- The entries of generic arguments with their types. -/
def entries : List GenericItem → List (Option TypeExpr × Entry)
  | [] => []
  | first :: more => (first.type?, ⟨first.isLeft, first.tokens, !more.isEmpty⟩) :: entries more

/-- The types among generic arguments are found. -/
theorem types_entries (lifetimes : List Lifetime) (arguments : List ArgumentTree) :
    (entries (inOrder lifetimes arguments)).filterMap (·.1) = ArgumentTree.exprs arguments := by
  induction lifetimes with
  | nil =>
    induction arguments with
    | nil => rw [ArgumentTree.exprs]; rfl
    | cons first more ih =>
      have shape : inOrder [] (first :: more) = .inr first :: inOrder [] more := rfl
      rw [shape, entries, List.filterMap_cons, ih]
      cases first <;> rw [ArgumentTree.exprs] <;> rfl
  | cons first more ih =>
    have shape : inOrder (first :: more) arguments = .inl first :: inOrder more arguments := rfl
    rw [shape, entries, List.filterMap_cons, ih]
    rfl

/-- The entries in a row are the generic arguments with commas between them. -/
theorem written_entries (items : List GenericItem) :
    ((entries items).map (·.2)).flatMap Entry.written = separated ',' (items.map tokens) := by
  induction items with
  | nil => rfl
  | cons first more ih =>
    rw [entries, List.map_cons, List.flatMap_cons, ih]
    cases more <;> simp [Entry.written, separated]

/-- Lifetimes are in front of all others already. -/
theorem listed_entries (lifetimes : List Lifetime) (arguments : List ArgumentTree) :
    Entry.listed ((entries (inOrder lifetimes arguments)).map (·.2)) =
      separated ',' ((inOrder lifetimes arguments).map tokens) := by
  rw [← written_entries]
  induction lifetimes with
  | nil =>
    apply Entry.listed_of_no_leading
    induction arguments with
    | nil => nofun
    | cons first more ih => exact List.forall_mem_cons.mpr ⟨rfl, ih⟩
  | cons first more ih =>
    have shape : inOrder (first :: more) arguments = .inl first :: inOrder more arguments := rfl
    have comma (items : List GenericItem) :
        (!items.isEmpty) = !((entries items).map (·.2)).isEmpty := by
      cases items <;> rfl
    rw [shape, entries, List.map_cons, List.flatMap_cons,
      Entry.listed_cons_of_leading rfl (comma _), ih]

end GenericItem

/-- A number in digits is a literal of a number. -/
theorem Numeral.isSome_numberKind? (numeral : Numeral) :
    (Literal.numberKind? numeral.text).isSome = true := by
  obtain ⟨text, present, digits⟩ := numeral
  obtain ⟨c, rest, shape⟩ :=
    List.exists_cons_of_ne_nil (mt String.toList_eq_nil_iff.mp present)
  have digit : c.isDigit = true := digits c (shape ▸ List.mem_cons_self)
  dsimp only
  rw [Literal.numberKind?, shape]
  split <;> first | rfl | skip
  · rename_i same
    obtain ⟨rfl, rfl⟩ := List.cons.inj same
    rw [if_pos digit]
    split <;> rfl
  · contradiction

/-- A constant is taken. -/
theorem takes_constArgument {constant : Constant} {tokens : List Token}
    (loosened : Loosened tokens constant.tokens) (rest : List Token) :
    Takes (constArgument g) (tokens ++ rest) rest () constant.tokens ∧
      Ahead.constant (tokens ++ rest) = true := by
  cases constant with
  | number isNegative numeral =>
    have number := numeral.isSome_numberKind?
    cases isNegative with
    | true =>
      obtain ⟨joined, _, rfl, behind⟩ := Loosened.of_mark loosened
      obtain ⟨_, rfl, none⟩ := behind.of_literal
      cases none
      have seen : Ahead.literal (.punct '-' joined :: .literal numeral.text :: rest) = true :=
        number
      refine ⟨takes_seen seen (takes_then (takes_literal_signed number joined rest)
        (takes_pure () rest)), ?_⟩
      simp [Ahead.constant, seen]
    | false =>
      obtain ⟨_, rfl, none⟩ := Loosened.of_literal loosened
      cases none
      refine ⟨takes_seen rfl ?_, rfl⟩
      exact takes_then (takes_literal numeral.text rest) (takes_pure () rest)
  | truth value =>
    have truth : ((if value then "true" else "false") == "true" ||
        (if value then "true" else "false") == "false") = true := by
      cases value <;> decide
    obtain ⟨_, rfl, none⟩ := Loosened.of_ident loosened
    cases none
    refine ⟨takes_seen truth (takes_then (takes_literal_truth truth rest) (takes_pure () rest)), ?_⟩
    simp only [Ahead.constant, Bool.or_eq_true]
    exact .inl truth

/-- No constant begins with a lifetime. -/
theorem not_lifetime_of_constant {tokens : List Token} (constant : Ahead.constant tokens = true) :
    Ahead.lifetime tokens = false := by
  unfold Ahead.lifetime
  split
  · simp [Ahead.constant, Ahead.literal, Ahead.group] at constant
  · rfl

/-- What generic arguments contain is read. -/
abbrev GenericItem.AreRead (g : Grammar) (item : GenericItem) : Prop :=
  ∀ argument, item = .inr argument → ∀ part ∈ argument.parts, IsRead g part

/-- A generic argument is read if what it contains is. -/
theorem takes_genericArgument {item : GenericItem} {tokens rest : List Token}
    (read : item.AreRead g) (loosened : Loosened tokens item.tokens) (ends : EndsType true rest)
    (noValue : Ahead.mark "=" rest = false) :
    Takes (genericArgument g) (tokens ++ rest) rest (item.isLeft, item.type?) item.tokens := by
  rcases item with lifetime | argument
  · obtain ⟨_, rfl, behind⟩ := Loosened.of_joined loosened
    obtain ⟨_, rfl, none⟩ := behind.of_ident
    cases none
    refine takes_seen ?_ (takes_then (takes_lifetime lifetime.name rest) (takes_pure _ rest))
    simp [Ahead.lifetime, Ahead.next, ends.not_plus]
  · replace read := read argument rfl
    cases argument with
    | type type =>
      have begins := TypeTree.beginsType loosened ends
      refine takes_unseen (by simp [begins.not_lifetime]) (takes_unseen begins.not_constant ?_)
      refine takes_then ((read type (by simp [ArgumentTree.parts])).whole loosened ends) ?_
      have noBounds : Ahead.mark ":" rest = false := ends.not_mark (by decide)
      have found : (GenericItem.type? (.inr (.type type)) : Option TypeExpr) = some type.expr := rfl
      rw [found]
      generalize type.expr = expr
      split
      · exact takes_after (takes_mark?_of_unseen noValue)
          (takes_after (takes_mark?_of_unseen noBounds) (takes_pure _ rest))
      · exact takes_pure _ rest
    | constant constant =>
      obtain ⟨takes, seen⟩ := takes_constArgument loosened rest
      refine takes_unseen (by simp [not_lifetime_of_constant seen]) (takes_seen seen ?_)
      exact takes_then takes (takes_pure _ rest)
    | binding name identifier named type =>
      obtain ⟨_, rfl, behind⟩ := Loosened.of_ident loosened
      obtain ⟨joined, inner, rfl, loosenedInner⟩ := Loosened.of_mark behind
      have bound : EndsType true (.punct '=' joined :: (inner ++ rest)) :=
        .mark (by decide) joined _
      have begins : BeginsType (.ident name :: .punct '=' joined :: (inner ++ rest)) :=
        .name named bound.unannounced
      have parts : ArgumentTree.parts (.binding name identifier named type) =
        [.named (.ofName name identifier named) [] [], type] := rfl
      rw [parts, List.forall_mem_cons, List.forall_mem_singleton] at read
      refine takes_unseen (by simp [begins.not_lifetime]) (takes_unseen begins.not_constant ?_)
      have nameTokens : TypeTree.tokens (.named (.ofName name identifier named) [] []) =
        [.ident name] := by
        rw [TypeTree.tokens]
        rfl
      have nameRead := read.1.whole (nameTokens ▸ Loosened.refl [.ident name]) bound
      rw [nameTokens, TypeTree.expr] at nameRead
      refine takes_bind nameRead ?_
      have innerBegins := TypeTree.beginsType loosenedInner ends
      refine takes_bind (takes_mark?_of_seen (mark_punct rfl joined _)) ?_
      refine takes_unseen innerBegins.not_constant ?_
      exact takes_then (read.2.whole loosenedInner ends) (takes_pure _ rest)

/-- A generic argument has tokens, and begins with none of the marks that stand around it. -/
theorem GenericItem.begins {item : GenericItem} {tokens rest : List Token}
    (loosened : Loosened tokens item.tokens) (ends : EndsType true rest) :
    tokens ≠ [] ∧ ∀ c ∈ ['>', '<', '='], Ahead.marks [c] (tokens ++ rest) = false := by
  have other (token : Token) (behind : List Token) (plain : ∀ c joined, token ≠ .punct c joined) :
      token :: behind ≠ [] ∧ ∀ c ∈ ['>', '<', '='],
        Ahead.marks [c] (token :: behind ++ rest) = false := by
    refine ⟨List.cons_ne_nil _ _, fun c _ => ?_⟩
    cases token with
    | punct c joined => exact absurd rfl (plain c joined)
    | ident | literal | group => rfl
  have marked {c : Char} (joined : Bool) (behind : List Token) (apart : c ∉ ['>', '<', '=']) :
      .punct c joined :: behind ≠ [] ∧ ∀ d ∈ ['>', '<', '='],
        Ahead.marks [d] (.punct c joined :: behind ++ rest) = false := by
    refine ⟨List.cons_ne_nil _ _, fun d member => ?_⟩
    simp only [List.cons_append, Ahead.marks, beq_eq_false_iff_ne]
    rintro rfl
    exact apart member
  rcases item with lifetime | argument
  · obtain ⟨_, rfl, -⟩ := Loosened.of_joined loosened
    exact marked true _ (by decide)
  · cases argument with
    | type type =>
      have begins := TypeTree.beginsType loosened ends
      have alone := TypeTree.beginsType loosened (@EndsType.nothing true)
      rw [List.append_nil] at alone
      refine ⟨alone.ne_nil, fun c member => ?_⟩
      have apart : ∀ c ∈ ['>', '<', '='], [':', '*', '&', '!'].all (fun d =>
          (String.singleton c).toList.head?.any (· != d)) = true :=
        forall_mem_of_all (by decide)
      have seen : Ahead.mark (String.singleton c) (tokens ++ rest) = false :=
        begins.not_mark (by simp) (apart c member)
      rwa [Ahead.mark, String.toList_singleton] at seen
    | constant constant =>
      rcases constant with ⟨_ | _, numeral⟩ | value
      · obtain ⟨_, rfl, -⟩ := Loosened.of_literal loosened
        exact other _ _ (by simp)
      · obtain ⟨joined, _, rfl, -⟩ := Loosened.of_mark loosened
        exact marked joined _ (by decide)
      · obtain ⟨_, rfl, -⟩ := Loosened.of_ident loosened
        exact other _ _ (by simp)
    | binding name identifier named type =>
      obtain ⟨_, rfl, -⟩ := Loosened.of_ident loosened
      exact other _ _ (by simp)

/-- The step that reads one of the generic arguments. -/
def furtherArgument (g : Grammar) : Parser (Option (Option TypeExpr × Entry)) := do
  if ← sees (Ahead.mark ">") then pure none
  else
    let ((isLifetime, type?), tokens) ← capture (genericArgument g)
    let hasComma := !(← sees (Ahead.mark ">"))
    if hasComma then
      let _ ← capture (mark ",")
    pure (some (type?, Entry.mk isLifetime tokens hasComma))

/-- Generic arguments are read one after the other, up to the closing bracket. -/
theorem rounds_arguments {items : List GenericItem} {tokens rest : List Token} {joined : Bool}
    (read : ∀ item ∈ items, item.AreRead g) (inRow : InRow ',' GenericItem.tokens items tokens) :
    Rounds (furtherArgument g) (tokens ++ .punct '>' joined :: rest) (.punct '>' joined :: rest)
      (GenericItem.entries items) [] := by
  have closed : Ahead.mark ">" (.punct '>' joined :: rest) = true := mark_punct rfl joined _
  induction inRow with
  | @last item tokens loosened =>
    have ends : EndsType true (.punct '>' joined :: rest) := .mark (by decide) joined rest
    obtain ⟨present, begins⟩ := GenericItem.begins loosened ends
    have takes := takes_genericArgument (read item List.mem_cons_self) loosened ends
      (by simp [Ahead.mark, Ahead.marks])
    have shorter : (.punct '>' joined :: rest : List Token).length <
        (tokens ++ .punct '>' joined :: rest).length := by
      have := List.length_pos_of_ne_nil present
      simp only [List.length_append]
      omega
    have step : Takes (furtherArgument g) (tokens ++ .punct '>' joined :: rest)
        (.punct '>' joined :: rest) (some (item.type?, ⟨item.isLeft, item.tokens, false⟩)) [] := by
      refine takes_unseen (begins '>' (by decide)) (takes_after (takes_capture takes) ?_)
      exact takes_after (takes_sees closed) (takes_pure _ _)
    exact .more step shorter (.stop (takes_seen closed (takes_pure none _)))
  | @more item items tokens behind loosened joined' others ih =>
    have ends : EndsType true (.punct ',' joined' :: (behind ++ .punct '>' joined :: rest)) :=
      .mark (by decide) joined' _
    obtain ⟨-, begins⟩ := GenericItem.begins loosened ends
    have takes := takes_genericArgument (read item List.mem_cons_self) loosened ends
      (by simp [Ahead.mark, Ahead.marks])
    have open_ : Ahead.mark ">" (.punct ',' joined' :: (behind ++ .punct '>' joined :: rest)) =
        false := not_mark_punct joined' _ (by decide)
    have further : items.isEmpty = false := by
      cases others <;> rfl
    have shorter : (behind ++ .punct '>' joined :: rest).length <
        (tokens ++ .punct ',' joined' :: (behind ++ .punct '>' joined :: rest)).length := by
      simp only [List.length_append, List.length_cons]
      omega
    have step : Takes (furtherArgument g)
        (tokens ++ .punct ',' joined' :: (behind ++ .punct '>' joined :: rest))
        (behind ++ .punct '>' joined :: rest)
        (some (item.type?, ⟨item.isLeft, item.tokens, true⟩)) [] := by
      refine takes_unseen (begins '>' (by decide)) (takes_after (takes_capture takes) ?_)
      refine takes_after (takes_sees open_) ?_
      exact takes_after (takes_capture (takes_mark (mark_punct rfl joined' _))) (takes_pure _ _)
    rw [List.append_assoc, List.cons_append, GenericItem.entries, further]
    exact .more step shorter (ih fun item member => read item (List.mem_cons_of_mem _ member))

/-- Generic arguments in a row begin with none of the marks that stand around them. -/
theorem GenericItem.begins_inRow {items : List GenericItem} {tokens : List Token}
    (inRow : InRow ',' GenericItem.tokens items tokens) (joined : Bool) (rest : List Token) :
    ∀ c ∈ ['>', '<', '='], Ahead.marks [c] (tokens ++ .punct '>' joined :: rest) = false := by
  cases inRow with
  | last item => exact (GenericItem.begins item (.mark (by decide) joined rest)).2
  | more item joined others =>
    rw [List.append_assoc]
    exact (GenericItem.begins item (.mark (by decide) joined _)).2

/-- Generic arguments are read with the brackets around them. -/
theorem takes_genericArguments {lifetimes : List Lifetime} {arguments : List ArgumentTree}
    {tokens rest : List Token} {joined joined' : Bool}
    (read : ∀ item ∈ GenericItem.inOrder lifetimes arguments, item.AreRead g)
    (inRow : InRow ',' GenericItem.tokens (GenericItem.inOrder lifetimes arguments) tokens) :
    Takes (genericArguments g) (.punct '<' joined :: (tokens ++ .punct '>' joined' :: rest)) rest
      (ArgumentTree.exprs arguments) (.punct '<' false ::
        (separated ',' ((GenericItem.inOrder lifetimes arguments).map GenericItem.tokens) ++
          [.punct '>' false])) := by
  have rounds : Rounds (furtherArgument g) (tokens ++ .punct '>' joined' :: rest)
      (.punct '>' joined' :: rest) _ [] := rounds_arguments read inRow
  rw [← GenericItem.listed_entries, ← GenericItem.types_entries lifetimes]
  have opened : Ahead.mark "<" (.punct '<' joined :: (tokens ++ .punct '>' joined' :: rest)) =
      true := mark_punct rfl joined _
  have closed : Ahead.mark ">" (.punct '>' joined' :: rest) = true := mark_punct rfl joined' _
  have written (inner : List Token) : .punct '<' false :: (inner ++ [.punct '>' false]) =
      [.punct '<' false] ++ (inner ++ [.punct '>' false]) := rfl
  rw [written]
  refine takes_bind (takes_mark opened) ?_
  refine takes_after rounds.takes (takes_bind (takes_emit _ _) ?_)
  exact takes_then (takes_mark closed) (takes_pure _ rest)

/-- The types among generic arguments as they are read, if there are any arguments. -/
def ArgumentTree.exprs? (lifetimes : List Lifetime) (arguments : List ArgumentTree) :
    Option (List TypeExpr) :=
  if lifetimes.isEmpty && arguments.isEmpty then none else some (exprs arguments)

/-- The last name of a path is read with the generic arguments behind it. -/
theorem takes_lastSegment {lifetimes : List Lifetime} {arguments : List ArgumentTree}
    {tokens rest : List Token} (read : ∀ part ∈ arguments.flatMap (·.parts), IsRead g part)
    (unannounced : Ahead.mark "::" rest = false) (bare : Ahead.mark "<" rest = false)
    (loosened : Loosened tokens
      (bracketed (lifetimes.map (·.tokens) ++ ArgumentTree.tokensOfEach arguments)))
    (name : String) (named : isName name = true) :
    Takes (pathSegment g false) (.ident name :: (tokens ++ rest)) rest
      (name, ArgumentTree.exprs? lifetimes arguments) (.ident name ::
        bracketed (lifetimes.map (·.tokens) ++ ArgumentTree.tokensOfEach arguments)) := by
  rw [ArgumentTree.tokensOfEach_eq, ← GenericItem.map_tokens_inOrder] at loosened ⊢
  have all : ∀ item ∈ GenericItem.inOrder lifetimes arguments, item.AreRead g := by
    rintro item member argument rfl part inside
    simp only [GenericItem.inOrder, List.mem_append, List.mem_map, reduceCtorEq, and_false,
      exists_false, Sum.inr.injEq, exists_eq_right, false_or] at member
    exact read part (List.mem_flatMap.mpr ⟨argument, member, inside⟩)
  have empty : GenericItem.inOrder lifetimes arguments = [] ↔
      (lifetimes.isEmpty && arguments.isEmpty) = true := by
    cases lifetimes <;> cases arguments <;> simp [GenericItem.inOrder]
  cases shape : GenericItem.inOrder lifetimes arguments with
  | nil =>
    rw [shape] at loosened
    cases loosened
    rw [ArgumentTree.exprs?, if_pos (empty.mp shape)]
    refine takes_pathSegment_plain named ?_ bare
    simp [Ahead.announced, unannounced]
  | cons first more =>
    rw [shape, List.map_cons, bracketed, List.cons_append] at loosened
    obtain ⟨joined, _, rfl, loosenedBehind⟩ := Loosened.of_mark loosened
    obtain ⟨inner, closing, rfl, loosenedInner, close⟩ := loosenedBehind.of_append
    obtain ⟨joined', _, rfl, none⟩ := Loosened.of_mark close
    cases none
    have inRow : InRow ',' GenericItem.tokens (first :: more) inner :=
      inRow_of_separated loosenedInner
    have begins := GenericItem.begins_inRow inRow joined' rest
    have ne : GenericItem.inOrder lifetimes arguments ≠ [] := by simp [shape]
    rw [ArgumentTree.exprs?, if_neg (mt empty.mpr ne), List.map_cons, bracketed, ← List.map_cons,
      List.cons_append, List.cons_append, List.append_assoc, List.singleton_append]
    rw [← shape] at inRow ⊢
    refine takes_pathSegment_applied named ?_ ?_ ?_ ?_ (takes_genericArguments all inRow)
    · simp [Ahead.announced, Ahead.mark, Ahead.marks]
    · simp [Ahead.mark, Ahead.marks]
    · simp [Ahead.mark, Ahead.marks, begins '=' (by decide)]
    · have apart := begins '<' (by decide)
      generalize inner ++ .punct '>' joined' :: rest = behind at apart
      unfold Ahead.mark
      rcases behind with _ | ⟨_ | _ | ⟨c, joined⟩ | _, behind⟩ <;>
        simp_all [Ahead.marks]

/-- A path is read with the generic arguments behind its last name. -/
theorem takes_appliedPath {path : NamePath} {lifetimes : List Lifetime}
    {arguments : List ArgumentTree} {tokens rest : List Token}
    (read : ∀ part ∈ arguments.flatMap (·.parts), IsRead g part)
    (unannounced : Ahead.mark "::" rest = false) (bare : Ahead.mark "<" rest = false)
    (loosened : Loosened tokens (path.tokens ++
      bracketed (lifetimes.map (·.tokens) ++ ArgumentTree.tokensOfEach arguments))) :
    Takes (unqualifiedPath g false) (tokens ++ rest) rest
      (.ofSegments false path.isAbsolute
        (segments path.names (ArgumentTree.exprs? lifetimes arguments)))
      (path.tokens ++
        bracketed (lifetimes.map (·.tokens) ++ ArgumentTree.tokensOfEach arguments)) := by
  obtain ⟨names, behind, rfl, loosenedNames, loosenedArguments⟩ := loosened.of_append
  rw [List.append_assoc]
  exact takes_unqualifiedPath (takes_lastSegment read unannounced bare loosenedArguments)
    (by simp) unannounced loosenedNames

/-- The segments of a path make the names and the arguments of it. -/
theorem ofSegments_segments (path : NamePath) (lifetimes : List Lifetime)
    (arguments : List ArgumentTree) (isAbsolute : Bool) :
    (PathForm.ofSegments false isAbsolute
      (segments path.names (ArgumentTree.exprs? lifetimes arguments))).names = path.names ∧
    (PathForm.ofSegments false isAbsolute
      (segments path.names (ArgumentTree.exprs? lifetimes arguments))).arguments =
        ArgumentTree.exprs arguments := by
  refine ⟨names_segments _ _, ?_⟩
  rw [PathForm.ofSegments]
  dsimp only
  rw [getLast?_segments path.present, List.getLast?_eq_getLast_of_ne_nil path.present]
  cases lifetimes <;> cases arguments <;> rfl

end RecordCoding.Source
