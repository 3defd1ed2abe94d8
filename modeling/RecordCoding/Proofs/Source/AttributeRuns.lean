import RecordCoding.Proofs.Source.AttributeItems

/-!
# Runs over the arguments of an attribute

The arguments of an attribute are read item by item. A run says which items there are, what each of
them gives, and why reading stops. Every list of tokens has one run and no other, and the run is
what reading comes to.
-/

namespace RecordCoding.Source

open Source.Parser

/-! ## Readers that do not refuse -/

namespace Parser

variable {α β : Type}

/-- A reader that never refuses. -/
class Answers (p : Parser α) : Prop where
  answers : ∀ c, ∃ a c', p.start c = (.ok a, c')

instance answers_pure (a : α) : Answers (pure a : Parser α) := ⟨fun c => ⟨a, c, rfl⟩⟩

instance answers_sees (test : List Token → Bool) : Answers (sees test) :=
  ⟨fun c => ⟨test c.rest, c, rfl⟩⟩

instance answers_ahead : Answers ahead := ⟨fun c => ⟨c.rest, c, rfl⟩⟩

instance answers_attempt (p : Parser α) : Answers (attempt p) :=
  ⟨fun c => ⟨(p.start c).1, (p.start c).2, rfl⟩⟩

instance answers_bind (p : Parser α) (k : α → Parser β) [Answers p]
    [then_ : ∀ a, Answers (k a)] : Answers (p >>= k) where
  answers c := by
    obtain ⟨a, c', first⟩ := ‹Answers p›.answers c
    rw [start_bind_of_ok first]
    exact (then_ a).answers c'

instance answers_ite (p q : Parser α) (condition : Prop) [Decidable condition] [Answers p]
    [Answers q] : Answers (if condition then p else q) := by
  by_cases holds : condition
  · rw [if_pos holds]
    infer_instance
  · rw [if_neg holds]
    infer_instance

end Parser

section Answers

instance answers_thenReading {β : Type} (found : List β) (p : Parser Unit) :
    Answers (Harvest.thenReading found p) :=
  @answers_bind _ _ _ _ _ fun outcome => by cases outcome <;> infer_instance

variable (g : Grammar)

instance answers_literalEffects (node : Node) (key : String) (effect : String → Effect) :
    Answers (literalEffects g node key effect) := by
  dsimp only [literalEffects]
  refine @answers_bind _ _ _ _ _ fun seen => @answers_ite _ _ _ _ _
    (@answers_bind _ _ _ _ _ fun value => ?_) _
  split
  · infer_instance
  · split <;> infer_instance
  · infer_instance

instance answers_defaultEffects : Answers (defaultEffects g) := by
  dsimp only [defaultEffects]
  refine @answers_bind _ _ _ _ _ fun seen => @answers_ite _ _ _ _ _
    (@answers_bind _ _ _ _ _ fun value => ?_) _
  cases value <;> infer_instance

instance answers_effectBehindValue (effect : Effect) : Answers (effectBehindValue g effect) :=
  @answers_bind _ _ _ _ _ fun outcome => by cases outcome <;> infer_instance

instance answers_commonEffects (node : Node) (key : String) :
    Answers (commonEffects g node key) := by
  dsimp only [commonEffects]
  split <;> infer_instance

instance answers_itemEffects (node : Node) (path : PlainPath) :
    Answers (itemEffects node g path) := by
  dsimp only [itemEffects]
  split <;> infer_instance

/-- Looking for a deep enough grammar is no reason to refuse. -/
instance answers_withGrammar {β : Type} (item : Grammar → PlainPath → Parser (Harvest β))
    (path : PlainPath) [items : ∀ g, Answers (item g path)] : Answers (withGrammar item path) :=
  @answers_bind _ _ _ _ _ fun tokens => items (.ofTokens tokens)

instance answers_readItem {β : Type} (item : PlainPath → Parser (Harvest β))
    [items : ∀ path, Answers (item path)] : Answers (readItem item) :=
  @answers_bind _ _ _ _ _ fun path => by
    cases path with
    | error e => exact answers_pure _
    | ok path => exact items path

end Answers

/-! ## Runs -/

section Runs

variable {α : Type}

/-- What a first item comes to, with the place where it ends. -/
def readFirst (item : PlainPath → Parser (Harvest α)) (tokens : List Token) :
    Except SyntaxError (Harvest α) × Cursor :=
  (readItem item).start ⟨tokens, [], none⟩

/-- The items among tokens: what each of them gives, why reading stops in front of the end, and the
first group that is left before its end. An item that is refused is the last one, and what it gave
before the refusal stands. -/
inductive Run (item : PlainPath → Parser (Harvest α)) :
    List Token → List (List α) → Option SyntaxError → Option Delimiter → Prop
  | refused {tokens : List Token} {found : List α} {e : SyntaxError} {after : Cursor}
    (read : readFirst item tokens = (.ok ⟨found, some e⟩, after)) :
    Run item tokens [found] (some e) after.leftover
  | last {tokens : List Token} {found : List α} {after : Cursor}
    (read : readFirst item tokens = (.ok (.complete found), after)) (done : after.rest = []) :
    Run item tokens [found] none after.leftover
  | closed {tokens : List Token} {found : List α} {after : Cursor} {joined : Bool}
    (read : readFirst item tokens = (.ok (.complete found), after))
    (comma : after.rest = [.punct ',' joined]) : Run item tokens [found] none after.leftover
  | unseparated {tokens : List Token} {found : List α} {after : Cursor}
    (read : readFirst item tokens = (.ok (.complete found), after)) (more : after.rest ≠ [])
    (noComma : Ahead.mark "," after.rest = false) :
    Run item tokens [found] (some (.missing ",")) after.leftover
  | next {tokens rest : List Token} {found : List α} {after : Cursor} {joined : Bool}
    {founds : List (List α)} {refusal : Option SyntaxError} {left : Option Delimiter}
    (read : readFirst item tokens = (.ok (.complete found), after))
    (comma : after.rest = .punct ',' joined :: rest) (more : rest ≠ [])
    (run : Run item rest founds refusal left) :
    Run item tokens (found :: founds) refusal (after.leftover.or left)

/-- Where a comma comes next, it is the first token. -/
theorem exists_of_comma {tokens : List Token} (seen : Ahead.mark "," tokens = true) :
    ∃ joined rest, tokens = .punct ',' joined :: rest := by
  match tokens with
  | .punct found joined :: rest =>
    have same : (',' == found) = true := seen
    exact ⟨joined, rest, by rw [eq_of_beq same]⟩
  | [] | .ident _ :: _ | .literal _ :: _ | .group .. :: _ => cases seen

/-- The cursor behind an item that was read apart from what is before it. -/
def Cursor.behindItem (cursor after : Cursor) : Cursor where
  rest := after.rest
  written := after.written ++ cursor.written
  leftover := cursor.leftover.or after.leftover

/-- The cursor behind a comma. -/
def Cursor.behindComma (cursor : Cursor) (rest : List Token) : Cursor where
  rest := rest
  written := .punct ',' false :: cursor.written
  leftover := cursor.leftover

section Steps

variable {item : PlainPath → Parser (Harvest α)} {bound : Nat} {c after : Cursor}

/-- A first item that is read apart. -/
theorem start_apart_readItem {here : Harvest α}
    (read : readFirst item c.rest = (.ok here, after)) :
    (apart (readItem item)).start c = (.ok here, c.behindItem after) :=
  congrArg (fun result => (result.1, c.behindItem result.2)) read

/-- The look whether anything is in front leaves the cursor where it is. -/
theorem start_atEnd (c : Cursor) : atEnd.start c = (.ok c.rest.isEmpty, c) := rfl

/-- A refused item is the last one. -/
theorem start_readItems_of_refused {found : List α} {e : SyntaxError}
    (read : readFirst item c.rest = (.ok ⟨found, some e⟩, after)) :
    (readItems item (bound + 1)).start c = (.ok ⟨found, some e⟩, c.behindItem after) := by
  rw [readItems, start_bind_of_ok (start_apart_readItem read)]
  rfl

variable {found : List α} (read : readFirst item c.rest = (.ok (.complete found), after))

include read

/-- An item up to the end is the last one. -/
theorem start_readItems_of_last (done : after.rest = []) :
    (readItems item (bound + 1)).start c = (.ok (.complete found), c.behindItem after) := by
  have atEnd : (c.behindItem after).rest.isEmpty = true := by
    rw [Cursor.behindItem, done]
    rfl
  rw [readItems, start_bind_of_ok (start_apart_readItem read),
    start_bind_of_ok (start_atEnd _), atEnd]
  rfl

/-- Behind an item that is not the last one there has to be a comma. -/
theorem start_readItems_of_unseparated (more : after.rest ≠ [])
    (noComma : Ahead.mark "," after.rest = false) :
    (readItems item (bound + 1)).start c =
      (.ok ⟨found, some (.missing ",")⟩, c.behindItem after) := by
  have goesOn : (c.behindItem after).rest.isEmpty = false := List.isEmpty_eq_false_iff.mpr more
  have unseen : Ahead.mark "," (c.behindItem after).rest = false := noComma
  have refused : (attempt (mark ",")).start (c.behindItem after) =
      (.ok (.error (.missing ",")), c.behindItem after) := by
    rw [start_attempt, start_mark_of_unseen unseen]
  rw [readItems, start_bind_of_ok (start_apart_readItem read),
    start_bind_of_ok (start_atEnd _), goesOn]
  exact start_bind_of_ok refused

variable {joined : Bool} {rest : List Token} (comma : after.rest = .punct ',' joined :: rest)

include comma

omit read in
/-- A comma that comes next is passed over. -/
theorem start_comma : (attempt (mark ",")).start (c.behindItem after) =
    (.ok (.ok ()), (c.behindItem after).behindComma rest) := by
  have seen : Ahead.mark "," (c.behindItem after).rest = true := by
    rw [Cursor.behindItem, comma]
    rfl
  rw [start_attempt, start_mark_of_seen seen, Cursor.behindItem, comma]
  rfl

/-- A comma may be behind the last item. -/
theorem start_readItems_of_closed (none : rest = []) :
    (readItems item (bound + 1)).start c =
      (.ok (.complete found), (c.behindItem after).behindComma rest) := by
  have goesOn : (c.behindItem after).rest.isEmpty = false := by
    rw [Cursor.behindItem, comma]
    rfl
  rw [readItems, start_bind_of_ok (start_apart_readItem read),
    start_bind_of_ok (start_atEnd _), goesOn]
  refine (start_bind_of_ok (start_comma comma)).trans ?_
  rw [none]
  rfl

/-- Behind the comma the next item is read. -/
theorem start_readItems_of_next (more : rest ≠ []) {founds : List α}
    {refusal : Option SyntaxError} {last : Cursor}
    (others : (readItems item bound).start ((c.behindItem after).behindComma rest) =
      (.ok ⟨founds, refusal⟩, last)) :
    (readItems item (bound + 1)).start c = (.ok ⟨found ++ founds, refusal⟩, last) := by
  have goesOn : (c.behindItem after).rest.isEmpty = false := by
    rw [Cursor.behindItem, comma]
    rfl
  have open_ : ((c.behindItem after).behindComma rest).rest.isEmpty = false :=
    List.isEmpty_eq_false_iff.mpr more
  rw [readItems, start_bind_of_ok (start_apart_readItem read),
    start_bind_of_ok (start_atEnd _), goesOn]
  refine (start_bind_of_ok (start_comma comma)).trans ?_
  refine (start_bind_of_ok (start_atEnd _)).trans ?_
  rw [open_]
  exact start_bind_of_ok others

end Steps

namespace Run

variable {item : PlainPath → Parser (Harvest α)} {tokens : List Token}

/-- There is a run over any tokens. -/
theorem exists_run [Answers (readItem item)] [CarriesItems [] (readItem item) (readItem item)]
    (tokens : List Token) : ∃ founds refusal left, Run item tokens founds refusal left := by
  induction length : tokens.length using Nat.strong_induction_on generalizing tokens with
  | _ size ih =>
    obtain ⟨⟨found, refusal⟩, after, read⟩ :=
      ‹Answers (readItem item)›.answers ⟨tokens, [], none⟩
    cases refusal with
    | some e => exact ⟨_, _, _, .refused read⟩
    | none =>
      obtain ⟨suffix, -⟩ := ‹CarriesItems [] (readItem item) (readItem item)›.carry read
      by_cases done : after.rest = []
      · exact ⟨_, _, _, .last read done⟩
      · cases seen : Ahead.mark "," after.rest with
        | false => exact ⟨_, _, _, .unseparated read done seen⟩
        | true =>
          obtain ⟨joined, rest, comma⟩ := exists_of_comma seen
          by_cases more : rest = []
          · exact ⟨_, _, _, .closed read (more ▸ comma)⟩
          · have shorter : rest.length < size := by
              have within : after.rest.length ≤ tokens.length := suffix.length_le
              rw [comma, length] at within
              exact within
            obtain ⟨founds, refusal, left, run⟩ := ih _ shorter rest rfl
            exact ⟨_, _, _, .next read comma more run⟩

/-- Reading items comes to what the run says, provided that there may be enough of them. -/
theorem readItems [shrinks : CarriesItems [] (readItem item) (readItem item)]
    {founds : List (List α)} {refusal : Option SyntaxError} {left : Option Delimiter}
    (run : Run item tokens founds refusal left) {bound : Nat} (enough : tokens.length ≤ bound)
    {c : Cursor} (here : c.rest = tokens) :
    ∃ last, (Source.readItems item (bound + 1)).start c = (.ok ⟨founds.flatten, refusal⟩, last) ∧
      last.leftover = c.leftover.or left := by
  induction run generalizing bound c with
  | refused read =>
    rw [← here] at read
    rw [List.flatten_singleton]
    exact ⟨_, start_readItems_of_refused read, rfl⟩
  | last read done =>
    rw [← here] at read
    rw [List.flatten_singleton]
    exact ⟨_, start_readItems_of_last read done, rfl⟩
  | closed read comma =>
    rw [← here] at read
    rw [List.flatten_singleton]
    exact ⟨_, start_readItems_of_closed read comma rfl, rfl⟩
  | unseparated read more noComma =>
    rw [← here] at read
    rw [List.flatten_singleton]
    exact ⟨_, start_readItems_of_unseparated read more noComma, rfl⟩
  | @next tokens rest found after joined founds refusal left read comma more run ih =>
    have within : after.rest.length ≤ tokens.length := (shrinks.carry read).1.length_le
    rw [comma, List.length_cons] at within
    obtain ⟨bound, rfl⟩ : ∃ fewer, bound = fewer + 1 := Nat.exists_eq_add_one.mpr (by omega)
    have fewer : rest.length ≤ bound := by omega
    rw [← here] at read
    obtain ⟨last, others, open_⟩ :=
      ih fewer (show ((c.behindItem after).behindComma rest).rest = rest from rfl)
    refine ⟨last, ?_, open_.trans Option.or_assoc⟩
    rw [List.flatten_cons]
    exact start_readItems_of_next read comma more others

end Run

end Runs

/-! ## Runs over attributes -/

section Attributes

variable {α : Type} {item : Grammar → PlainPath → Parser (Harvest α)} {tokens : List Token}

/-- What an attribute gives is what its run says. A group that is left before its end is a reason
to refuse when everything else was read. -/
theorem harvestTokens_of_run [CarriesItems [] (readItem (withGrammar item))
      (readItem (withGrammar item))] {founds : List (List α)} {refusal : Option SyntaxError}
    {left : Option Delimiter} (nonempty : tokens ≠ [])
    (run : Run (withGrammar item) tokens founds refusal left) :
    harvestTokens item tokens =
      ⟨founds.flatten, refusal.or (left.map fun delimiter => .leftover (some delimiter))⟩ := by
  obtain ⟨last, read, open_⟩ := run.readItems (Nat.le_refl _)
    (show Cursor.rest ⟨tokens, [], none⟩ = tokens from rfl)
  rw [harvestTokens, if_neg (by rwa [List.isEmpty_iff]), read]
  dsimp only
  rw [open_]
  rfl

end Attributes

end RecordCoding.Source
