import RecordCoding.Proofs.Source.GrowthOfItems
import RecordCoding.Source.Lowering

/-!
# Items of attributes

An item that can be read alone is read in the same way in front of a comma and further items, and
has the same effects there.
-/

namespace RecordCoding.Source

open Source.Parser

set_option synthInstance.maxSize 100000

/-! ## Attempts -/

/-- An attempt has an outcome, and leaves the cursor where the reader did. -/
theorem Parser.start_attempt {α : Type} (p : Parser α) (c : Cursor) :
    (attempt p).start c = (.ok (p.start c).1, (p.start c).2) := rfl

section Items

variable {α β : Type} {behind : List Token}

/-- What one reader finds without a refusal, another one finds in the same way where the tokens go
on. -/
class CarriesItems (behind : List Token) (p q : Parser (Harvest β)) : Prop where
  carry : ∀ {c c' : Cursor} {found : List β}, p.start c = (.ok (.complete found), c') →
    c'.rest <:+ c.rest ∧ q.start (c.before behind) = (.ok (.complete found), c'.before behind)

instance carriesItems_of_carries {p q : Parser (Harvest β)} [Carries behind p q] :
    CarriesItems behind p q where
  carry read := Carries.carry read

instance carriesItems_choice {test : List Token → Bool} [Ahead.Steady behind test]
    {p q r s : Parser (Harvest β)} [CarriesItems behind p q] [CarriesItems behind r s] :
    CarriesItems behind (sees test >>= fun seen => if seen = true then p else r)
      (sees test >>= fun seen => if seen = true then q else s) where
  carry {c c' found} read := by
    have going : (sees test).start (c.before behind) = (.ok (test c.rest), c.before behind) :=
      congrArg (fun seen => (Except.ok seen, _)) (Ahead.Steady.eq c.rest)
    rw [start_bind_of_ok (start_sees test c)] at read
    rw [start_bind_of_ok going]
    cases seen : test c.rest with
    | true =>
      rw [seen] at read
      exact ‹CarriesItems behind p q›.carry read
    | false =>
      rw [seen] at read
      exact ‹CarriesItems behind r s›.carry read

/-- What depends on an attempt that, where it fails, is the refusal. -/
theorem carriesItems_attempt {p q : Parser α} [Carries behind p q]
    {k l : Except SyntaxError α → Parser (Harvest β)}
    (refuses : ∀ e c c' found, (k (.error e)).start c ≠ (.ok (.complete found), c'))
    (then_ : ∀ a, CarriesItems behind (k (.ok a)) (l (.ok a))) :
    CarriesItems behind (attempt p >>= k) (attempt q >>= l) where
  carry {c c' found} read := by
    rw [start_bind_of_ok (start_attempt p c)] at read
    rcases first : p.start c with ⟨e | a, after⟩
    · rw [first] at read
      exact absurd read (refuses e _ _ _)
    · rw [first] at read
      obtain ⟨suffix, reads⟩ := ‹Carries behind p q›.carry first
      obtain ⟨suffix', reads'⟩ := (then_ a).carry read
      refine ⟨suffix'.trans suffix, ?_⟩
      rw [start_bind_of_ok (start_attempt q _), reads]
      exact reads'

end Items

/-! ## The readers of items -/

section Readers

variable {behind : List Token} [Behind behind] {g g' : Grammar} [Grows g g']

instance carries_itemPath : Carries behind itemPath itemPath := by
  dsimp only [itemPath]
  refine @carries_bind _ _ _ _ _ _ _ _ fun isAbsolute =>
    @carries_choice _ _ _ _ _ _ _ _ _ ⟨fun {c c' a} read => ?_⟩ _
  -- Without a word there is a refusal, whatever the look at the end of the tokens says.
  exfalso
  obtain ⟨atEnd, after, -, read⟩ := of_start_bind read
  cases atEnd with
  | true => cases read
  | false =>
    obtain ⟨isLiteral, after, -, read⟩ := of_start_bind read
    cases isLiteral <;> cases read

/-- What is no group of the kind is refused where it stands. -/
theorem start_group_of_unseen {α : Type} {p : Parser α} {delimiter : Delimiter} {c : Cursor}
    (unseen : Ahead.group delimiter c.rest = false) :
    ∃ e, (Parser.group delimiter p).start c = (.error e, c) := by
  obtain ⟨rest, written, leftover⟩ := c
  match rest with
  | .group found content :: tail =>
    have other : found ≠ delimiter := by simpa [Ahead.group] using unseen
    refine ⟨.expected [delimiter.name] false, ?_⟩
    rw [Parser.group, start_bind_of_ok (start_ahead _)]
    dsimp only
    rw [if_neg other]
    rfl
  | [] | .ident _ :: _ | .literal _ :: _ | .punct .. :: _ => exact ⟨_, rfl⟩

/-- Passing over items ends where the group does, whatever is in it. -/
theorem start_skipItems (c : Cursor) :
    skipItems.start c = (.ok (), ((group .parenthesis enclosedItems).start c).2) := rfl

instance carries_skipItems : Carries behind skipItems skipItems where
  carry {c c' a} read := by
    rw [start_skipItems] at read ⊢
    cases seen : Ahead.group .parenthesis c.rest with
    | true =>
      obtain ⟨rest, written, leftover⟩ := c
      match rest with
      | .group found content :: tail =>
        obtain rfl : found = .parenthesis := by simpa [Ahead.group] using seen
        have going := @start_group _ enclosedItems .parenthesis content (tail ++ behind) written
          leftover
        rw [start_group] at read
        cases read
        exact ⟨List.suffix_cons .., congrArg (fun r => (Except.ok (), r.2)) going⟩
      | [] | .ident _ :: _ | .literal _ :: _ | .punct .. :: _ => cases seen
    | false =>
      have still : Ahead.group .parenthesis (c.before behind).rest = false :=
        (Ahead.Steady.eq c.rest).trans seen
      obtain ⟨e, refused⟩ := @start_group_of_unseen _ enclosedItems _ _ seen
      obtain ⟨e', refused'⟩ := @start_group_of_unseen _ enclosedItems _ _ still
      rw [refused] at read
      cases read
      rw [refused']
      exact ⟨List.suffix_rfl, rfl⟩

instance carries_skipValue : Carries behind (skipValue g) (skipValue g') := by
  dsimp only [skipValue]
  infer_instance

instance carriesItems_thenReading {β : Type} (found : List β) {p q : Parser Unit}
    [Carries behind p q] :
    CarriesItems behind (Harvest.thenReading found p) (Harvest.thenReading found q) :=
  carriesItems_attempt (fun _ _ _ _ read => by cases read) fun _ => inferInstance

instance carriesItems_literalEffects (node : Node) (key : String) (effect : String → Effect) :
    CarriesItems behind (literalEffects g node key effect) (literalEffects g' node key effect) := by
  dsimp only [literalEffects]
  refine @carriesItems_choice _ _ _ _ _ _ _ _ (carriesItems_attempt
    (fun _ _ _ _ read => by cases read) fun value => ?_) _
  cases value with
  | literal text =>
    cases text with
    | none => infer_instance
    | some text =>
      dsimp only
      split <;> infer_instance
  | _ => infer_instance

instance carriesItems_defaultEffects :
    CarriesItems behind (defaultEffects g) (defaultEffects g') := by
  dsimp only [defaultEffects]
  exact @carriesItems_choice _ _ _ _ _ _ _ _ (carriesItems_attempt
    (fun _ _ _ _ read => by cases read) fun _ => inferInstance) _

instance carriesItems_effectBehindValue (effect : Effect) :
    CarriesItems behind (effectBehindValue g effect) (effectBehindValue g' effect) :=
  carriesItems_attempt (fun _ _ _ _ read => by cases read) fun _ => inferInstance

instance carriesItems_commonEffects (node : Node) (key : String) :
    CarriesItems behind (commonEffects g node key) (commonEffects g' node key) := by
  dsimp only [commonEffects]
  split <;> infer_instance

instance carriesItems_itemEffects (node : Node) (path : PlainPath) :
    CarriesItems behind (itemEffects node g path) (itemEffects node g' path) := by
  dsimp only [itemEffects]
  cases node <;> cases TypeOption.ofKey? path.key <;> dsimp only
  · split <;> infer_instance
  · infer_instance
  · split <;> infer_instance
  · infer_instance

end Readers

/-! ## Items alone and in front of others -/

section Reading

variable {behind : List Token} [Behind behind]

/-- An item behind its path. -/
theorem start_withGrammar {α : Type} (item : Grammar → PlainPath → Parser (Harvest α))
    (path : PlainPath) (c : Cursor) :
    (withGrammar item path).start c = (item (.ofTokens c.rest) path).start c :=
  start_bind_of_ok (start_ahead c)

omit [Behind behind] in
/-- The grammar that is deep enough in front of further tokens has at least as many levels. -/
theorem carriesItems_deepened {α : Type} {item : Grammar → PlainPath → Parser (Harvest α)}
    {path : PlainPath} (items : ∀ g g' : Grammar, [Grows g g'] →
      CarriesItems behind (item g path) (item g' path)) :
    CarriesItems behind (withGrammar item path) (withGrammar item path) where
  carry {c c' found} read := by
    have deeper : 4 * Token.weightOfAll c.rest + 8 ≤
        4 * Token.weightOfAll (c.rest ++ behind) + 8 := by
      rw [Token.weightOfAll_append]
      omega
    have grows : Grows (Grammar.ofTokens c.rest) (Grammar.ofTokens (c.rest ++ behind)) :=
      grows_ofDepth deeper
    rw [start_withGrammar] at read
    rw [start_withGrammar]
    exact (items (.ofTokens c.rest) (.ofTokens (c.rest ++ behind))).carry read

instance carriesItems_withGrammar (node : Node) (path : PlainPath) :
    CarriesItems behind (withGrammar (itemEffects node) path)
      (withGrammar (itemEffects node) path) :=
  carriesItems_deepened fun _ _ => inferInstance

instance carriesItems_readItem {β : Type} {item item' : PlainPath → Parser (Harvest β)}
    [items : ∀ path, CarriesItems behind (item path) (item' path)] :
    CarriesItems behind (readItem item) (readItem item') :=
  carriesItems_attempt (fun _ _ _ _ read => by cases read) fun path => items path

end Reading

end RecordCoding.Source
