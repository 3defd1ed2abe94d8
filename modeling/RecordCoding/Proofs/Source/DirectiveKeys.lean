import Mathlib.Data.List.Forall2
import RecordCoding.Proofs.Source.AttributeRuns

/-!
# Keys of directives

The keys of a directive are those of its items, in order, up to the first item that cannot be read.
That item has a key as well if its path can be read, and nothing behind it has one.
-/

namespace RecordCoding.Source

open Source.Parser

/-- An item of which nothing but the key is kept. -/
def keyItem (g : Grammar) (path : PlainPath) : Parser (Harvest String) :=
  Harvest.thenReading [path.key] (skipValue g)

instance answers_keyItem (g : Grammar) (path : PlainPath) : Answers (keyItem g path) :=
  answers_thenReading [path.key] (skipValue g)

instance carriesItems_withGrammar_keyItem {behind : List Token} [Behind behind] (path : PlainPath) :
    CarriesItems behind (withGrammar keyItem path) (withGrammar keyItem path) :=
  carriesItems_deepened fun _ _ => carriesItems_thenReading [path.key]

/-- The keys among arguments. -/
inductive KeysAmong : List Token → List String → Prop
  | nothing : KeysAmong [] []
  /-- An item whose path cannot be read is the last one, and has no key. -/
  | pathless {tokens : List Token} {e : SyntaxError} {after : Cursor}
    (unnamed : itemPath.start ⟨tokens, [], none⟩ = (.error e, after)) : KeysAmong tokens []
  /-- An item that cannot be read behind its path is the last one, and has a key. -/
  | broken {tokens : List Token} {path : PlainPath} {behind after : Cursor} {e : SyntaxError}
    (named : itemPath.start ⟨tokens, [], none⟩ = (.ok path, behind))
    (value : (skipValue (.ofTokens behind.rest)).start behind = (.error e, after)) :
    KeysAmong tokens [path.key]
  /-- So is an item that is not followed by a comma. -/
  | last {tokens : List Token} {path : PlainPath} {behind after : Cursor}
    (named : itemPath.start ⟨tokens, [], none⟩ = (.ok path, behind))
    (value : (skipValue (.ofTokens behind.rest)).start behind = (.ok (), after))
    (noComma : Ahead.mark "," after.rest = false) : KeysAmong tokens [path.key]
  | next {tokens rest : List Token} {path : PlainPath} {behind after : Cursor} {joined : Bool}
    {keys : List String} (named : itemPath.start ⟨tokens, [], none⟩ = (.ok path, behind))
    (value : (skipValue (.ofTokens behind.rest)).start behind = (.ok (), after))
    (comma : after.rest = .punct ',' joined :: rest) (others : KeysAmong rest keys) :
    KeysAmong tokens (path.key :: keys)

/-- What a first item comes to: nothing without a path, and else its key, with a refusal where it
cannot be read behind the path. -/
theorem readFirst_keyItem_cases {tokens : List Token} {found : List String}
    {refusal : Option SyntaxError} {after : Cursor}
    (read : readFirst (withGrammar keyItem) tokens = (.ok ⟨found, refusal⟩, after)) :
    (∃ e, itemPath.start ⟨tokens, [], none⟩ = (.error e, after) ∧ found = [] ∧
      refusal = some e) ∨
    ∃ path behind, itemPath.start ⟨tokens, [], none⟩ = (.ok path, behind) ∧ found = [path.key] ∧
      ((skipValue (.ofTokens behind.rest)).start behind = (.ok (), after) ∧ refusal = none ∨
        ∃ e, (skipValue (.ofTokens behind.rest)).start behind = (.error e, after) ∧
          refusal = some e) := by
  rw [readFirst, readItem, start_bind_of_ok (start_attempt _ _)] at read
  rcases named : itemPath.start ⟨tokens, [], none⟩ with ⟨e | path, behind⟩
  · rw [named] at read
    cases read
    exact Or.inl ⟨e, rfl, rfl, rfl⟩
  · rw [named] at read
    dsimp only at read
    rw [start_withGrammar, keyItem, Harvest.thenReading,
      start_bind_of_ok (start_attempt _ _)] at read
    refine Or.inr ⟨path, behind, rfl, ?_⟩
    rcases value : (skipValue (.ofTokens behind.rest)).start behind with ⟨e | _, last⟩
    · rw [value] at read
      cases read
      exact ⟨rfl, Or.inr ⟨e, rfl, rfl⟩⟩
    · rw [value] at read
      cases read
      exact ⟨rfl, Or.inl ⟨rfl, rfl⟩⟩

/-- An item without a refusal was read to its end. -/
theorem of_readFirst_keyItem {tokens : List Token} {found : List String} {after : Cursor}
    (read : readFirst (withGrammar keyItem) tokens = (.ok (.complete found), after)) :
    ∃ path behind, itemPath.start ⟨tokens, [], none⟩ = (.ok path, behind) ∧ found = [path.key] ∧
      (skipValue (.ofTokens behind.rest)).start behind = (.ok (), after) := by
  rcases readFirst_keyItem_cases read with
    ⟨_, -, -, refused⟩ | ⟨path, behind, named, only, ⟨value, -⟩ | ⟨_, -, refused⟩⟩
  · cases refused
  · exact ⟨path, behind, named, only, value⟩
  · cases refused

/-- The items of a run have the keys among its tokens. -/
theorem keysAmong_of_run {tokens : List Token} {founds : List (List String)}
    {refusal : Option SyntaxError} {left : Option Delimiter}
    (run : Run (withGrammar keyItem) tokens founds refusal left) :
    KeysAmong tokens founds.flatten := by
  induction run with
  | refused read =>
    rw [List.flatten_singleton]
    rcases readFirst_keyItem_cases read with
      ⟨e, unnamed, rfl, -⟩ | ⟨path, behind, named, rfl, ⟨-, complete⟩ | ⟨e, value, -⟩⟩
    · exact .pathless unnamed
    · cases complete
    · exact .broken named value
  | last read done =>
    obtain ⟨path, behind, named, rfl, value⟩ := of_readFirst_keyItem read
    exact .last named value (by rw [done]; rfl)
  | closed read comma =>
    obtain ⟨path, behind, named, rfl, value⟩ := of_readFirst_keyItem read
    exact .next named value comma .nothing
  | unseparated read more noComma =>
    obtain ⟨path, behind, named, rfl, value⟩ := of_readFirst_keyItem read
    exact .last named value noComma
  | next read comma more run others =>
    obtain ⟨path, behind, named, rfl, value⟩ := of_readFirst_keyItem read
    exact .next named value comma others

/-- An item without a path gives nothing. -/
theorem readFirst_of_pathless {tokens : List Token} {e : SyntaxError} {after : Cursor}
    (unnamed : itemPath.start ⟨tokens, [], none⟩ = (.error e, after)) :
    readFirst (withGrammar keyItem) tokens = (.ok ⟨[], some e⟩, after) := by
  rw [readFirst, readItem, start_bind_of_ok (start_attempt _ _), unnamed]
  rfl

/-- An item with a path has a key, and it is refused if what is behind the path is. -/
theorem readFirst_of_named {tokens : List Token} {path : PlainPath} {behind after : Cursor}
    {refusal : Option SyntaxError} (named : itemPath.start ⟨tokens, [], none⟩ = (.ok path, behind))
    (value : (skipValue (.ofTokens behind.rest)).start behind =
      (refusal.elim (.ok ()) .error, after)) :
    readFirst (withGrammar keyItem) tokens = (.ok ⟨[path.key], refusal⟩, after) := by
  rw [readFirst, readItem, start_bind_of_ok (start_attempt _ _), named]
  dsimp only
  rw [start_withGrammar, keyItem, Harvest.thenReading, start_bind_of_ok (start_attempt _ _), value]
  cases refusal <;> rfl

/-- No key is among no tokens. -/
theorem KeysAmong.eq_nil {keys : List String} (among : KeysAmong [] keys) : keys = [] := by
  have missing : (itemPath.start ⟨[], [], none⟩).1.isOk = false := rfl
  cases among with
  | nothing | pathless _ => rfl
  | broken named _ | last named _ _ | next named _ _ _ =>
    rw [named] at missing
    cases missing

/-- Keys among tokens are those of the items of a run. -/
theorem KeysAmong.exists_run {tokens : List Token} {keys : List String}
    (among : KeysAmong tokens keys) (nonempty : tokens ≠ []) : ∃ founds refusal left,
      Run (withGrammar keyItem) tokens founds refusal left ∧ founds.flatten = keys := by
  induction among with
  | nothing => exact absurd rfl nonempty
  | pathless unnamed => exact ⟨_, _, _, .refused (readFirst_of_pathless unnamed), rfl⟩
  | @broken _ _ _ _ e named value =>
    have read := @readFirst_of_named _ _ _ _ (some e) named value
    exact ⟨_, _, _, .refused read, rfl⟩
  | @last _ _ _ after named value noComma =>
    have read := @readFirst_of_named _ _ _ _ none named value
    by_cases done : after.rest = []
    · exact ⟨_, _, _, .last read done, rfl⟩
    · exact ⟨_, _, _, .unseparated read done noComma, rfl⟩
  | @next _ rest _ _ _ _ _ named value comma others ih =>
    have read := @readFirst_of_named _ _ _ _ none named value
    by_cases more : rest = []
    · subst more
      rw [others.eq_nil]
      exact ⟨_, _, _, .closed read comma, rfl⟩
    · obtain ⟨founds, refusal, left, run, rfl⟩ := ih more
      exact ⟨_, _, _, .next read comma more run, rfl⟩

/-- The keys that are read of arguments are those among them. -/
theorem keysAmong_iff {tokens : List Token} {keys : List String} :
    KeysAmong tokens keys ↔ (harvestTokens keyItem tokens).found = keys := by
  by_cases empty : tokens = []
  · subst empty
    constructor
    · intro among
      exact among.eq_nil.symm
    · rintro rfl
      exact .nothing
  · constructor
    · intro among
      obtain ⟨founds, refusal, left, run, rfl⟩ := among.exists_run empty
      rw [harvestTokens_of_run empty run]
    · rintro rfl
      obtain ⟨founds, refusal, left, run⟩ : ∃ founds refusal left,
        Run (withGrammar keyItem) tokens founds refusal left := Run.exists_run tokens
      rw [harvestTokens_of_run empty run]
      exact keysAmong_of_run run

/-- The keys of an attribute: those among its arguments, if it has any. -/
def Attribute.HasKeys (attr : Attribute) (keys : List String) : Prop :=
  match attr.body with
  | .arguments tokens => KeysAmong tokens keys
  | .nothing | .value => keys = []

/-- What is read of one attribute are its keys. -/
theorem Attribute.hasKeys_iff {attr : Attribute} {keys : List String} :
    attr.HasKeys keys ↔ (attr.harvest keyItem).found = keys := by
  unfold HasKeys harvest
  cases attr.body with
  | arguments tokens => exact keysAmong_iff
  | nothing => exact eq_comm
  | value => exact eq_comm

/-- The keys of directives are those of each in turn. -/
theorem directiveKeys_iff {attrs : List Attribute} {keys : List String} :
    directiveKeys attrs = keys ↔
      ∃ each, List.Forall₂ Attribute.HasKeys (attrs.filter (·.name == some "codify")) each ∧
        each.flatten = keys := by
  have related (each : List (List String)) :
      List.Forall₂ Attribute.HasKeys (attrs.filter (·.name == some "codify")) each ↔
        (attrs.filter Attribute.isDirective).map (fun attr => (attr.harvest keyItem).found) =
          each := by
    have read : Attribute.HasKeys = fun attr keys => (attr.harvest keyItem).found = keys := by
      funext attr keys
      exact propext Attribute.hasKeys_iff
    rw [read, ← List.forall₂_map_left_iff, List.forall₂_eq_eq_eq]
    rfl
  unfold directiveKeys
  rw [List.flatMap_def]
  constructor
  · rintro rfl
    exact ⟨_, (related _).mpr rfl, rfl⟩
  · rintro ⟨each, found, rfl⟩
    rw [← (related each).mp found]
    rfl

end RecordCoding.Source
