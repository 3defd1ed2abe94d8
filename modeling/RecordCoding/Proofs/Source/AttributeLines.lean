import RecordCoding.Proofs.Source.AttributeRuns
import RecordCoding.Proofs.Source.RefusalsOfItems
import RecordCoding.Proofs.Source.SourceNames

/-!
# Reports on attributes in one line

Names in source text are lines, and so are the keys of directives, which are put together from
names. Values are texts of any kind, but only one of them is repeated in a report: the tag of a case
style that does not exist.
-/

namespace RecordCoding.Source

open Source.Parser Text

/-! ## Names -/

/-- Nothing that breaks a line is part of a word. -/
theorem notMem_of_isWord {chars : List Char} (word : IsWord chars) {c : Char}
    (breaks : isLineBreak c = true) : c ∉ chars := by
  have other : ∀ d ∈ lineBreaks, isIdentifierStart d = false ∧ isIdentifierContinue d = false :=
    forall_mem_of_all (by decide +kernel)
  obtain ⟨noStart, noContinue⟩ := other c (List.contains_iff_mem.mp breaks)
  obtain ⟨start, continues⟩ := word
  intro member
  rcases List.mem_cons.mp member with rfl | later
  · rw [start] at noStart
    cases noStart
  · rw [continues c later] at noContinue
    cases noContinue

/-- What is written as an identifier is a line. -/
theorem isLine_of_isIdentifierText {name : String} (written : IsIdentifierText name) :
    isLine name = true := by
  rw [isLine_iff]
  intro c breaks member
  unfold IsIdentifierText at written
  generalize name.toList = chars at member written
  cases written with
  | plain word => exact notMem_of_isWord word breaks member
  | raw word allowed =>
    rcases List.mem_cons.mp member with rfl | member
    · cases breaks
    rcases List.mem_cons.mp member with rfl | member
    · cases breaks
    · exact notMem_of_isWord word breaks member

/-- A line without the mark of raw identifiers is a line. -/
theorem isLine_unraw {name : String} (line : isLine name = true) : isLine (unraw name) = true := by
  unfold unraw
  split
  · rename_i marked
    rw [isLine, marked] at line
    rw [isLine, String.toList_ofList]
    exact List.all_eq_true.mpr fun c member => List.all_eq_true.mp line c (by simp [member])
  · exact line

/-- A position is a line. -/
theorem isLine_toString (position : Nat) : isLine (toString position) = true := by
  rw [isLine_iff]
  intro c breaks member
  have digit : c.isDigit = true := by
    rw [Nat.toString_eq_repr, Nat.repr, String.toList_ofList] at member
    exact Nat.isDigit_of_mem_toDigits (by decide) (by decide) member
  have other : ∀ d ∈ lineBreaks, d.isDigit = false := forall_mem_of_all (by decide)
  rw [other c (List.contains_iff_mem.mp breaks)] at digit
  cases digit

/-- So every field has a line for a name. -/
theorem SourceField.IsSpelt.isLine_fieldName {field : SourceField} (spelt : field.IsSpelt)
    (position : Nat) : isLine (fieldName position field) = true := by
  unfold fieldName
  split
  · rename_i name own
    refine isLine_unraw ?_
    rcases spelt.name name own with rfl | named
    · decide
    · exact isLine_of_isIdentifierText named.written
  · exact isLine_toString position

/-- The key for a path is a line if its names are. -/
theorem PlainPath.isLine_key {path : PlainPath} (lines : ∀ name ∈ path.names, isLine name = true) :
    isLine path.key = true := by
  unfold key
  split
  · rename_i name single
    refine isLine_unraw (lines name ?_)
    unfold single? at single
    split at single
    · rename_i only
      cases single
      rw [only]
      exact List.mem_singleton_self _
    · cases single
  · have between : isLine "::" = true := isLine_ofList rfl
    rw [TypeExpr.pathText, isLine_append, isLine_intercalate between lines]
    split <;> decide

/-! ## Readers of items -/

/-- All that was found has a property, and a refusal is in one line. -/
structure Harvest.Has {α : Type} (P : α → Prop) (harvest : Harvest α) : Prop where
  found : ∀ a ∈ harvest.found, P a
  refusal : ∀ e ∈ harvest.refusal, e.IsLine

section Readers

variable {α β : Type} {P : α → Prop} {Q : β → Prop}

theorem has_complete {found : List β} (all : ∀ a ∈ found, Q a) :
    (Harvest.complete found).Has Q := ⟨all, nofun⟩

theorem has_refused {found : List β} (all : ∀ a ∈ found, Q a) {e : SyntaxError}
    (line : e.IsLine) : Harvest.Has Q ⟨found, some e⟩ := by
  refine ⟨all, ?_⟩
  rintro _ ⟨⟩
  exact line

/-- What depends on an attempt has the property if it has it where the reader succeeds and does
nothing but report where it refuses. -/
theorem gives_attempt {p : Parser α} [Carries [] p p]
    {k : Except SyntaxError α → Parser (Harvest β)} (terse : ∀ c, Terse p c) (first : Gives p P)
    (accepted : ∀ a, P a → Gives (k (.ok a)) (Harvest.Has Q))
    (refused : ∀ e, ∃ found, k (.error e) = pure ⟨found, some e⟩ ∧ ∀ a ∈ found, Q a) :
    Gives (attempt p >>= k) (Harvest.Has Q) := by
  intro c c' harvest spelt read
  rw [start_bind_of_ok (start_attempt p c)] at read
  rcases outcome : p.start c with ⟨e | a, after⟩
  · obtain ⟨found, reports, all⟩ := refused e
    rw [outcome, reports] at read
    cases read
    exact has_refused all (terse c e (congrArg Prod.fst outcome))
  · rw [outcome] at read
    exact accepted a (first spelt outcome) (spelt.of_suffix (Carries.suffix [] p outcome)) read

/-- So it is where nothing depends on what the reader gave. -/
theorem gives_afterAttempt {p : Parser α} [Carries [] p p]
    {k : Except SyntaxError α → Parser (Harvest β)} (terse : ∀ c, Terse p c)
    (accepted : ∀ a, Gives (k (.ok a)) (Harvest.Has Q))
    (refused : ∀ e, ∃ found, k (.error e) = pure ⟨found, some e⟩ ∧ ∀ a ∈ found, Q a) :
    Gives (attempt p >>= k) (Harvest.Has Q) :=
  gives_attempt (P := fun _ => True) terse (fun _ _ _ _ _ => trivial) (fun a _ => accepted a)
    refused

theorem gives_complete {a : β} (single : Q a) :
    Gives (pure (Harvest.complete [a])) (Harvest.Has Q) :=
  gives_pure (has_complete (List.forall_mem_singleton.mpr single))

theorem gives_thenReading {found : List β} {p : Parser Unit} [Carries [] p p]
    (terse : ∀ c, Terse p c) (all : ∀ a ∈ found, Q a) :
    Gives (Harvest.thenReading found p) (Harvest.Has Q) :=
  gives_afterAttempt terse (fun _ => gives_pure (has_complete all)) fun _ => ⟨found, rfl, all⟩

/-! ## Paths -/

theorem gives_anyWord : Gives anyWord fun word => isLine word = true := by
  intro c c' found spelt read
  rw [anyWord, start_bind_of_ok (start_ahead c)] at read
  obtain ⟨rest, written, leftover⟩ := c
  rcases rest with _ | ⟨token, rest⟩
  · cases read
  · cases token with
    | ident word =>
      cases read
      exact isLine_of_isIdentifierText (spelt_ident.mp (spelt_cons.mp spelt).1)
    | group | literal | punct => cases read

theorem gives_itemPath : Gives itemPath fun path => ∀ name ∈ path.names, isLine name = true := by
  have further : Gives (repeated do if ← mark? "::" then some <$> anyWord else pure none)
      fun names => ∀ name ∈ names, isLine name = true := by
    refine gives_repeated (gives_after fun seen => gives_ite (gives_map ?_) (gives_pure nofun))
    intro c c' word spelt read
    rintro _ ⟨⟩
    exact gives_anyWord spelt read
  dsimp only [itemPath]
  refine gives_after fun isAbsolute => gives_after fun seen => gives_ite ?_ ?_
  · -- Without a word there is a refusal.
    refine gives_after fun atEnd => gives_ite ?_ (gives_after fun isLiteral => gives_ite ?_ ?_) <;>
      exact nofun
  · refine gives_bind gives_anyWord fun first line => gives_bind further fun more lines => ?_
    exact gives_pure (List.forall_mem_cons.mpr ⟨line, lines⟩)

@[simp] theorem terse_itemPath {c : Cursor} : Terse itemPath c := by
  simp +decide [itemPath]

@[simp] theorem terse_skipItems {c : Cursor} : Terse skipItems c := by
  simp [skipItems]

@[simp] theorem terse_skipValue {g : Grammar} [g.IsTerse] {c : Cursor} :
    Terse (skipValue g) c := by
  simp +decide [skipValue]

theorem gives_readItem {item : PlainPath → Parser (Harvest β)}
    (items : ∀ path, isLine path.key = true → Gives (item path) (Harvest.Has Q)) :
    Gives (readItem item) (Harvest.Has Q) :=
  gives_attempt (fun _ => terse_itemPath) gives_itemPath
    (fun path lines => items path (path.isLine_key lines)) fun _ => ⟨[], rfl, nofun⟩

/-! ## Runs -/

/-- If every item of an attribute has the property, a whole run has. -/
theorem Run.has {item : PlainPath → Parser (Harvest β)}
    [shrinks : CarriesItems [] (readItem item) (readItem item)] {tokens : List Token}
    {founds : List (List β)} {refusal : Option SyntaxError} {left : Option Delimiter}
    (run : Run item tokens founds refusal left) (items : Gives (readItem item) (Harvest.Has Q))
    (spelt : Spelt tokens) : Harvest.Has Q ⟨founds.flatten, refusal⟩ := by
  induction run with
  | refused read =>
    rw [List.flatten_singleton]
    exact items spelt read
  | last read _ =>
    rw [List.flatten_singleton]
    exact items spelt read
  | closed read _ =>
    rw [List.flatten_singleton]
    exact items spelt read
  | unseparated read _ _ =>
    rw [List.flatten_singleton]
    have comma : isLine "," = true := isLine_ofList rfl
    exact has_refused (items spelt read).found ((SyntaxError.isLine_missing_iff ",").mpr comma)
  | @next tokens rest found after joined founds refusal left read comma more run ih =>
    have onward : Spelt rest := by
      have behind := spelt.of_suffix (shrinks.carry read).1
      rw [comma] at behind
      exact (spelt_cons.mp behind).2
    have others := ih onward
    rw [List.flatten_cons]
    exact ⟨List.forall_mem_append.mpr ⟨(items spelt read).found, others.found⟩, others.refusal⟩

/-- So does everything that is read of the arguments. -/
theorem has_harvestTokens {item : Grammar → PlainPath → Parser (Harvest β)}
    [Answers (readItem (withGrammar item))]
    [CarriesItems [] (readItem (withGrammar item)) (readItem (withGrammar item))]
    (items : ∀ g : Grammar, [g.IsTerse] → [Grows g g] → ∀ path, isLine path.key = true →
      Gives (item g path) (Harvest.Has Q))
    {tokens : List Token} (spelt : Spelt tokens) : (harvestTokens item tokens).Has Q := by
  by_cases nonempty : tokens = []
  · subst nonempty
    exact has_complete nofun
  have each : Gives (readItem (withGrammar item)) (Harvest.Has Q) :=
    gives_readItem fun path line => gives_ahead fun found =>
      have : Grows (.ofTokens found) (.ofTokens found) := grows_ofDepth le_rfl
      items (.ofTokens found) path line
  obtain ⟨founds, refusal, left, run⟩ : ∃ founds refusal left,
      Run (withGrammar item) tokens founds refusal left := Run.exists_run tokens
  obtain ⟨all, line⟩ := run.has each spelt
  rw [harvestTokens_of_run nonempty run]
  refine ⟨all, fun e member => ?_⟩
  cases refusal with
  | some e' => exact line e member
  | none =>
    obtain ⟨delimiter, -, rfl⟩ := Option.map_eq_some_iff.mp member
    trivial

end Readers

/-! ## Effects -/

/-- If an effect reports something, it breaks no line but in a tag. -/
def Effect.IsPlain : Effect → Prop
  | .flaw d => d.IsPlain
  | .directive _ | .option _ | .computed => True

/-- The name of a node is a line. -/
def Node.IsLine : Node → Prop
  | .type => True
  | .field name => isLine name = true

section Effects

variable {node : Node} (named : node.IsLine)

include named

theorem Node.IsLine.target : isLine node.target.text = true := by
  cases node with
  | type => decide
  | field name => exact Target.isLine_field named

theorem Node.IsLine.attributeTarget {key : String} (line : isLine key = true) :
    isLine (node.attributeTarget key).text = true := by
  cases node with
  | type => exact Target.isLine_onType line
  | field name => exact Target.isLine_onField named line

/-- What is reported at a key is plain if the cause is. -/
theorem Node.IsLine.isPlain {key : String} (line : isLine key = true) {cause : Cause}
    (detail : isLine cause.detail = true) :
    (Effect.flaw (.of cause (node.attributeTarget key))).IsPlain :=
  ⟨.inr detail, named.attributeTarget line⟩

theorem isPlain_caseEffect (tag : String) : (caseEffect node tag).IsPlain := by
  unfold caseEffect
  split
  · trivial
  · exact ⟨.inl ⟨tag, rfl⟩, named.attributeTarget (by decide)⟩

variable {g : Grammar} [g.IsTerse] [Grows g g]

theorem gives_literalEffects {key : String} (line : isLine key = true) {effect : String → Effect}
    (plain : ∀ text, (effect text).IsPlain) :
    Gives (literalEffects g node key effect) (Harvest.Has Effect.IsPlain) := by
  have reported {cause : Cause} (detail : isLine cause.detail = true) :
      Gives (pure (.complete [.flaw (.of cause (node.attributeTarget key))]))
        (Harvest.Has Effect.IsPlain) := gives_complete (named.isPlain line detail)
  dsimp only [literalEffects]
  refine gives_after fun seen => gives_ite (gives_afterAttempt (fun c => ?_) (fun value => ?_)
    fun _ => ⟨[], rfl, nofun⟩) (reported line)
  · simp +decide
  · split
    · rename_i refused
      cases refused
    · split
      · exact gives_complete (plain _)
      · exact reported line
    · exact reported line

omit named in
theorem gives_defaultEffects : Gives (defaultEffects g) (Harvest.Has Effect.IsPlain) := by
  dsimp only [defaultEffects]
  refine gives_after fun seen => gives_ite (gives_afterAttempt (fun c => ?_)
    (fun value => gives_complete trivial) fun _ => ⟨[], rfl, nofun⟩) (gives_complete trivial)
  simp +decide

omit named in
theorem gives_effectBehindValue {effect : Effect} (plain : effect.IsPlain) :
    Gives (effectBehindValue g effect) (Harvest.Has Effect.IsPlain) :=
  gives_afterAttempt (fun _ => terse_skipValue) (fun _ => gives_complete plain)
    fun _ => ⟨[], rfl, nofun⟩

theorem gives_commonEffects {key : String} (line : isLine key = true) :
    Gives (commonEffects g node key) (Harvest.Has Effect.IsPlain) := by
  have directive (make : String → Directive) :
      Gives (literalEffects g node key fun text => .directive (make text))
        (Harvest.Has Effect.IsPlain) := gives_literalEffects named line fun _ => trivial
  unfold commonEffects
  split
  · exact directive .rename
  · exact directive .keyPrefix
  · exact directive .keySuffix
  · exact gives_literalEffects named line (isPlain_caseEffect named)
  · exact gives_defaultEffects
  · exact gives_effectBehindValue trivial
  · exact gives_effectBehindValue trivial
  · exact gives_effectBehindValue (named.isPlain line
      (isLine_between (isLine_ofList rfl) line (isLine_ofList rfl)))

/-- All effects of an item are plain. -/
theorem gives_itemEffects {path : PlainPath} (line : isLine path.key = true) :
    Gives (itemEffects node g path) (Harvest.Has Effect.IsPlain) := by
  have passing {effect : Effect} (plain : effect.IsPlain) :
      Gives (Harvest.thenReading [effect] (skipValue g)) (Harvest.Has Effect.IsPlain) :=
    gives_thenReading (fun _ => terse_skipValue) (List.forall_mem_singleton.mpr plain)
  dsimp only [itemEffects]
  split
  · exact passing trivial
  · exact passing (named.isPlain line line)
  · exact gives_ite (passing (named.isPlain line line)) (gives_commonEffects named line)
  · exact gives_ite (passing trivial) (gives_commonEffects named line)

end Effects

/-! ## Attributes and types -/

/-- Keys alone are found in front of further tokens as well. -/
instance carriesItems_keys {behind : List Token} [Behind behind] (path : PlainPath) :
    CarriesItems behind
      (withGrammar (fun g path => Harvest.thenReading [path.key] (skipValue g)) path)
      (withGrammar (fun g path => Harvest.thenReading [path.key] (skipValue g)) path) :=
  carriesItems_deepened fun _ _ => inferInstance

section Attributes

variable {node : Node} (named : node.IsLine) {attrs : List Attribute} (spelt : AreSpelt attrs)

include spelt

/-- Everything that is found among the items of directives has the property that is kept by the
reader of an item, and the words where reading stops are a line. -/
theorem has_harvest {β : Type} {Q : β → Prop} {item : Grammar → PlainPath → Parser (Harvest β)}
    [Answers (readItem (withGrammar item))]
    [CarriesItems [] (readItem (withGrammar item)) (readItem (withGrammar item))]
    (items : ∀ g : Grammar, [g.IsTerse] → [Grows g g] → ∀ path, isLine path.key = true →
      Gives (item g path) (Harvest.Has Q))
    {attr : Attribute} (member : attr ∈ attrs.filter Attribute.isDirective) :
    (attr.harvest item).Has Q := by
  obtain ⟨inside, directive⟩ := List.mem_filter.mp member
  have name : attr.name = some "codify" := eq_of_beq directive
  have arguments := spelt attr inside
  unfold Attribute.harvest
  rw [name]
  cases body : attr.body with
  | nothing =>
    have words : isLine "expected attribute arguments in parentheses: #[codify(...)]" = true :=
      isLine_ofList rfl
    exact has_refused nofun ((SyntaxError.isLine_refused_iff ..).mpr words)
  | value =>
    have words : isLine "expected parentheses: #[codify(...)]" = true := isLine_ofList rfl
    exact has_refused nofun ((SyntaxError.isLine_refused_iff ..).mpr words)
  | arguments tokens =>
    rw [body] at arguments
    exact has_harvestTokens items arguments

include named in
/-- All effects on a node are plain. -/
theorem isPlain_of_mem_nodeEffects {effect : Effect} (member : effect ∈ nodeEffects node attrs) :
    effect.IsPlain := by
  obtain ⟨attr, directive, found⟩ := List.mem_flatMap.mp member
  obtain ⟨all, refusal⟩ : (attr.harvest (itemEffects node)).Has Effect.IsPlain :=
    has_harvest spelt (fun _ _ _ _ line => gives_itemEffects named line) directive
  rcases List.mem_append.mp found with effect | refused
  · exact all _ effect
  · obtain ⟨e, raised, rfl⟩ := List.mem_map.mp refused
    exact ⟨.inr (refusal e (Option.mem_toList.mp raised)).message, named.target⟩

include named in
/-- So are the reports among them. -/
theorem isPlain_of_flaw {d : Diagnostic}
    (member : d ∈ (nodeEffects node attrs).filterMap Effect.flaw?) : d.IsPlain := by
  obtain ⟨effect, inside, reported⟩ := List.mem_filterMap.mp member
  have plain := isPlain_of_mem_nodeEffects named spelt inside
  cases effect with
  | flaw d' =>
    cases reported
    exact plain
  | directive _ => cases reported
  | option _ => cases reported
  | computed => cases reported

/-- The keys of directives are lines. -/
theorem isLine_of_mem_directiveKeys {key : String} (member : key ∈ directiveKeys attrs) :
    isLine key = true := by
  obtain ⟨attr, directive, found⟩ := List.mem_flatMap.mp member
  have keys : (attr.harvest fun g path => Harvest.thenReading [path.key] (skipValue g)).Has
      (isLine · = true) := by
    refine has_harvest spelt (fun g _ _ path line => ?_) directive
    exact gives_thenReading (fun _ => terse_skipValue) (List.forall_mem_singleton.mpr line)
  exact keys.found key found

end Attributes

/-- The reports on fields are plain. -/
theorem isPlain_of_mem_lowerFields {position : Nat} {fields : List SourceField}
    (spelt : ∀ field ∈ fields, field.IsSpelt) {d : Diagnostic}
    (member : d ∈ (lowerFields position fields).flatMap (·.2)) : d.IsPlain := by
  induction fields generalizing position with
  | nil => cases member
  | cons field rest ih =>
    obtain ⟨first, others⟩ := List.forall_mem_cons.mp spelt
    rw [lowerFields, List.flatMap_cons, List.mem_append] at member
    rcases member with here | later
    · have named : Node.IsLine (.field (fieldName position field)) :=
        first.isLine_fieldName position
      exact isPlain_of_flaw named first.attrs here
    · exact ih others later

/-- So are all reports on a type with its fields. -/
theorem TypeItem.IsSpelt.isPlain_of_mem_flaws {item : TypeItem} (spelt : item.IsSpelt)
    {d : Diagnostic} (member : d ∈ item.lower.flaws) : d.IsPlain := by
  unfold TypeItem.lower at member
  dsimp only at member
  split at member
  · rcases List.mem_append.mp member with type | fields
    · have named : Node.IsLine .type := trivial
      exact isPlain_of_flaw named spelt.attrs type
    · exact isPlain_of_mem_lowerFields (fun _ => spelt.body.of_mem_fields) fields
  · cases member

/-! ## Items that cannot take directives -/

/-- What carries misplaced directives has a line for a name. -/
theorem Item.DeclaresSpelt.carrier {item : Item} (spelt : item.DeclaresSpelt) {carrier : Carrier}
    (member : carrier ∈ item.carriers) : isLine carrier.owner = true ∧ AreSpelt carrier.attrs := by
  cases item with
  | module items | other => cases member
  | function declared =>
    rw [List.mem_singleton.mp member]
    exact ⟨isLine_of_isIdentifierText spelt.name.written, spelt.attrs⟩
  | implementation methods =>
    obtain ⟨method, inside, rfl⟩ := List.mem_map.mp member
    have ofMethod := spelt method inside
    exact ⟨isLine_of_isIdentifierText ofMethod.name.written, ofMethod.attrs⟩
  | type declared =>
    obtain ⟨attrs, visibility, name, generics, body⟩ := declared
    cases body with
    | named _ | tuple _ | unit | union => cases member
    | enumeration variants =>
      have own : isLine name = true := isLine_of_isIdentifierText spelt.name.written
      rcases List.mem_append.mp member with whole | part
      · split at whole
        · cases whole
        · rw [List.mem_singleton.mp whole]
          exact ⟨own, spelt.attrs⟩
      · obtain ⟨variant, inside, rfl⟩ := List.mem_map.mp part
        have ofVariant : variant.IsSpelt := spelt.body variant inside
        refine ⟨?_, ofVariant.attrs⟩
        exact isLine_between own (isLine_ofList rfl)
          (isLine_of_isIdentifierText ofVariant.name.written)

/-- Directives that are misplaced in a file are reported in one line. -/
theorem isLine_of_mem_misplaced {items : List Item}
    (spelt : ∀ item ∈ openedItems items, item.DeclaresSpelt) {misplaced : Misplacement}
    (member : misplaced ∈ (survey items).misplaced) :
    isLine misplaced.owner = true ∧ misplaced.diagnostic.IsLine := by
  rw [survey_eq] at member
  obtain ⟨carrier, carries, found⟩ := List.mem_flatMap.mp member
  obtain ⟨item, inside, within⟩ := List.mem_flatMap.mp carries
  obtain ⟨owner, attrs⟩ := (spelt item inside).carrier within
  obtain ⟨key, keyed, rfl⟩ := List.mem_map.mp found
  have line := isLine_of_mem_directiveKeys attrs keyed
  exact ⟨owner, line, Target.isLine_onType line⟩

end RecordCoding.Source
