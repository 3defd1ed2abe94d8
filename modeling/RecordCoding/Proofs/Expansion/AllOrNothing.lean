import RecordCoding.Proofs.Expansion.Artifacts

/-!
# All code or none

The tokens for a type are the notices of what was found and nothing else, or behind these notices
the code of every artifact. In that code the key table, the construction of a value and the calls
that write one have the fields they should, and refer to variants that are there.
-/

namespace RecordCoding.Expansion

open Source

/-- What a run for a type comes to. -/
abbrev outcomeOf (item : TypeItem) (config : Configuration) : Outcome :=
  generate item.lower.decl config

/-- Something is in the way of the code for a type. -/
inductive Blocked (item : TypeItem) (config : Configuration) : Prop
  /-- The attributes have an error other than an option on a field. -/
  | attributes {d : Diagnostic} (found : d ∈ item.lower.flaws) (isError : d.severity = .error)
    (other : ∀ attr, d.cause ≠ .structOnly attr) : Blocked item config
  /-- The run failed. -/
  | run (failed : (outcomeOf item config).state = .failed) : Blocked item config
  /-- The key table has no name. -/
  | name {cause : SyntaxError}
    (unread : readName (config.tableName item.lower.decl.name) = .error cause) :
    Blocked item config
  /-- A plan of the decode routine holds a text that cannot be read. -/
  | plan {routine : DecodeRoutine} {statement : DecodeStatement}
    (produced : (outcomeOf item config).artifacts.decode = some routine)
    (member : statement ∈ routine.statements) (unreadable : statement.plan.Unreadable) :
    Blocked item config

/-- The tokens for a type are notices and nothing else: of its attributes alone if these keep the
run from starting, and otherwise of the run as well, with one more if something was in the way
of the code for what the run produced. -/
structure OnlyNotices (item : TypeItem) (config : Configuration) (tokens : List Token) :
    Prop where
  notices :
    (item.lower.isFatal = true ∧ tokens = notices item.lower.flaws) ∨
    (item.lower.isFatal = false ∧ (outcomeOf item config).state = .failed ∧
      tokens = notices (item.lower.flaws ++ (outcomeOf item config).diagnostics)) ∨
    (item.lower.isFatal = false ∧ (outcomeOf item config).state = .done ∧
      ∃ detail, tokens = notices (item.lower.flaws ++
        (outcomeOf item config).diagnostics ++ [.onType (.internal detail)]))
  /-- Nothing is declared and nothing implemented. -/
  nothing : ∀ word ∈ ["enum", "impl"], word ∉ Token.identifiersOfAll tokens

/-- The tokens for a type are the notices of what was found and the code of every artifact. -/
structure WithCode (item : TypeItem) (config : Configuration) (identifier : String) (code : Code)
    (tokens : List Token) : Prop where
  rendered : tokens =
    notices (item.lower.flaws ++ (outcomeOf item config).diagnostics) ++ code.tokens item
  named : readName (config.tableName item.lower.decl.name) = .ok identifier
  covers : code.Covers item.lower.decl (outcomeOf item config) identifier
    (config.serdeBridge && !item.lower.skipsBridge)
  /-- A variant of the key table is declared for every entry, in order. -/
  table : ∀ table, (outcomeOf item config).artifacts.keyTable = some table →
    DeclaresKeys item identifier
      (table.entries.map fun entry => ⟨spelling entry.field, entry.key⟩) tokens
  /-- The value that is constructed has the fields of the declaration in order. -/
  construction : ∀ routine, (outcomeOf item config).artifacts.decode = some routine →
    ∃ initializers,
      List.Forall₂ (Initializes identifier routine) item.lower.decl.fields initializers ∧
      ImplementsReading item identifier initializers tokens
  /-- The fields are written as the encode routine says, in order. -/
  calls : ∀ routine, (outcomeOf item config).artifacts.encode = some routine →
    ∃ calls, List.Forall₂ (Writes identifier) routine.statements calls ∧
      ImplementsWriting item identifier calls tokens
  bridge : (config.serdeBridge && !item.lower.skipsBridge) = true → ImplementsBridge item tokens
  /-- Every variant is there once, and a statement is for a field that has one. -/
  closed : ∀ table, (outcomeOf item config).artifacts.keyTable = some table →
    (table.entries.map fun entry => spelling entry.field).Nodup ∧
    (∀ routine, (outcomeOf item config).artifacts.decode = some routine →
      ∀ statement ∈ routine.statements, statement.field ∈ table.entries.map (·.field)) ∧
    ∀ routine, (outcomeOf item config).artifacts.encode = some routine →
      ∀ statement ∈ routine.statements, statement.field ∈ table.entries.map (·.field)

/-- The attributes keep the run from starting if they have an error other than an option on a
field. -/
theorem isFatal_iff (lowered : Lowered) : lowered.isFatal = true ↔
    ∃ d ∈ lowered.flaws, d.severity = .error ∧ ∀ attr, d.cause ≠ .structOnly attr := by
  unfold Lowered.isFatal
  rw [List.any_eq_true]
  refine exists_congr fun d => and_congr_right fun _ => ?_
  unfold Lowered.isFatalFlaw Diagnostic.isError
  cases d.cause <;> simp

/-- Without anyone to report to, the tokens are rendered unless the attributes keep the run from
starting. -/
theorem expand_eq (item : TypeItem) (config : Configuration) :
    expand item config =
      if item.lower.isFatal then .ok (notices item.lower.flaws)
      else render item item.lower (outcomeOf item config) config := by
  unfold expand expandWith
  cases fatal : item.lower.isFatal <;> simp only [fatal] <;> rfl

/-- A finished run is rendered as what was found and the code for what it produced. -/
theorem render_of_done (item : TypeItem) (lowered : Lowered) {outcome : Outcome}
    (config : Configuration) (done : outcome.state = .done) :
    render item lowered outcome config =
      (artifactTokens item lowered outcome config).map
        (notices (lowered.flaws ++ outcome.diagnostics) ++ ·) := by
  have finished : outcome.isFailed = false := by
    rw [Outcome.isFailed, done]
    rfl
  rw [render, finished]
  rfl

/-- One more notice at the end. -/
theorem notices_concat (found : List Diagnostic) (d : Diagnostic) :
    notices (found ++ [d]) = notices found ++ notice d := by
  rw [notices_append]
  exact congrArg (notices found ++ ·) (List.append_nil (notice d))

section

variable {item : TypeItem} {lowered : Lowered} {outcome : Outcome} {config : Configuration}
  (done : outcome.state = .done)

include done

/-- Where there is code for a finished run, it stands behind the notices. -/
theorem render_of_code {code : Code}
    (made : Code.ofOutcome lowered.decl outcome (config.serdeBridge && !lowered.skipsBridge) =
      .ok code) :
    render item lowered outcome config =
      .ok (notices (lowered.flaws ++ outcome.diagnostics) ++ code.tokens item) := by
  -- Not by `rw`: the equation of this definition is slow to come by.
  have tokens : artifactTokens item lowered outcome config = .ok (code.tokens item) := by
    delta artifactTokens
    rw [made]
  rw [render_of_done item lowered config done, tokens]
  rfl

/-- Where something is wrong with the code, its notice is the last one. -/
theorem render_of_defect {defect : Defect}
    (failed : Code.ofOutcome lowered.decl outcome (config.serdeBridge && !lowered.skipsBridge) =
      .error (.defect defect)) :
    render item lowered outcome config =
      .ok (notices (lowered.flaws ++ outcome.diagnostics ++ [defect.diagnostic])) := by
  have tokens : artifactTokens item lowered outcome config = .ok (notice defect.diagnostic) := by
    delta artifactTokens
    rw [failed]
  rw [render_of_done item lowered config done, tokens, notices_concat]
  rfl

end

/-- A run that failed, or that was not started, leaves nothing but notices. -/
theorem onlyNotices_of_not_done {item : TypeItem} {config : Configuration}
    (unfinished : item.lower.isFatal = true ∨ (outcomeOf item config).state = .failed) :
    ∃ tokens, expand item config = .ok tokens ∧ OnlyNotices item config tokens := by
  rw [expand_eq]
  cases fatal : item.lower.isFatal with
  | true => exact ⟨_, rfl, Or.inl ⟨fatal, rfl⟩, notMem_identifiersOfAll_notices _⟩
  | false =>
    have failed := unfinished.resolve_left (by simp [fatal])
    have rendered := render_of_isFailed item item.lower config
      (by rw [Outcome.isFailed, failed]; rfl)
    exact ⟨_, rendered, Or.inr (Or.inl ⟨fatal, failed, rfl⟩), notMem_identifiersOfAll_notices _⟩

/-- The tokens of all artifacts are in the code. -/
theorem Code.occurs_tokens {code : Code} (item : TypeItem) :
    (∀ table, code.table = some table → Occurs (table.tokens item) (code.tokens item)) ∧
    (∀ decode, code.decode = some decode → Occurs (decode.tokens item) (code.tokens item)) ∧
    (∀ encode, code.encode = some encode → Occurs (encode.tokens item) (code.tokens item)) ∧
    (code.hasBridge = true → Occurs (Expansion.bridge item) (code.tokens item)) := by
  unfold Code.tokens
  refine ⟨?_, ?_, ?_, ?_⟩
  · intro table present
    rw [present, Option.toList_some, List.flatMap_singleton]
    exact (Occurs.refl _).before.before.before
  · intro decode present
    rw [present, Option.toList_some, List.flatMap_singleton]
    exact (Occurs.refl _).behind.before.before
  · intro encode present
    rw [present, Option.toList_some, List.flatMap_singleton]
    exact (Occurs.refl _).behind.before
  · intro present
    rw [if_pos present]
    exact (Occurs.refl _).behind

section

variable {item : TypeItem} {config : Configuration}
  (names : (item.lower.decl.fields.map (·.name)).Nodup)
  (identifiers : ∀ field ∈ item.lower.decl.fields, IsIdentifier field.name)

include names identifiers

/-- The variants of a key table are there once, and every statement is for one of them. -/
theorem closed_of_keyTable {table : KeyTable}
    (produced : (outcomeOf item config).artifacts.keyTable = some table) :
    (table.entries.map fun entry => spelling entry.field).Nodup ∧
    (∀ routine, (outcomeOf item config).artifacts.decode = some routine →
      ∀ statement ∈ routine.statements, statement.field ∈ table.entries.map (·.field)) ∧
    ∀ routine, (outcomeOf item config).artifacts.encode = some routine →
      ∀ statement ∈ routine.statements, statement.field ∈ table.entries.map (·.field) := by
  obtain ⟨found, stands⟩ := exists_generate_of_keyTable produced
  have listed := KeyTable.fields_of_generate stands
  refine ⟨?_, ?_, ?_⟩
  · have fields : (table.entries.map (·.field)).Nodup := by
      rw [listed]
      exact (List.filter_sublist.map _).nodup names
    have apart : ((table.entries.map (·.field)).map spelling).Nodup := by
      refine fields.map_on fun first member second memberToo same => ?_
      obtain ⟨entry, inside, rfl⟩ := List.mem_map.mp member
      obtain ⟨other, within, rfl⟩ := List.mem_map.mp memberToo
      have identifier := isIdentifier_of_keyTable identifiers produced
      exact eq_of_spelling (identifier entry inside) (identifier other within) same
    rwa [List.map_map] at apart
  · intro routine reads statement member
    rw [decode_of_done names (done_of_decode reads) reads] at member
    obtain ⟨field, stored, name, -⟩ := Field.mem_decodeStatements member
    rw [listed, name]
    exact List.mem_map_of_mem stored
  · intro routine writes statement member
    rw [encode_of_done names (done_of_encode writes) writes] at member
    obtain ⟨field, stored, rfl⟩ := List.mem_map.mp member
    rw [listed]
    exact List.mem_map_of_mem stored

/-- Code for all artifacts, behind the notices, has what it should. -/
theorem withCode_of_covers {identifier : String} {code : Code}
    (read : readName (config.tableName item.lower.decl.name) = .ok identifier)
    (covers : code.Covers item.lower.decl (outcomeOf item config) identifier
      (config.serdeBridge && !item.lower.skipsBridge)) :
    WithCode item config identifier code
      (notices (item.lower.flaws ++ (outcomeOf item config).diagnostics) ++ code.tokens item) := by
  obtain ⟨tables, decodes, encodes, bridges⟩ := @Code.occurs_tokens code item
  have behind {row : List Token} (occurs : Occurs row (code.tokens item)) :
      Occurs row (notices (item.lower.flaws ++ (outcomeOf item config).diagnostics) ++
        code.tokens item) := occurs.behind
  constructor
  case rendered => rfl
  case named => exact read
  case covers => exact covers
  case table =>
    intro table produced
    have declares := TableCode.declaresKeys item ⟨identifier, table.entries.map fun entry =>
      ⟨spelling entry.field, entry.key⟩⟩
    have within := behind (tables _ (by rw [covers.table, produced]; rfl))
    exact ⟨declares.enumeration.trans within, declares.keys.trans within⟩
  case construction =>
    intro routine produced
    obtain ⟨initializers, made, related⟩ := covers.decode routine produced
    have implements := DecodeCode.implementsReading item ⟨identifier, initializers⟩
    exact ⟨initializers, related, implements.trans (behind (decodes _ made))⟩
  case calls =>
    intro routine produced
    have written := encodes _ (by rw [covers.encode, produced]; rfl)
    have implements := EncodeCode.implementsWriting item ⟨identifier,
      routine.statements.map fun statement => ⟨spelling statement.field, statement.rule⟩⟩
    refine ⟨_, ?_, implements.trans (behind written)⟩
    rw [List.map_map]
    exact List.forall₂_map_right_iff.mpr
      (List.forall₂_same.mpr fun statement _ => writes_tokens identifier statement)
  case bridge =>
    intro wanted
    have implements := implementsBridge_bridge item
    have within := behind (bridges (covers.bridge.trans wanted))
    exact ⟨implements.writing.trans within, implements.reading.trans within⟩
  case closed => exact fun table produced => closed_of_keyTable names identifiers produced

/-- A type whose code something is in the way of has nothing but notices. -/
theorem onlyNotices_of_blocked (blocked : Blocked item config) :
    ∃ tokens, expand item config = .ok tokens ∧ OnlyNotices item config tokens := by
  by_cases unfinished : item.lower.isFatal = true ∨ (outcomeOf item config).state = .failed
  · exact onlyNotices_of_not_done unfinished
  obtain ⟨started, finished⟩ := not_or.mp unfinished
  have fatal : item.lower.isFatal = false := by simpa using started
  have done := (Generation.verdict_generate item.lower.decl config).terminal.resolve_right finished
  rw [expand_eq, fatal, if_neg Bool.false_ne_true]
  rcases Code.ofOutcome_cases names identifiers config
      (config.serdeBridge && !item.lower.skipsBridge) with
    ⟨identifier, code, read, made, covers, readable⟩ | ⟨-, defect, failed⟩
  · exfalso
    cases blocked with
    | attributes found isError other =>
      exact started ((isFatal_iff item.lower).mpr ⟨_, found, isError, other⟩)
    | run failed => exact finished failed
    | name unread =>
      rw [read] at unread
      cases unread
    | plan produced member unreadable => exact readable _ produced _ member unreadable
  · exact ⟨_, render_of_defect done failed, Or.inr (Or.inr ⟨fatal, done, defect.message, rfl⟩),
      notMem_identifiersOfAll_notices _⟩

/-- A type whose code nothing is in the way of has the code of every artifact. -/
theorem withCode_of_not_blocked (free : ¬ Blocked item config) :
    ∃ identifier code tokens, expand item config = .ok tokens ∧
      WithCode item config identifier code tokens := by
  have started : ¬ item.lower.isFatal = true := by
    intro fatal
    obtain ⟨d, found, isError, other⟩ := (isFatal_iff item.lower).mp fatal
    exact free (.attributes found isError other)
  have done := (Generation.verdict_generate item.lower.decl config).terminal.resolve_right
    fun failed => free (.run failed)
  rw [expand_eq, if_neg started]
  rcases Code.ofOutcome_cases names identifiers config
      (config.serdeBridge && !item.lower.skipsBridge) with
    ⟨identifier, code, read, made, covers, -⟩ |
      ⟨⟨cause, unread⟩ | ⟨routine, produced, statement, member, unreadable⟩, -⟩
  · exact ⟨identifier, code, _, render_of_code done made,
      withCode_of_covers names identifiers read covers⟩
  · exact absurd (.name unread) free
  · exact absurd (.plan produced member unreadable) free

/-- The tokens for a type with distinct identifiers as field names are notices and nothing else, or
notices and the code of every artifact, for whatever stands in the way of that code. -/
theorem expand_allOrNothing :
    (Blocked item config →
      ∃ tokens, expand item config = .ok tokens ∧ OnlyNotices item config tokens) ∧
    (¬ Blocked item config →
      ∃ identifier code tokens, expand item config = .ok tokens ∧
        WithCode item config identifier code tokens) :=
  ⟨onlyNotices_of_blocked names identifiers, withCode_of_not_blocked names identifiers⟩

end

/-- A post: the name of its first field is reserved, the second is left out of the wire format, and
elements that are null are left out of the third. -/
def post : TypeItem where
  attrs := []
  visibility := [.ident "pub"]
  name := "Post"
  generics := ⟨[], []⟩
  body := .named [
    ⟨[], some "r#type", .path [.ident "String"] false ["String"] []⟩,
    ⟨[⟨some "codify", .arguments [.ident "skip"], []⟩], some "cache",
      .path [.ident "u8"] false ["u8"] []⟩,
    ⟨[⟨some "codify", .arguments [.ident "skip_null"], []⟩], some "tags",
      .path [.ident "Vec", .punct '<' false, .ident "u8", .punct '>' false] false ["Vec"]
        [.path [.ident "u8"] false ["u8"] []]⟩]

/-- A suffix that no name of a key table may have. -/
def dashed : Configuration := { Configuration.standard with tableSuffix := "-keys" }

/-- Nothing is in the way of the code for a post, unless its key table cannot be named. -/
theorem expand_allOrNothing_post :
    (post.lower.decl.fields.map (·.name)).Nodup ∧
    (∀ field ∈ post.lower.decl.fields, IsIdentifier field.name) ∧
    (∃ identifier code tokens, expand post .standard = .ok tokens ∧
      WithCode post .standard identifier code tokens) ∧
    ∃ tokens, expand post dashed = .ok tokens ∧ OnlyNotices post dashed tokens := by
  have fields : post.lower.decl.fields =
      [⟨"type", .scalar "String", none, false, []⟩, ⟨"cache", .scalar "u8", none, true, []⟩,
        ⟨"tags", .array (.scalar "u8"), none, false, [.skipNull]⟩] := rfl
  have names : (post.lower.decl.fields.map (·.name)).Nodup := by
    rw [fields]
    decide
  have identifiers : ∀ field ∈ post.lower.decl.fields, IsIdentifier field.name := by
    rw [fields, List.forall_mem_cons, List.forall_mem_cons, List.forall_mem_singleton]
    exact ⟨⟨rfl, rfl, by decide⟩, ⟨rfl, rfl, by decide⟩, ⟨rfl, rfl, by decide⟩⟩
  refine ⟨names, identifiers, (expand_allOrNothing names identifiers).2 ?_,
    (expand_allOrNothing names identifiers).1 (.name rfl)⟩
  rintro (found | failed | unread | ⟨produced, member, unreadable⟩)
  · cases found
  · cases failed
  · cases unread
  · cases produced
    rcases List.mem_pair.mp member with rfl | rfl
    · exact unreadable
    · obtain ⟨cause, unread⟩ := unreadable
      cases unread

end RecordCoding.Expansion
