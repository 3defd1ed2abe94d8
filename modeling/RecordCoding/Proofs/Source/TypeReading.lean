import RecordCoding.Proofs.Source.BoundReading

/-!
# Reading types

The tokens of a type are read back as that type, wherever punctuation happens to be joined: for
each form of a type, if its parts are read back, and by induction on the number of tokens for all
types.
-/

namespace RecordCoding.Source

open Source.Parser

variable {g : Grammar}

/-! ## The length of an array -/

/-- No operator is behind an operand at the end. -/
theorem takes_operatorsIn_nil {place : Place} {least : Precedence} {left : Expression}
    (noRange : left.form ≠ .range) : Takes (operatorsIn g place least left) [] [] left [] := by
  refine Turns.takes (.stop ?_)
  rw [operatorStep]
  dsimp only
  rw [if_neg noRange]
  refine takes_after (fun _ _ => rfl : Takes ahead [] [] [] []) ?_
  have none_ : Ahead.operator? [] = none := by decide
  rw [none_]
  refine takes_unseen ?_ (takes_unseen ?_ (takes_unseen rfl (takes_pure none [])))
  · simp [Ahead.assignment, Ahead.mark, Ahead.marks]
  · simp [Ahead.mark, Ahead.marks]

/-- Nothing is called behind an operand at the end. -/
theorem takes_callsBehind_nil (form : ExpressionForm) :
    Takes (callsBehind g form) [] [] form [] := by
  refine Turns.takes (.stop (takes_unseen rfl ?_))
  refine takes_after (takes_sees (by decide : Ahead.selection [] = false)) ?_
  rw [Bool.and_false, if_neg Bool.false_ne_true]
  refine takes_unseen rfl ?_
  have noQuestion : Takes (markIf (form ≠ .range) "?") [] [] false [] := by
    rw [markIf]
    split
    · exact takes_mark?_of_unseen rfl
    · exact takes_pure false []
  exact takes_after noQuestion (takes_pure none [])

/-- Nothing is built in behind the first name of a path. -/
theorem NamePath.not_builtIn {path : NamePath} {tokens : List Token}
    (loosened : Loosened tokens path.tokens) : Ahead.builtIn tokens = false := by
  obtain ⟨isAbsolute, names, present, identifiers, named⟩ := path
  cases isAbsolute with
  | true =>
    obtain ⟨joined, more, rfl, -⟩ := loosened.of_colons
    rfl
  | false =>
    obtain ⟨first, more, rfl⟩ := List.exists_cons_of_ne_nil present
    obtain ⟨others, rfl, loosenedOthers⟩ := loosened.of_ident
    have unmarked : Ahead.mark "#" others = false := by
      cases more with
      | nil =>
        cases loosenedOthers
        rfl
      | cons second more =>
        obtain ⟨joined, _, rfl, -⟩ := loosenedOthers.of_colons
        exact not_mark_punct true _ (by decide)
    rw [Ahead.builtIn]
    exact Bool.and_eq_false_iff.mpr (.inr unmarked)

/-- A path is no other expression than one that begins with a path. -/
theorem BeginsPath.pathExpression {tokens : List Token} (begins : BeginsPath tokens) :
    Ahead.literal tokens = false ∧ Ahead.asyncBlock tokens = false ∧
      Ahead.closure tokens = false ∧ Ahead.pathExpression tokens = true := by
  have bar : Ahead.mark "|" tokens = false := begins.not_mark (by decide) (by decide)
  have other (word : String) (reserved : word ∈ reservedWords) :
      Ahead.word word tokens = false := begins.not_word reserved
  refine ⟨?_, ?_, ?_, ?_⟩
  · have noTruth := other "true" (by decide)
    have noFalsehood := other "false" (by decide)
    cases begins with
    | name named rest =>
      rw [Ahead.word] at noTruth noFalsehood
      simp [Ahead.literal, noTruth, noFalsehood]
    | root => rfl
  · simp [Ahead.asyncBlock, other "async" (by decide)]
  · simp [Ahead.closure, Ahead.introduction, bar, other "move" (by decide), other "for" (by decide),
      other "const" (by decide), other "static" (by decide), other "async" (by decide)]
  · cases begins with
    | name named rest => simp [Ahead.pathExpression, Ahead.typePath, Ahead.name, named]
    | root joined rest => simp [Ahead.pathExpression, Ahead.typePath, Ahead.mark, Ahead.marks]

/-- The length of an array is read as an atom, which is no range. -/
theorem takes_atom (length : ArrayLength) {tokens : List Token} (place : Place)
    (loosened : Loosened tokens length.tokens) : ∃ form : ExpressionForm, form ≠ .range ∧
      form ≠ .verbatim ∧ Takes (atom g place) tokens [] form length.tokens := by
  cases length with
  | number numeral =>
    obtain ⟨_, rfl, none⟩ := Loosened.of_literal loosened
    cases none
    refine ⟨.literal (some numeral.text), nofun, nofun, takes_seen rfl ?_⟩
    exact takes_map _ (takes_literal numeral.text [])
  | named path =>
    have begins := NamePath.beginsPath loosened []
    rw [List.append_nil] at begins
    have found := @takes_unqualifiedPath g true path tokens [] [] [] none
      (fun name named => takes_pathSegment_plain named (by decide) (by decide)) le_rfl rfl loosened
    rw [List.append_nil, List.append_nil] at found
    have unqualified : Ahead.mark "<" tokens = false := begins.not_mark (by decide) (by decide)
    obtain ⟨noLiteral, noAsync, noClosure, seen⟩ := begins.pathExpression
    refine ⟨.other, nofun, nofun, takes_unseen noLiteral (takes_unseen noAsync ?_)⟩
    refine takes_unseen (by rw [noClosure, Bool.and_false]) ?_
    refine takes_unseen (NamePath.not_builtIn loosened) (takes_seen seen ?_)
    refine takes_then (takes_unseen unqualified found) ?_
    refine takes_after (takes_sees (by decide : Ahead.invocation [] = false)) ?_
    rw [Bool.and_false, if_neg Bool.false_ne_true]
    refine takes_after (takes_sees rfl) ?_
    rw [if_neg (by simp [Ahead.group])]
    exact takes_pure _ []

/-- An operand without operators is an atom. -/
theorem takes_operandForm {place : Place} {tokens out : List Token} {form : ExpressionForm}
    (takes : Takes (atom g place) tokens [] form out)
    (unmarked : ∀ expected ∈ ["#", "&", "*", "!", "-"], Ahead.mark expected tokens = false)
    (ungrouped : place.groupsBlock = false) :
    Takes (operandForm g place) tokens [] form out := by
  have bare : Takes (outerAttributes g) tokens tokens [] [] :=
    (Rounds.stop (takes_unseen (unmarked "#" (by decide)) (takes_pure none _))).takes
  refine takes_after bare (takes_unseen (unmarked "&" (by decide)) (takes_unseen ?_ ?_))
  · simp [unmarked]
  have called : Takes (calledAtom g place false) tokens [] form out := by
    refine takes_after (takes_sees rfl) (takes_after (takes_capture takes) ?_)
    refine takes_after (takes_sees rfl) ?_
    rw [ungrouped]
    exact takes_then (takes_emit out []) (takes_callsBehind_nil form)
  refine takes_then called ?_
  rw [if_neg (by simp)]
  exact takes_pure form []

/-- The length of an array is read as a value. -/
theorem takes_value {depth : Nat} (length : ArrayLength) {tokens : List Token}
    (loosened : Loosened tokens length.tokens) : ∃ form : ExpressionForm,
      Takes (Grammar.value (.ofDepth (depth + 2))) tokens [] form length.tokens := by
  obtain ⟨form, noRange, noVerbatim, takes⟩ := @takes_atom (.ofDepth depth) length _ .free loosened
  have unmarked : ∀ expected ∈ ["#", "&", "*", "!", "-"], Ahead.mark expected tokens = false := by
    cases length with
    | number numeral =>
      obtain ⟨_, rfl, -⟩ := Loosened.of_literal loosened
      intro expected member
      exact not_mark_other _ (by rintro rfl; revert member; decide) (by simp)
    | named path =>
      have begins := NamePath.beginsPath loosened []
      rw [List.append_nil] at begins
      have other : ∀ expected ∈ ["#", "&", "*", "!", "-"], expected ≠ "" ∧
          (String.toList expected).head?.any (· != ':') = true := by decide
      exact fun expected member =>
        begins.not_mark (other expected member).1 (other expected member).2
  have operand : Takes (operandIn (.ofDepth depth) .free) tokens [] ⟨form, length.tokens⟩ [] := by
    have form_ := takes_operandForm takes unmarked rfl
    intro written leftover
    have sourced := start_sourced_of_ok (takes_capture form_ written leftover)
    rw [operandIn, start_bind_of_ok sourced]
    dsimp only
    rw [if_neg noVerbatim]
    rfl
  have expression : Takes (expressionIn (.ofDepth (depth + 1)) .free) tokens []
      ⟨form, length.tokens⟩ [] :=
    takes_after operand (takes_operatorsIn_nil noRange)
  exact ⟨form, takes_after expression (takes_then (takes_emit _ []) (takes_pure form []))⟩

/-! ## Forms of types -/

/-- What is read of the tokens of a type: what is to be made of them. -/
def TypeTree.form : TypeTree → TypeForm
  | .named path _ arguments => (.path · path.isAbsolute path.names (ArgumentTree.exprs arguments))
  | .paren inner => (.paren · inner.expr)
  | _ => .other

theorem TypeTree.form_tokens (type : TypeTree) : type.form type.tokens = type.expr := by
  cases type <;> rw [TypeTree.expr] <;> rfl

/-- A type that introduces nothing is read by its form. -/
theorem takes_introduced?_of_unseen {tokens : List Token}
    (other : Ahead.word "for" tokens = false) : Takes (introduced? g) tokens tokens false [] :=
  takes_after (takes_word?_of_unseen other) (takes_pure false tokens)

/-- A path is read as a type. -/
theorem takes_named {path : NamePath} {lifetimes : List Lifetime} {arguments : List ArgumentTree}
    {admitsPlus : Bool} {tokens rest : List Token}
    (read : ∀ part ∈ arguments.flatMap (·.parts), IsRead g part)
    (loosened : Loosened tokens (TypeTree.tokens (.named path lifetimes arguments)))
    (ends : EndsType admitsPlus rest) :
    Takes (typeForm g admitsPlus) (tokens ++ rest) rest
      (TypeTree.form (.named path lifetimes arguments))
      (TypeTree.tokens (.named path lifetimes arguments)) := by
  rw [TypeTree.tokens] at loosened ⊢
  have begins : BeginsPath (tokens ++ rest) := by
    obtain ⟨names, behind, rfl, loosenedNames, -⟩ := loosened.of_append
    rw [List.append_assoc]
    exact NamePath.beginsPath loosenedNames _
  have found :=
    takes_appliedPath read (ends.not_mark (by decide)) (ends.not_mark (by decide)) loosened
  obtain ⟨names_, arguments_⟩ := ofSegments_segments path lifetimes arguments path.isAbsolute
  have unqualified : Ahead.mark "<" (tokens ++ rest) = false :=
    begins.not_mark (by decide) (by decide)
  have noFunction : Ahead.functionType (tokens ++ rest) = false := by
    simp [Ahead.functionType, begins.not_word (show "fn" ∈ reservedWords by decide),
      begins.not_word (show "unsafe" ∈ reservedWords by decide),
      begins.not_word (show "extern" ∈ reservedWords by decide)]
  have noInvocation : Ahead.invocation rest = false := by
    rw [Ahead.invocation, ends.not_mark (by decide), Bool.false_and]
  have noPlus : (admitsPlus && Ahead.mark "+" rest) = false := by
    cases admitsPlus with
    | true => exact ends.not_plus
    | false => rfl
  have plain : Takes (pathType g admitsPlus false) (tokens ++ rest) rest
      (TypeTree.form (.named path lifetimes arguments)) (path.tokens ++
        bracketed (lifetimes.map (·.tokens) ++ ArgumentTree.tokensOfEach arguments)) := by
    refine takes_then (takes_unseen unqualified found) ?_
    refine takes_after (takes_sees noInvocation) ?_
    rw [Bool.and_false, if_neg Bool.false_ne_true]
    refine takes_after (takes_sees rfl) ?_
    rw [Bool.false_or, noPlus, names_, arguments_]
    exact takes_pure _ rest
  refine takes_after (takes_introduced?_of_unseen (begins.not_word (by decide))) ?_
  refine takes_after (takes_sees rfl) (takes_unseen (begins.not_group _) ?_)
  exact takes_unseen noFunction (takes_seen begins.typePath plain)

/-- The forms of types that begin with neither parentheses, a function nor a path. -/
def otherForm (g : Grammar) (admitsPlus : Bool) : Parser TypeForm := do
  if ← sees (Ahead.word "dyn") then
    objectType g admitsPlus
    pure .other
  else if ← sees (Ahead.group .bracket) then
    arrayType g
    pure .other
  else if ← sees (Ahead.mark "*") then
    pointerType g
    pure .other
  else if ← sees (Ahead.mark "&") then
    referenceType g
    pure .other
  else if ← mark? "!" then pure .other
  else if ← sees (Ahead.word "impl") then
    opaqueType g admitsPlus
    pure .other
  else if ← word? "_" then pure .other
  else if ← sees Ahead.lifetime then boundsType g
  else
    expect ["`for`", "parentheses", "`fn`", "`unsafe`", "`extern`", "identifier", "`::`", "`<`",
      "`dyn`", "square brackets", "`*`", "`&`", "`!`", "`impl`", "`_`", "lifetime"]

/-- What begins with none of these is of another form. -/
theorem takes_typeForm_of_other {admitsPlus : Bool} {tokens rest out : List Token}
    {form : TypeForm} (ungrouped : Ahead.group .parenthesis tokens = false)
    (noFunction : Ahead.functionType tokens = false) (noPath : Ahead.typePath tokens = false)
    (unintroduced : Ahead.word "for" tokens = false)
    (takes : Takes (otherForm g admitsPlus) tokens rest form out) :
    Takes (typeForm g admitsPlus) tokens rest form out := by
  refine takes_after (takes_introduced?_of_unseen unintroduced) ?_
  refine takes_after (takes_sees rfl) (takes_unseen ungrouped ?_)
  exact takes_unseen noFunction (takes_unseen noPath takes)

/-- What begins with punctuation, other than that of a path, is of another form. -/
theorem takes_typeForm_of_mark {admitsPlus : Bool} {c : Char} {joined : Bool}
    {tokens rest out : List Token} {form : TypeForm} (other : c ≠ ':' ∧ c ≠ '<')
    (takes : Takes (otherForm g admitsPlus) (.punct c joined :: tokens) rest form out) :
    Takes (typeForm g admitsPlus) (.punct c joined :: tokens) rest form out := by
  refine takes_typeForm_of_other rfl rfl ?_ rfl takes
  simp [Ahead.typePath, Ahead.name, Ahead.pathRoot, Ahead.word, Ahead.mark, Ahead.marks,
    other.1.symm, other.2.symm]

/-- The type that is never there is read. -/
theorem takes_never {admitsPlus : Bool} {tokens : List Token} (rest : List Token)
    (loosened : Loosened tokens (TypeTree.tokens .never)) :
    Takes (typeForm g admitsPlus) (tokens ++ rest) rest .other (TypeTree.tokens .never) := by
  rw [TypeTree.tokens] at loosened ⊢
  obtain ⟨joined, _, rfl, none⟩ := Loosened.of_mark loosened
  cases none
  have seen : Ahead.mark "!" (.punct '!' joined :: rest) = true := mark_punct rfl joined _
  have other (expected : String) (apart : expected.toList.head?.any (· != '!') = true) :
      Ahead.mark expected (.punct '!' joined :: rest) = false := not_mark_punct joined rest apart
  refine takes_typeForm_of_mark (by decide) (takes_unseen rfl (takes_unseen rfl ?_))
  refine takes_unseen (other _ (by decide)) (takes_unseen (other _ (by decide)) ?_)
  exact takes_then (takes_mark?_of_seen seen) (takes_pure _ rest)

/-- A type that is left to be found is read. -/
theorem takes_inferred {admitsPlus : Bool} {tokens : List Token} (rest : List Token)
    (loosened : Loosened tokens (TypeTree.tokens .inferred)) :
    Takes (typeForm g admitsPlus) (tokens ++ rest) rest .other (TypeTree.tokens .inferred) := by
  rw [TypeTree.tokens] at loosened ⊢
  obtain ⟨_, rfl, none⟩ := loosened.of_ident
  cases none
  have unmarked (expected : String) (present : expected ≠ "") :
      Ahead.mark expected (.ident "_" :: rest) = false := not_mark_other rest present (by simp)
  have noPath : Ahead.typePath (.ident "_" :: rest) = false := by
    rw [Ahead.typePath, unmarked _ (by decide), unmarked _ (by decide)]
    rfl
  refine takes_typeForm_of_other rfl rfl noPath rfl (takes_unseen rfl (takes_unseen rfl ?_))
  refine takes_unseen (unmarked _ (by decide)) (takes_unseen (unmarked _ (by decide)) ?_)
  refine takes_after (takes_mark?_of_unseen (unmarked _ (by decide))) (takes_unseen rfl ?_)
  exact takes_then (takes_word?_of_seen "_" rest) (takes_pure _ rest)

/-- A word is read if it is there. -/
theorem takes_word?_of_loosened {word : String} {isThere : Bool} {tokens rest : List Token}
    (loosened : Loosened tokens (if isThere then [.ident word] else []))
    (other : Ahead.word word rest = false) :
    Takes (word? word) (tokens ++ rest) rest isThere (if isThere then [.ident word] else []) := by
  cases isThere with
  | true =>
    obtain ⟨_, rfl, none⟩ := Loosened.of_ident loosened
    cases none
    exact takes_word?_of_seen word rest
  | false =>
    cases loosened
    exact takes_word?_of_unseen other

/-- A lifetime is read if it is there. -/
theorem takes_lifetime?_of_loosened {lifetime : Option Lifetime} {tokens rest : List Token}
    (loosened : Loosened tokens ((lifetime.map (·.tokens)).getD []))
    (other : Ahead.lifetime rest = false) :
    Takes lifetime? (tokens ++ rest) rest lifetime.isSome ((lifetime.map (·.tokens)).getD []) := by
  cases lifetime with
  | some lifetime =>
    obtain ⟨_, rfl, behind⟩ := Loosened.of_joined loosened
    obtain ⟨_, rfl, none⟩ := behind.of_ident
    cases none
    exact takes_lifetime?_of_seen lifetime.name rest
  | none =>
    cases loosened
    exact takes_lifetime?_of_unseen other

/-- A pointer is read. -/
theorem takes_pointer {isMutable admitsPlus : Bool} {target : TypeTree} {tokens rest : List Token}
    (read : IsRead g target.closed)
    (loosened : Loosened tokens (TypeTree.tokens (.pointer isMutable target)))
    (ends : EndsType admitsPlus rest) :
    Takes (typeForm g admitsPlus) (tokens ++ rest) rest .other
      (TypeTree.tokens (.pointer isMutable target)) := by
  rw [TypeTree.tokens] at loosened ⊢
  obtain ⟨joined, _, rfl, behind⟩ := Loosened.of_mark loosened
  obtain ⟨inner, rfl, loosenedInner⟩ := behind.of_ident
  have takes := read.closed loosenedInner ends.refusing
  have seen (behind : List Token) : Ahead.mark "*" (.punct '*' joined :: behind) = true :=
    mark_punct rfl joined behind
  have pointer : Takes (pointerType g)
      (.punct '*' joined :: .ident (if isMutable then "mut" else "const") :: (inner ++ rest)) rest
      () ([.punct '*' false] ++ ([.ident (if isMutable then "mut" else "const")] ++
        enclosedIf target.joinsBounds target.tokens)) := by
    refine takes_bind (takes_mark (seen _)) ?_
    cases isMutable with
    | true =>
      refine takes_after (takes_word?_of_unseen rfl) ?_
      exact takes_bind (takes_word?_of_seen "mut" _) (takes_then takes (takes_pure () rest))
    | false =>
      exact takes_bind (takes_word?_of_seen "const" _) (takes_then takes (takes_pure () rest))
  refine takes_typeForm_of_mark (by decide) (takes_unseen rfl (takes_unseen rfl ?_))
  exact takes_seen (seen _) (takes_then pointer (takes_pure _ rest))

/-- A reference is read. -/
theorem takes_reference {lifetime : Option Lifetime} {isMutable admitsPlus : Bool}
    {target : TypeTree} {tokens rest : List Token} (read : IsRead g target.closed)
    (loosened : Loosened tokens (TypeTree.tokens (.reference lifetime isMutable target)))
    (ends : EndsType admitsPlus rest) :
    Takes (typeForm g admitsPlus) (tokens ++ rest) rest .other
      (TypeTree.tokens (.reference lifetime isMutable target)) := by
  rw [TypeTree.tokens] at loosened ⊢
  obtain ⟨joined, _, rfl, behind⟩ := Loosened.of_mark loosened
  obtain ⟨life, _, rfl, loosenedLife, behind⟩ := behind.of_append
  obtain ⟨word, inner, rfl, loosenedWord, loosenedInner⟩ := behind.of_append
  have takes := read.closed loosenedInner ends.refusing
  have begins : BeginsType (inner ++ rest) := by
    rw [← TypeTree.tokens_closed] at loosenedInner
    exact TypeTree.beginsType loosenedInner ends
  have mutable := takes_word?_of_loosened loosenedWord
    (begins.not_word (show "mut" ∈ reservedWords by decide) (by decide))
  have noLifetime : Ahead.lifetime (word ++ (inner ++ rest)) = false := by
    cases isMutable with
    | true =>
      obtain ⟨_, rfl, -⟩ := Loosened.of_ident loosenedWord
      rfl
    | false =>
      cases loosenedWord
      exact begins.not_lifetime
  have life_ := takes_lifetime?_of_loosened loosenedLife noLifetime
  have seen (behind : List Token) : Ahead.mark "&" (.punct '&' joined :: behind) = true :=
    mark_punct rfl joined behind
  have reference : Takes (referenceType g)
      (.punct '&' joined :: (life ++ (word ++ (inner ++ rest)))) rest ()
      ([.punct '&' false] ++ ((lifetime.map (·.tokens)).getD [] ++
        ((if isMutable then [.ident "mut"] else []) ++
          enclosedIf target.joinsBounds target.tokens))) :=
    takes_bind (takes_mark (seen _)) (takes_bind life_ (takes_bind mutable
      (takes_then takes (takes_pure () rest))))
  rw [List.cons_append, List.append_assoc, List.append_assoc]
  refine takes_typeForm_of_mark (by decide) (takes_unseen rfl (takes_unseen rfl ?_))
  refine takes_unseen (not_mark_punct joined _ (by decide)) ?_
  exact takes_seen (seen _) (takes_then reference (takes_pure _ rest))

/-- A slice is read. -/
theorem takes_slice {admitsPlus : Bool} {element : TypeTree} {tokens : List Token}
    (rest : List Token) (read : IsRead g element)
    (loosened : Loosened tokens (TypeTree.tokens (.slice element))) :
    Takes (typeForm g admitsPlus) (tokens ++ rest) rest .other
      (TypeTree.tokens (.slice element)) := by
  rw [TypeTree.tokens] at loosened ⊢
  obtain ⟨content, _, rfl, loosenedContent, none⟩ := Loosened.of_group loosened
  cases none
  have takes := read.whole loosenedContent .nothing
  rw [List.append_nil] at takes
  have slice : Takes (arrayType g) (.group .bracket content :: rest) rest ()
      [.group .bracket element.tokens] :=
    takes_group (takes_then takes (takes_after (takes_mark?_of_unseen rfl) (takes_pure () []))) rest
  refine takes_typeForm_of_other rfl rfl rfl rfl (takes_unseen rfl (takes_seen rfl ?_))
  exact takes_then slice (takes_pure _ rest)

/-- An array is read with its length, at some depth. -/
theorem takes_array {depth : Nat} {admitsPlus : Bool} {element : TypeTree} {length : ArrayLength}
    {tokens : List Token} (rest : List Token) (read : IsRead (.ofDepth (depth + 2)) element)
    (loosened : Loosened tokens (TypeTree.tokens (.array element length))) :
    Takes (typeForm (.ofDepth (depth + 2)) admitsPlus) (tokens ++ rest) rest .other
      (TypeTree.tokens (.array element length)) := by
  rw [TypeTree.tokens] at loosened ⊢
  obtain ⟨content, _, rfl, loosenedContent, none⟩ := Loosened.of_group loosened
  cases none
  obtain ⟨inner, behind, rfl, loosenedInner, loosenedBehind⟩ := loosenedContent.of_append
  obtain ⟨joined, others, rfl, loosenedLength⟩ := Loosened.of_mark loosenedBehind
  have ends : EndsType true (.punct ';' joined :: others) := .mark (by decide) joined others
  have seen : Ahead.mark ";" (.punct ';' joined :: others) = true := mark_punct rfl joined _
  obtain ⟨form, value⟩ := @takes_value depth length others loosenedLength
  have array : Takes (arrayType (.ofDepth (depth + 2)))
      (.group .bracket (inner ++ .punct ';' joined :: others) :: rest) rest ()
      [.group .bracket (element.tokens ++ ([.punct ';' false] ++ length.tokens))] := by
    refine takes_group (takes_bind (read.whole loosenedInner ends) ?_) rest
    exact takes_bind (takes_mark?_of_seen seen) (takes_then value (takes_pure () []))
  refine takes_typeForm_of_other rfl rfl rfl rfl (takes_unseen rfl (takes_seen rfl ?_))
  exact takes_then array (takes_pure _ rest)

/-- What begins with a group in parentheses is read as such. -/
theorem takes_typeForm_of_group {admitsPlus : Bool} {content rest out : List Token}
    {form : TypeForm}
    (takes : Takes (parenthesizedType g admitsPlus) (.group .parenthesis content :: rest) rest
      form out) :
    Takes (typeForm g admitsPlus) (.group .parenthesis content :: rest) rest form out :=
  takes_after (takes_introduced?_of_unseen rfl)
    (takes_after (takes_sees rfl) (takes_seen rfl takes))

/-- A type in parentheses is read. -/
theorem takes_paren {admitsPlus : Bool} {inner : TypeTree} {tokens rest : List Token}
    (read : IsRead g inner) (loosened : Loosened tokens (TypeTree.tokens (.paren inner)))
    (ends : EndsType admitsPlus rest) :
    Takes (typeForm g admitsPlus) (tokens ++ rest) rest (TypeTree.form (.paren inner))
      (TypeTree.tokens (.paren inner)) := by
  rw [TypeTree.tokens] at loosened ⊢
  obtain ⟨content, _, rfl, loosenedContent, none⟩ := Loosened.of_group loosened
  cases none
  have begins := TypeTree.beginsType loosenedContent (@EndsType.nothing true)
  have takes := read.whole loosenedContent .nothing
  rw [List.append_nil] at begins takes
  have content_ : Takes (enclosed g) content [] (.single inner.expr) inner.tokens := by
    refine takes_after (takes_atEnd content) ?_
    rw [if_neg (by simpa using begins.ne_nil)]
    refine takes_unseen begins.not_lifetime ?_
    refine takes_unseen (begins.not_mark (by decide) (by decide)) ?_
    exact takes_then takes (takes_unseen rfl (takes_pure _ []))
  refine takes_typeForm_of_group (takes_then (takes_group content_ rest) ?_)
  refine takes_after (takes_sees rfl) ?_
  have noPlus : (admitsPlus && inner.expr.isBound && Ahead.mark "+" rest) = false := by
    cases admitsPlus with
    | true => rw [ends.not_plus, Bool.and_false]
    | false => rfl
  rw [noPlus]
  exact takes_pure _ rest

/-- A tuple is read. -/
theorem takes_tuple {admitsPlus : Bool} {elements : List TypeTree} {tokens : List Token}
    (rest : List Token) (read : ∀ element ∈ elements, IsRead g element)
    (loosened : Loosened tokens (TypeTree.tokens (.tuple elements))) :
    Takes (typeForm g admitsPlus) (tokens ++ rest) rest .other
      (TypeTree.tokens (.tuple elements)) := by
  rw [TypeTree.tokens, TypeTree.tokensOfEach_eq] at loosened ⊢
  obtain ⟨content, _, rfl, loosenedContent, none⟩ := Loosened.of_group loosened
  cases none
  suffices content_ : Takes (enclosed g) content [] .tuple
      (tupled (elements.map (·.tokens))) from
    takes_typeForm_of_group (takes_then (takes_group content_ rest) (takes_pure _ rest))
  cases elements with
  | nil =>
    cases loosenedContent
    exact takes_after (takes_atEnd []) (takes_pure _ [])
  | cons first more =>
    have shape : tupled ((first :: more).map (·.tokens)) =
        first.tokens ++ ([.punct ',' false] ++ separated ',' (more.map (·.tokens))) := by
      cases more <;> simp [tupled, separated]
    rw [shape] at loosenedContent ⊢
    obtain ⟨inner, behind, rfl, loosenedInner, loosenedBehind⟩ := loosenedContent.of_append
    obtain ⟨joined, others, rfl, loosenedOthers⟩ := Loosened.of_mark loosenedBehind
    have ends : EndsType true (.punct ',' joined :: others) := .mark (by decide) joined others
    have begins := TypeTree.beginsType loosenedInner ends
    have seen : Ahead.mark "," (.punct ',' joined :: others) = true := mark_punct rfl joined _
    rw [List.forall_mem_cons] at read
    refine takes_after (takes_atEnd _) ?_
    rw [if_neg (by simp)]
    refine takes_unseen begins.not_lifetime ?_
    refine takes_unseen (begins.not_mark (by decide) (by decide)) ?_
    refine takes_bind (read.1.whole loosenedInner ends) (takes_seen seen ?_)
    exact takes_bind (takes_mark seen)
      (takes_then (takes_terminated read.2 loosenedOthers) (takes_pure _ []))

/-! ## Functions -/

/-- What a type begins with is no name that is announced, nor anything that stands for several
arguments. -/
theorem BeginsType.not_announced {tokens : List Token} (begins : BeginsType tokens) :
    Ahead.openArguments tokens = false ∧
      (!Ahead.mark "::" (Ahead.next tokens) && Ahead.named tokens) = false := by
  have noDots : Ahead.mark "..." tokens = false := begins.not_mark (by decide) (by decide)
  have behind {rest : List Token} (unannounced : Unannounced rest) :
      (Ahead.mark ":" rest && Ahead.mark "..." (Ahead.next rest)) = false ∧
        (!Ahead.mark "::" rest && Ahead.mark ":" rest) = false := by
    cases seen : Ahead.mark ":" rest with
    | false => simp
    | true =>
      have double := unannounced seen
      rcases rest with _ | ⟨first, _ | ⟨second, rest⟩⟩
      · cases seen
      · cases first <;> simp [Ahead.mark, Ahead.marks] at double
      · cases first <;> cases second <;> simp [Ahead.mark, Ahead.marks] at double
        obtain ⟨⟨rfl, rfl⟩, rfl⟩ := double
        simp [Ahead.mark, Ahead.marks, Ahead.next]
  have next (word : String) (rest : List Token) : Ahead.next (.ident word :: rest) = rest := rfl
  rw [Ahead.openArguments, noDots, Bool.false_or]
  cases begins with
  | @name name rest named unannounced =>
    have colon : Ahead.named (.ident name :: rest) = Ahead.mark ":" rest := by
      simp [Ahead.named, Ahead.name, named, next]
    rw [next, colon]
    exact behind unannounced
  | @inferred rest unannounced =>
    have colon : Ahead.named (.ident "_" :: rest) = Ahead.mark ":" rest := by
      simp [Ahead.named, Ahead.word, next]
    rw [next, colon]
    exact behind unannounced
  | keyword keyword rest =>
    have reserved : ∀ word ∈ typeWords, isName word = false ∧ word ≠ "_" := by decide
    simp [Ahead.named, Ahead.name, Ahead.word, reserved _ keyword]
  | root | mark | group => simp [Ahead.named, Ahead.name, Ahead.word]

/-- The step that reads one of the arguments of a function type. -/
def furtherFunctionArgument (g : Grammar) : Bool × Bool → Parser (Option (Bool × Bool)) :=
  fun (isFirst, goesOn) => do
    if !goesOn || (← atEnd) then pure none
    else
      let _ ← outerAttributes g
      if ← sees Ahead.openArguments then
        openArguments
        pure (some (false, false))
      else
        functionTypeArgument g isFirst
        if !(← atEnd) then mark ","
        pure (some (false, true))

/-- An argument of a function type is read like the type. -/
theorem takes_functionTypeArgument {type : TypeTree} {tokens rest : List Token} (isFirst : Bool)
    (read : IsRead g type) (loosened : Loosened tokens type.tokens) (ends : EndsType true rest) :
    Takes (functionTypeArgument g isFirst) (tokens ++ rest) rest () type.tokens := by
  have begins := TypeTree.beginsType loosened ends
  have noMut : Ahead.word "mut" (tokens ++ rest) = false := begins.not_word (by decide) (by decide)
  have noSelf : Ahead.word "self" (tokens ++ rest) = false :=
    begins.not_word (by decide) (by decide)
  have unnamed : (!Ahead.mark "::" (Ahead.next (tokens ++ rest)) && (Ahead.named (tokens ++ rest) ||
      (isFirst && Ahead.word "self" (tokens ++ rest) &&
        Ahead.mark ":" (Ahead.next (tokens ++ rest))))) = false := by
    simpa [noSelf] using begins.not_announced.2
  refine takes_unseen (by simp [noMut]) (takes_after (takes_sees unnamed) ?_)
  exact takes_then (read.whole loosened ends) (takes_pure () rest)

/-- The arguments of a function type are read one after the other, up to the end. -/
theorem turns_functionArguments {types : List TypeTree} {tokens : List Token} (isFirst : Bool)
    (read : ∀ type ∈ types, IsRead g type) (inRow : InRow ',' TypeTree.tokens types tokens) :
    Turns (furtherFunctionArgument g) (isFirst, true) tokens [] (false, true)
      (separated ',' (types.map (·.tokens))) := by
  have bare {tokens : List Token} (begins : BeginsType tokens) :
      Takes (outerAttributes g) tokens tokens [] [] :=
    (Rounds.stop (takes_unseen (begins.not_mark (by decide) (by decide)) (takes_pure none _))).takes
  induction inRow generalizing isFirst with
  | @last type tokens loosened =>
    have begins := TypeTree.beginsType loosened (@EndsType.nothing true)
    have takes :=
      takes_functionTypeArgument isFirst (read type List.mem_cons_self) loosened .nothing
    rw [List.append_nil] at begins takes
    have step : Takes (furtherFunctionArgument g (isFirst, true)) tokens [] (some (false, true))
        type.tokens := by
      refine takes_after (takes_atEnd tokens) ?_
      rw [if_neg (by simpa using begins.ne_nil)]
      refine takes_after (bare begins) (takes_unseen begins.not_announced.1 (takes_then takes ?_))
      exact takes_after (takes_atEnd []) (takes_pure _ [])
    exact .more step (List.length_pos_of_ne_nil begins.ne_nil)
      (.stop (takes_after (takes_atEnd []) (takes_pure none [])))
  | @more type types tokens behind loosened joined others ih =>
    have ends : EndsType true (.punct ',' joined :: behind) := .mark (by decide) joined behind
    have begins := TypeTree.beginsType loosened ends
    have takes := takes_functionTypeArgument isFirst (read type List.mem_cons_self) loosened ends
    have step : Takes (furtherFunctionArgument g (isFirst, true))
        (tokens ++ .punct ',' joined :: behind) behind (some (false, true))
        (type.tokens ++ [.punct ',' false]) := by
      refine takes_after (takes_atEnd _) ?_
      rw [if_neg (by simp)]
      refine takes_after (bare begins) (takes_unseen begins.not_announced.1 (takes_bind takes ?_))
      refine takes_after (takes_atEnd _) ?_
      exact takes_then (takes_mark (mark_punct rfl _ _)) (takes_pure _ behind)
    rw [others.separated_cons type]
    exact .more step (by simp; omega)
      (ih false fun type member => read type (List.mem_cons_of_mem _ member))

theorem takes_functionTypeArguments {types : List TypeTree} {tokens : List Token}
    (read : ∀ type ∈ types, IsRead g type)
    (loosened : Loosened tokens (separated ',' (types.map (·.tokens)))) :
    Takes (functionTypeArguments g) tokens [] () (separated ',' (types.map (·.tokens))) := by
  have turns : ∃ isFirst, Turns (furtherFunctionArgument g) (true, true) tokens [] (isFirst, true)
      (separated ',' (types.map (·.tokens))) := by
    cases types with
    | nil =>
      cases loosened
      exact ⟨true, .stop (takes_after (takes_atEnd []) (takes_pure none []))⟩
    | cons first more =>
      exact ⟨false, turns_functionArguments true read (inRow_of_separated loosened)⟩
  obtain ⟨isFirst, turns⟩ := turns
  exact takes_then turns.takes (takes_pure () [])

/-- A text in which nothing is escaped is read up to the closing quote. -/
theorem unescape_of_plain {content : List Char} (plain : ∀ c ∈ content, c ∉ ['"', '\\', '\r'])
    (rest : List Char) {bound : Nat} (room : content.length < bound) :
    Literal.unescape bound (content ++ '"' :: rest) = some content := by
  induction content generalizing bound with
  | nil =>
    obtain ⟨bound, rfl⟩ := Nat.exists_eq_succ_of_ne_zero (Nat.ne_zero_of_lt room)
    simp [Literal.unescape]
  | cons c content ih =>
    obtain ⟨bound, rfl⟩ := Nat.exists_eq_succ_of_ne_zero (Nat.ne_zero_of_lt room)
    obtain ⟨apart, others⟩ := List.forall_mem_cons.mp plain
    simp only [List.mem_cons, List.not_mem_nil, or_false, not_or] at apart
    rw [List.length_cons, Nat.succ_lt_succ_iff] at room
    rw [List.cons_append, Literal.unescape, ih others room, Option.map_some]
    all_goals simp [apart]

/-- A text in quotes is a literal of a text. -/
theorem Quotation.isSome_string? (quotation : Quotation) :
    (Literal.string? (String.ofList ('"' :: quotation.content ++ ['"']))).isSome = true := by
  have plain : ∀ c ∈ quotation.content, c ∉ ['"', '\\', '\r'] := by
    intro c member
    have apart := quotation.plain c member
    simp only [List.mem_cons, List.not_mem_nil, or_false, not_or] at apart ⊢
    exact ⟨apart.1, apart.2.1, apart.2.2.1⟩
  have room : quotation.content.length <
      (String.ofList ('"' :: (quotation.content ++ ['"']))).length := by
    rw [String.length_ofList, List.length_cons, List.length_append]
    omega
  have text : Literal.string? (String.ofList ('"' :: (quotation.content ++ ['"']))) =
      (Literal.unescape (String.ofList ('"' :: (quotation.content ++ ['"']))).length
        (quotation.content ++ ['"'])).map String.ofList := by
    rw [Literal.string?, String.toList_ofList]
    rfl
  rw [List.cons_append, text, unescape_of_plain plain [] room]
  rfl
/-- A calling convention is read, if there is one. -/
theorem takes_callingConvention? {convention : Convention} {tokens rest : List Token}
    (loosened : Loosened tokens convention.tokens) (other : Ahead.word "extern" rest = false)
    (unnamed : Ahead.stringLiteral rest = false) :
    Takes callingConvention? (tokens ++ rest) rest () convention.tokens := by
  cases convention with
  | standard =>
    cases loosened
    exact takes_unseen other (takes_pure () rest)
  | foreign name =>
    obtain ⟨_, rfl, behind⟩ := Loosened.of_ident loosened
    cases name with
    | none =>
      cases behind
      refine takes_seen rfl (takes_then (takes_word "extern" rest) ?_)
      exact takes_unseen unnamed (takes_pure () rest)
    | some quotation =>
      obtain ⟨_, rfl, none⟩ := Loosened.of_literal behind
      cases none
      refine takes_seen rfl (takes_bind (takes_word "extern" _) (takes_seen ?_ ?_))
      · exact quotation.isSome_string?
      · exact takes_then (takes_literal _ rest) (takes_pure () rest)

/-- The tokens of a function type behind the lifetimes that it introduces. -/
def functionTokens (isUnsafe : Bool) (convention : Convention) (arguments : List TypeTree)
    (result : Option TypeTree) : List Token :=
  (if isUnsafe then [.ident "unsafe"] else []) ++ (convention.tokens ++
    (.ident "fn" :: .group .parenthesis (separated ',' (arguments.map (·.tokens))) ::
      TypeTree.tokensOfResult result))

section Functions

variable {isUnsafe : Bool} {convention : Convention} {arguments : List TypeTree}
  {result : Option TypeTree} {tokens : List Token}

/-- A function type begins with one of a few words. -/
theorem exists_word_of_function
    (loosened : Loosened tokens (functionTokens isUnsafe convention arguments result)) :
    ∃ word ∈ ["unsafe", "extern", "fn"], ∃ more, tokens = .ident word :: more := by
  unfold functionTokens at loosened
  cases isUnsafe with
  | true =>
    obtain ⟨more, rfl, -⟩ := Loosened.of_ident loosened
    exact ⟨"unsafe", by decide, more, rfl⟩
  | false =>
    cases convention with
    | standard =>
      obtain ⟨more, rfl, -⟩ := Loosened.of_ident loosened
      exact ⟨"fn", by decide, more, rfl⟩
    | foreign name =>
      obtain ⟨more, rfl, -⟩ := Loosened.of_ident loosened
      exact ⟨"extern", by decide, more, rfl⟩

/-- The rest of a function type is read behind the lifetimes that it introduces. -/
theorem takes_functionType {rest : List Token}
    (read : ∀ part ∈ arguments ++ result.toList.map (·.closed), IsRead g part)
    (loosened : Loosened tokens (functionTokens isUnsafe convention arguments result))
    (ends : EndsType false rest) :
    Takes (functionType g) (tokens ++ rest) rest ()
      (functionTokens isUnsafe convention arguments result) := by
  obtain ⟨safety, _, rfl, loosenedSafety, behindSafety⟩ := loosened.of_append
  obtain ⟨calling, _, rfl, loosenedCalling, behindCalling⟩ := behindSafety.of_append
  obtain ⟨_, rfl, behindWord⟩ := behindCalling.of_ident
  obtain ⟨content, arrow, rfl, loosenedContent, loosenedResult⟩ := Loosened.of_group behindWord
  have takes : ∀ type ∈ arguments, IsRead g type := fun type member =>
    read type (List.mem_append_left _ member)
  have takesResult : ∀ type ∈ result, IsRead g type.closed := fun type member =>
    read type.closed (List.mem_append_right _
      (List.mem_map_of_mem (Option.mem_toList.mpr member)))
  simp only [List.append_assoc, List.cons_append]
  have noSafety :
      Ahead.word "unsafe" (calling ++ .ident "fn" :: .group .parenthesis content :: (arrow ++ rest)) =
        false := by
    cases convention with
    | standard =>
      cases loosenedCalling
      rfl
    | foreign name =>
      obtain ⟨_, rfl, -⟩ := Loosened.of_ident loosenedCalling
      rfl
  have safety_ := takes_word?_of_loosened loosenedSafety noSafety
  refine takes_bind safety_ (takes_bind (takes_callingConvention? loosenedCalling rfl rfl) ?_)
  refine takes_bind (takes_word "fn" _) ?_
  refine takes_bind (takes_group (takes_functionTypeArguments takes loosenedContent) _) ?_
  exact takes_then (takes_returnType? takesResult loosenedResult ends) (takes_pure () rest)

/-- A function type is read. -/
theorem takes_function {introduced : List Lifetime} {admitsPlus : Bool} {rest : List Token}
    (read : ∀ part ∈ arguments ++ result.toList.map (·.closed), IsRead g part)
    (loosened : Loosened tokens
      (TypeTree.tokens (.function introduced isUnsafe convention arguments result)))
    (ends : EndsType admitsPlus rest) :
    Takes (typeForm g admitsPlus) (tokens ++ rest) rest .other
      (TypeTree.tokens (.function introduced isUnsafe convention arguments result)) := by
  rw [TypeTree.tokens, TypeTree.tokensOfEach_eq] at loosened ⊢
  obtain ⟨binder, behind, rfl, loosenedBinder, loosenedBehind⟩ := loosened.of_append
  have takes := takes_functionType read loosenedBehind ends.refusing
  obtain ⟨word, among, more, rfl⟩ := exists_word_of_function loosenedBehind
  have seen : ∀ word ∈ ["unsafe", "extern", "fn"],
      word ≠ "for" ∧ (word == "fn" || word == "unsafe" || word == "extern") = true := by
    decide
  have function : Ahead.functionType (.ident word :: more ++ rest) = true := (seen word among).2
  rw [List.append_assoc]
  refine takes_bind (takes_introduced? loosenedBinder ?_) (takes_after (takes_sees rfl) ?_)
  · simpa [Ahead.word] using (seen word among).1
  rw [function, Bool.or_true, Bool.true_or, Bool.true_or, Bool.not_true, Bool.and_false,
    if_neg Bool.false_ne_true]
  refine takes_unseen rfl (takes_seen function ?_)
  exact takes_then takes (takes_pure _ rest)

end Functions

/-! ## Bounds -/

/-- No bound begins with a star. -/
theorem BoundTree.not_star {bound : BoundTree} {tokens : List Token}
    (loosened : Loosened tokens bound.tokens) (rest : List Token) :
    Ahead.mark "*" (tokens ++ rest) = false := by
  cases bound with
  | lifetime lifetime =>
    obtain ⟨_, rfl, -⟩ := Loosened.of_joined loosened
    exact not_mark_punct true _ (by decide)
  | trait trait => exact (TraitTree.beginsTrait loosened rest).not_star

theorem InRow.not_star {bounds : List BoundTree} {tokens : List Token}
    (inRow : InRow '+' BoundTree.tokens bounds tokens) (rest : List Token) :
    Ahead.mark "*" (tokens ++ rest) = false := by
  cases inRow with
  | last loosened => exact BoundTree.not_star loosened rest
  | more loosened joined others =>
    rw [List.append_assoc]
    exact BoundTree.not_star loosened _

/-- The bounds of a type, the lifetimes in front first. -/
def boundsOf (leading : List Lifetime) (first : TraitTree) (more : List BoundTree) :
    List BoundTree :=
  leading.map .lifetime ++ .trait first :: more

section Bounds

variable {isOpaque admitsPlus : Bool} {leading : List Lifetime} {first : TraitTree}
  {more : List BoundTree} {tokens rest : List Token}

/-- A type that is only known by bounds is read with them. -/
theorem takes_bounded (read : ∀ bound ∈ boundsOf leading first more, IsBoundRead g bound)
    (loosened : Loosened tokens (TypeTree.tokens (.bounded isOpaque leading first more)))
    (ends : EndsType admitsPlus rest)
    (single : admitsPlus = false → (boundsOf leading first more).length = 1) :
    Takes (typeForm g admitsPlus) (tokens ++ rest) rest .other
      (TypeTree.tokens (.bounded isOpaque leading first more)) := by
  have listed : leading.map (·.tokens) ++ first.tokens :: BoundTree.tokensOfEach more =
      (boundsOf leading first more).map (·.tokens) := by
    simp [boundsOf, BoundTree.tokens]
  have named : BoundForm.trait ∈ (boundsOf leading first more).map (·.form) := by
    simp [boundsOf, BoundTree.form]
  rw [TypeTree.tokens, listed] at loosened ⊢
  obtain ⟨inner, rfl, loosenedBounds⟩ := loosened.of_ident
  obtain ⟨bound, bounds, shape⟩ : ∃ bound bounds, boundsOf leading first more = bound :: bounds :=
    List.exists_cons_of_ne_nil (by simp [boundsOf])
  rw [shape] at loosenedBounds
  have inRow := inRow_of_separated loosenedBounds
  have noStar := inRow.not_star rest
  rw [← shape] at inRow
  have takes (rules : BoundRules) (complaint : String) :=
    @takes_traitBounds g _ rules admitsPlus complaint inner rest read inRow ends single named
  cases isOpaque with
  | true =>
    have known : Takes (opaqueType g admitsPlus) (.ident "impl" :: (inner ++ rest)) rest ()
        ([.ident "impl"] ++ separated '+' ((boundsOf leading first more).map (·.tokens))) :=
      takes_bind (takes_word "impl" _) (takes_then (takes .ofOpaqueType _) (takes_pure () rest))
    have unmarked (expected : String) (present : expected ≠ "") :
        Ahead.mark expected (.ident "impl" :: (inner ++ rest)) = false :=
      not_mark_other _ present (by simp)
    refine takes_typeForm_of_other rfl rfl rfl rfl (takes_unseen rfl (takes_unseen rfl ?_))
    refine takes_unseen (unmarked _ (by decide)) (takes_unseen (unmarked _ (by decide)) ?_)
    refine takes_after (takes_mark?_of_unseen (unmarked _ (by decide))) (takes_seen rfl ?_)
    exact takes_then known (takes_pure _ rest)
  | false =>
    have object : Takes (objectType g admitsPlus) (.ident "dyn" :: (inner ++ rest)) rest ()
        ([.ident "dyn"] ++ separated '+' ((boundsOf leading first more).map (·.tokens))) := by
      refine takes_then (takes_verbatimIf (a := false) rfl ?_) (takes_pure () rest)
      refine takes_bind (takes_word "dyn" _) (takes_after (takes_mark?_of_unseen noStar) ?_)
      exact takes_then (takes .ofType _) (takes_pure false rest)
    refine takes_typeForm_of_other rfl rfl rfl rfl (takes_seen rfl ?_)
    exact takes_then object (takes_pure _ rest)

end Bounds

/-! ## All types -/

/-- Every form of a type is read if its parts are, a level deeper for those of bounds. -/
theorem takes_typeForm {depth : Nat} {type : TypeTree} {admitsPlus : Bool}
    {tokens rest : List Token} (read : ∀ part ∈ type.parts, IsRead (.ofDepth (depth + 2)) part)
    (readBelow : ∀ part ∈ type.parts, IsRead (.ofDepth (depth + 1)) part)
    (admitted : type.joinsBounds = true → admitsPlus = true)
    (loosened : Loosened tokens type.tokens) (ends : EndsType admitsPlus rest) :
    Takes (typeForm (.ofDepth (depth + 2)) admitsPlus) (tokens ++ rest) rest type.form
      type.tokens := by
  cases type with
  | named path lifetimes arguments => exact takes_named read loosened ends
  | paren inner => exact takes_paren (read inner List.mem_cons_self) loosened ends
  | tuple elements => exact takes_tuple rest read loosened
  | slice element => exact takes_slice rest (read element List.mem_cons_self) loosened
  | array element length => exact takes_array rest (read element List.mem_cons_self) loosened
  | pointer isMutable target =>
    exact takes_pointer (read target.closed List.mem_cons_self) loosened ends
  | reference lifetime isMutable target =>
    exact takes_reference (read target.closed List.mem_cons_self) loosened ends
  | never => exact takes_never rest loosened
  | inferred => exact takes_inferred rest loosened
  | function introduced isUnsafe convention arguments result =>
    exact takes_function read loosened ends
  | bounded isOpaque leading first more =>
    have bounds : ∀ bound ∈ boundsOf leading first more,
        IsBoundRead (.ofDepth (depth + 2)) bound := by
      intro bound member rules tokens rest loosened ends
      refine takes_boundIn (fun part within => readBelow part ?_) loosened ends
      rcases List.mem_append.mp member with inFront | behind
      · obtain ⟨lifetime, -, rfl⟩ := List.mem_map.mp inFront
        cases within
      · rcases List.mem_cons.mp behind with rfl | later
        · exact List.mem_append_left _ within
        · exact List.mem_append_right _ (List.mem_flatMap.mpr ⟨bound, later, within⟩)
    refine takes_bounded bounds loosened ends fun refused => ?_
    rw [refused] at admitted
    have alone : leading = [] ∧ more = [] := by
      simpa [TypeTree.joinsBounds] using admitted
    rw [alone.1, alone.2]
    rfl

/-- Every type has tokens. -/
theorem TypeTree.weight_pos (type : TypeTree) : 0 < type.weight := by
  have begins := TypeTree.beginsType (Loosened.refl type.tokens) (@EndsType.nothing true)
  rw [List.append_nil] at begins
  obtain ⟨first, more, shape⟩ := List.exists_cons_of_ne_nil begins.ne_nil
  have some : 0 < first.weight := by
    cases first <;> simp [Token.weight]
  rw [weight, shape, Token.weightOfAll]
  omega

/-- A type is read by every grammar that is deep enough for its tokens. -/
theorem isRead_ofDepth (type : TypeTree) : ∀ {depth : Nat}, 4 * type.weight ≤ depth →
    IsRead (.ofDepth depth) type := by
  induction type using TypeTree.induct with
  | step type ih =>
    -- Every part has fewer tokens than the type, so it is read some levels below.
    intro depth deep admitsPlus tokens rest admitted loosened ends
    have some := type.weight_pos
    obtain ⟨depth, rfl⟩ : ∃ n, depth = n + 3 := ⟨depth - 3, by omega⟩
    have below {levels : Nat} (enough : depth ≤ levels) :
        ∀ part ∈ type.parts, IsRead (.ofDepth levels) part := by
      intro part member
      have lighter := TypeTree.weight_lt member
      exact ih part member (by omega)
    have form := @takes_typeForm depth type admitsPlus tokens rest (below (by omega))
      (below (by omega)) admitted loosened ends
    rw [← TypeTree.form_tokens]
    exact takes_then (takes_recorded form) (takes_pure _ rest)

mutual

/-- A token weighs as much as one that it is read like. -/
theorem Token.Loosens.weight_eq {token other : Token} : Token.Loosens token other →
    token.weight = other.weight
  | .same token => rfl
  | .joined char => rfl
  | .group delimiter within => by
    rw [Token.weight, Token.weight, Loosened.weightOfAll_eq within]

/-- Tokens weigh as much as others that they are read like. -/
theorem Loosened.weightOfAll_eq {tokens others : List Token} : Loosened tokens others →
    Token.weightOfAll tokens = Token.weightOfAll others
  | .nil => rfl
  | .cons first behind => by
    rw [Token.weightOfAll, Token.weightOfAll, first.weight_eq, Loosened.weightOfAll_eq behind]

end

/-- What is read of the tokens of a type, joined or not, is the type. -/
theorem readTokens_of_loosened {type : TypeTree} {tokens : List Token}
    (loosened : Loosened tokens type.tokens) :
    readTokens (·.type true) tokens = .ok (type.expr, type.tokens) := by
  have deep : 4 * type.weight ≤ 4 * Token.weightOfAll tokens + 8 := by
    rw [loosened.weightOfAll_eq, TypeTree.weight]
    omega
  have takes := (isRead_ofDepth type deep).whole loosened .nothing
  rw [List.append_nil] at takes
  exact takes.readAll_eq

end RecordCoding.Source
