import RecordCoding.Proofs.Source.TypeTrees
import RecordCoding.Source.Grammar.Type

/-!
# Where types begin and end

What is seen of the tokens of a type from in front, and of what is behind it: few marks and words
begin a type, and fewer end it, so that the reading of a type goes one way only. The tokens of a
source text may have more punctuation joined than those in canonical form.
-/

namespace RecordCoding.Source

/-! ## Parts in a row -/

/-- Tokens of several items, each like its canonical ones, with a mark between two of them. -/
inductive InRow {ι : Type} (mark : Char) (tokensOf : ι → List Token) : List ι → List Token → Prop
  | last {item : ι} {tokens : List Token} (loosened : Loosened tokens (tokensOf item)) :
    InRow mark tokensOf [item] tokens
  | more {item : ι} {items : List ι} {tokens behind : List Token}
    (loosened : Loosened tokens (tokensOf item)) (joined : Bool)
    (others : InRow mark tokensOf items behind) :
    InRow mark tokensOf (item :: items) (tokens ++ .punct mark joined :: behind)

/-- Parts in a row are read like those of several items. -/
theorem inRow_of_separated {ι : Type} {mark : Char} {tokensOf : ι → List Token} {first : ι}
    {more : List ι} {tokens : List Token}
    (loosened : Loosened tokens (separated mark ((first :: more).map tokensOf))) :
    InRow mark tokensOf (first :: more) tokens := by
  induction more generalizing first tokens with
  | nil =>
    simp only [List.map_cons, List.map_nil, separated, List.flatMap_nil,
      List.append_nil] at loosened
    exact .last loosened
  | cons second more ih =>
    have shape : separated mark ((first :: second :: more).map tokensOf) =
        tokensOf first ++ .punct mark false :: separated mark ((second :: more).map tokensOf) := by
      simp [separated]
    rw [shape] at loosened
    obtain ⟨item, _, rfl, loosenedItem, behind⟩ := loosened.of_append
    obtain ⟨joined, others, rfl, loosenedOthers⟩ := Loosened.of_mark behind
    exact .more loosenedItem joined (ih loosenedOthers)

/-- Behind the first of several items there is a mark. -/
theorem InRow.separated_cons {ι : Type} {mark : Char} {tokensOf : ι → List Token} {items : List ι}
    {behind : List Token} (others : InRow mark tokensOf items behind) (item : ι) :
    separated mark ((item :: items).map tokensOf) =
      tokensOf item ++ [.punct mark false] ++ separated mark (items.map tokensOf) := by
  cases others <;> simp [separated]

/-! ## Where types begin and end -/

/-- Whether a name is not announced by a colon: none is in front, or the mark of a path. -/
def Unannounced (tokens : List Token) : Prop :=
  Ahead.mark ":" tokens = true → Ahead.mark "::" tokens = true

/-- The keywords that begin a type. -/
def typeWords : List String := ["for", "unsafe", "extern", "fn", "dyn", "impl"]

/-- Tokens that begin with a type. -/
inductive BeginsType : List Token → Prop
  | name {name : String} {rest : List Token} (named : isName name = true)
    (unannounced : Unannounced rest) : BeginsType (.ident name :: rest)
  | inferred {rest : List Token} (unannounced : Unannounced rest) : BeginsType (.ident "_" :: rest)
  | keyword {word : String} (keyword : word ∈ typeWords) (rest : List Token) :
    BeginsType (.ident word :: rest)
  | root (joined : Bool) (rest : List Token) :
    BeginsType (.punct ':' true :: .punct ':' joined :: rest)
  | mark {c : Char} (mark : c ∈ ['*', '&', '!']) (joined : Bool) (rest : List Token) :
    BeginsType (.punct c joined :: rest)
  | group {delimiter : Delimiter} (noBrace : delimiter ≠ .brace) (content rest : List Token) :
    BeginsType (.group delimiter content :: rest)

/-- Tokens that no type goes on with: none, or what ends a type where it stands. Where no plus sign
is admitted, one may follow. -/
inductive EndsType (admitsPlus : Bool) : List Token → Prop
  | nothing : EndsType admitsPlus []
  | mark {c : Char} (mark : c ∈ [',', '>', ';', '=']) (joined : Bool) (rest : List Token) :
    EndsType admitsPlus (.punct c joined :: rest)
  | plus (refused : admitsPlus = false) (joined : Bool) (rest : List Token) :
    EndsType admitsPlus (.punct '+' joined :: rest)

/-- A punctuation character is seen where it stands. -/
theorem mark_punct {expected : String} {c : Char} (alone : expected.toList = [c]) (joined : Bool)
    (rest : List Token) : Ahead.mark expected (.punct c joined :: rest) = true := by
  simp [Ahead.mark, Ahead.marks, alone]

/-- What punctuation begins with decides whether it comes next. -/
theorem not_mark_punct {expected : String} {c : Char} (joined : Bool) (rest : List Token)
    (other : expected.toList.head?.any (· != c) = true) :
    Ahead.mark expected (.punct c joined :: rest) = false := by
  rw [Ahead.mark]
  cases shape : expected.toList with
  | nil => simp [shape] at other
  | cons d more =>
    simp only [shape, List.head?_cons, Option.any_some, bne_iff_ne] at other
    cases more <;> simp [Ahead.marks, other]

/-- No punctuation is seen in a word or a group. -/
theorem not_mark_other {expected : String} {token : Token} (rest : List Token)
    (present : expected ≠ "") (other : ∀ c joined, token ≠ .punct c joined) :
    Ahead.mark expected (token :: rest) = false := by
  rw [Ahead.mark]
  cases shape : expected.toList with
  | nil => exact absurd (String.toList_eq_nil_iff.mp shape) present
  | cons d more =>
    cases token with
    | punct c joined => exact absurd rfl (other c joined)
    | ident | literal | group => cases more <;> rfl

namespace EndsType

variable {admitsPlus : Bool} {tokens : List Token}

/-- What ends a type is one of a few marks. -/
theorem not_mark (ends : EndsType admitsPlus tokens) {expected : String}
    (apart : [',', '>', ';', '=', '+'].all (fun c => expected.toList.head?.any (· != c)) = true) :
    Ahead.mark expected tokens = false := by
  have other := List.all_eq_true.mp apart
  cases ends with
  | nothing =>
    rw [Ahead.mark]
    cases shape : expected.toList with
    | nil =>
      have first := other ',' (by simp)
      simp [shape] at first
    | cons c more => cases more <;> rfl
  | mark mark joined rest =>
    exact not_mark_punct joined rest (other _ (List.mem_append_left ['+'] mark))
  | plus refused joined rest => exact not_mark_punct joined rest (other _ (by simp))

/-- No plus sign follows where one is admitted. -/
theorem not_plus (ends : EndsType true tokens) : Ahead.mark "+" tokens = false := by
  cases ends with
  | nothing => rfl
  | mark mark joined rest =>
    have other : ∀ c ∈ [',', '>', ';', '='], "+".toList.head?.any (· != c) = true :=
      forall_mem_of_all (by decide)
    exact not_mark_punct joined rest (other _ mark)
  | plus refused => cases refused

/-- No word ends a type. -/
theorem not_word (ends : EndsType admitsPlus tokens) (word : String) :
    Ahead.word word tokens = false := by
  cases ends <;> rfl

/-- No group ends a type. -/
theorem not_group (ends : EndsType admitsPlus tokens) (delimiter : Delimiter) :
    Ahead.group delimiter tokens = false := by
  cases ends <;> rfl

/-- What ends a type announces nothing. -/
theorem unannounced (ends : EndsType admitsPlus tokens) : Unannounced tokens := by
  intro seen
  rw [ends.not_mark (by decide)] at seen
  cases seen

end EndsType

/-- No name is a reserved word. -/
theorem ne_of_isName {name word : String} (named : isName name = true)
    (reserved : word ∈ reservedWords) : name ≠ word := by
  rintro rfl
  simp [isName, reserved] at named

namespace BeginsType

variable {tokens : List Token}

/-- A type has tokens. -/
theorem ne_nil (begins : BeginsType tokens) : tokens ≠ [] := by
  cases begins <;> exact List.cons_ne_nil _ _

/-- A type begins with few of the marks. -/
theorem not_mark (begins : BeginsType tokens) {expected : String} (present : expected ≠ "")
    (apart : [':', '*', '&', '!'].all (fun c => expected.toList.head?.any (· != c)) = true) :
    Ahead.mark expected tokens = false := by
  have other := List.all_eq_true.mp apart
  cases begins with
  | name | inferred | keyword | group => exact not_mark_other _ present (by simp)
  | root joined rest => exact not_mark_punct true _ (other _ (by simp))
  | mark mark joined rest =>
    exact not_mark_punct joined rest (other _ (List.mem_cons_of_mem _ mark))

/-- A type begins with few of the reserved words. -/
theorem not_word (begins : BeginsType tokens) {word : String} (reserved : word ∈ reservedWords)
    (other : word ∉ "_" :: typeWords) : Ahead.word word tokens = false := by
  cases begins with
  | name named => simp [Ahead.word, ne_of_isName named reserved]
  | inferred =>
    simp only [Ahead.word, beq_eq_false_iff_ne]
    rintro rfl
    exact other List.mem_cons_self
  | keyword keyword rest =>
    simp only [Ahead.word, beq_eq_false_iff_ne]
    rintro rfl
    exact other (List.mem_cons_of_mem _ keyword)
  | root | mark | group => rfl

theorem not_lifetime (begins : BeginsType tokens) : Ahead.lifetime tokens = false := by
  cases begins with
  | name | inferred | keyword | root | group => rfl
  | mark mark joined rest =>
    simp only [List.mem_cons, List.not_mem_nil, or_false] at mark
    rcases mark with rfl | rfl | rfl <;> rfl

/-- No type begins like a constant that is no name. -/
theorem not_constant (begins : BeginsType tokens) : Ahead.constant tokens = false := by
  have noTruth : Ahead.word "true" tokens = false := begins.not_word (by decide) (by decide)
  have noFalsehood : Ahead.word "false" tokens = false := begins.not_word (by decide) (by decide)
  cases begins with
  | name | inferred | keyword =>
    rw [Ahead.word] at noTruth noFalsehood
    simp [Ahead.constant, Ahead.literal, Ahead.group, noTruth, noFalsehood]
  | root => rfl
  | mark mark joined rest =>
    simp only [List.mem_cons, List.not_mem_nil, or_false] at mark
    rcases mark with rfl | rfl | rfl <;> rfl
  | group noBrace content rest => simp [Ahead.constant, Ahead.literal, Ahead.group, noBrace]

end BeginsType

/-! ## Plain paths -/

/-- Tokens that begin with a plain path. -/
inductive BeginsPath : List Token → Prop
  | name {name : String} (named : isName name = true) (rest : List Token) :
    BeginsPath (.ident name :: rest)
  | root (joined : Bool) (rest : List Token) :
    BeginsPath (.punct ':' true :: .punct ':' joined :: rest)

/-- A plain path begins as paths do. -/
theorem NamePath.beginsPath {path : NamePath} {tokens : List Token}
    (loosened : Loosened tokens path.tokens) (rest : List Token) : BeginsPath (tokens ++ rest) := by
  obtain ⟨isAbsolute, names, present, identifiers, named⟩ := path
  cases isAbsolute with
  | true =>
    obtain ⟨joined, more, rfl, -⟩ := loosened.of_colons
    exact .root joined _
  | false =>
    obtain ⟨first, more, rfl⟩ := List.exists_cons_of_ne_nil present
    obtain ⟨others, rfl, -⟩ := loosened.of_ident
    exact .name (named first List.mem_cons_self) _

namespace BeginsPath

variable {tokens : List Token}

/-- No reserved word begins a path of names. -/
theorem not_word (begins : BeginsPath tokens) {word : String} (reserved : word ∈ reservedWords) :
    Ahead.word word tokens = false := by
  cases begins with
  | name named rest => simp [Ahead.word, ne_of_isName named reserved]
  | root => rfl

/-- No punctuation but the mark of a root begins a path. -/
theorem not_mark (begins : BeginsPath tokens) {expected : String} (present : expected ≠ "")
    (other : expected.toList.head?.any (· != ':') = true) :
    Ahead.mark expected tokens = false := by
  cases begins with
  | name => exact not_mark_other _ present (by simp)
  | root => exact not_mark_punct true _ other

theorem not_group (begins : BeginsPath tokens) (delimiter : Delimiter) :
    Ahead.group delimiter tokens = false := by
  cases begins <;> rfl

/-- A path may begin a type. -/
theorem typePath (begins : BeginsPath tokens) : Ahead.typePath tokens = true := by
  cases begins with
  | name named rest => simp [Ahead.typePath, Ahead.name, named]
  | root joined rest => simp [Ahead.typePath, Ahead.mark, Ahead.marks]

end BeginsPath

/-- A plain path begins a type. -/
theorem NamePath.beginsType {path : NamePath} {tokens rest : List Token}
    (loosened : Loosened tokens path.tokens) (behind : Unannounced rest) :
    BeginsType (tokens ++ rest) := by
  obtain ⟨isAbsolute, names, present, identifiers, named⟩ := path
  cases isAbsolute with
  | true =>
    obtain ⟨joined, more, rfl, -⟩ := loosened.of_colons
    exact .root joined _
  | false =>
    obtain ⟨first, more, rfl⟩ := List.exists_cons_of_ne_nil present
    obtain ⟨others, rfl, loosenedOthers⟩ := loosened.of_ident
    refine .name (named first List.mem_cons_self) ?_
    cases more with
    | nil =>
      cases loosenedOthers
      exact behind
    | cons second more =>
      obtain ⟨joined, _, rfl, -⟩ := loosenedOthers.of_colons
      simp [Unannounced, Ahead.mark, Ahead.marks]

/-! ## Types -/

/-- A type begins as types do, whatever ends it. -/
theorem TypeTree.beginsType {type : TypeTree} {admitsPlus : Bool} {tokens rest : List Token}
    (loosened : Loosened tokens type.tokens) (ends : EndsType admitsPlus rest) :
    BeginsType (tokens ++ rest) := by
  cases type with
  | named path lifetimes arguments =>
    rw [TypeTree.tokens] at loosened
    obtain ⟨names, behind, rfl, loosenedNames, loosenedBehind⟩ := loosened.of_append
    rw [List.append_assoc]
    refine NamePath.beginsType loosenedNames ?_
    cases shape : lifetimes.map (·.tokens) ++ ArgumentTree.tokensOfEach arguments with
    | nil =>
      rw [shape] at loosenedBehind
      cases loosenedBehind
      exact ends.unannounced
    | cons first more =>
      rw [shape, bracketed, List.cons_append] at loosenedBehind
      obtain ⟨joined, _, rfl, -⟩ := Loosened.of_mark loosenedBehind
      simp [Unannounced, Ahead.mark, Ahead.marks]
  | paren | tuple =>
    rw [TypeTree.tokens] at loosened
    obtain ⟨content, behind, rfl, -⟩ := Loosened.of_group loosened
    exact .group (by decide) _ _
  | slice | array =>
    rw [TypeTree.tokens] at loosened
    obtain ⟨content, behind, rfl, -⟩ := Loosened.of_group loosened
    exact .group (by decide) _ _
  | pointer | reference | never =>
    rw [TypeTree.tokens] at loosened
    obtain ⟨joined, behind, rfl, -⟩ := Loosened.of_mark loosened
    exact .mark (by decide) joined _
  | inferred =>
    rw [TypeTree.tokens] at loosened
    obtain ⟨behind, rfl, none⟩ := loosened.of_ident
    cases none
    exact .inferred ends.unannounced
  | function introduced isUnsafe convention arguments result =>
    have word : ∃ word ∈ typeWords, ∃ behind,
        TypeTree.tokens (.function introduced isUnsafe convention arguments result) =
          .ident word :: behind := by
      rw [TypeTree.tokens]
      cases introduced with
      | cons first more => exact ⟨"for", by decide, _, rfl⟩
      | nil =>
        cases isUnsafe with
        | true => exact ⟨"unsafe", by decide, _, rfl⟩
        | false =>
          cases convention with
          | standard => exact ⟨"fn", by decide, _, rfl⟩
          | foreign name => exact ⟨"extern", by decide, _, rfl⟩
    obtain ⟨word, keyword, behind, shape⟩ := word
    rw [shape] at loosened
    obtain ⟨behind, rfl, -⟩ := loosened.of_ident
    exact .keyword keyword _
  | bounded isOpaque leading first more =>
    rw [TypeTree.tokens] at loosened
    obtain ⟨behind, rfl, -⟩ := loosened.of_ident
    refine .keyword ?_ _
    cases isOpaque <;> decide

end RecordCoding.Source
