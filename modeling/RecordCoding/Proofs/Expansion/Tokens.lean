import RecordCoding.Expansion.Notice

/-!
# Tokens within tokens

What is somewhere in generated code, at whatever depth: the identifiers of tokens, and rows of
tokens that stand in a row there. Notices of diagnostics declare nothing and implement nothing.
-/

namespace RecordCoding

namespace Source.Token

mutual

/-- The identifiers in a token, at any depth. -/
def identifiers : Token → List String
  | ident name => [name]
  | group _ content => identifiersOfAll content
  | _ => []

/-- The identifiers in several tokens, at any depth. -/
def identifiersOfAll : List Token → List String
  | [] => []
  | first :: rest => first.identifiers ++ identifiersOfAll rest

end

/-- The identifiers in a group are those of its content. -/
@[simp] theorem identifiersOfAll_cons_group (delimiter : Delimiter) (content rest : List Token) :
    identifiersOfAll (.group delimiter content :: rest) =
      identifiersOfAll content ++ identifiersOfAll rest := by
  rw [identifiersOfAll, identifiers]

/-- There is no identifier in punctuation. -/
@[simp] theorem identifiersOfAll_cons_punct (char : Char) (joined : Bool) (rest : List Token) :
    identifiersOfAll (.punct char joined :: rest) = identifiersOfAll rest := rfl

/-- There is no identifier in a literal. -/
@[simp] theorem identifiersOfAll_cons_literal (written : String) (rest : List Token) :
    identifiersOfAll (.literal written :: rest) = identifiersOfAll rest := rfl

/-- Identifiers are those of the parts. -/
@[simp] theorem identifiersOfAll_append (first second : List Token) :
    identifiersOfAll (first ++ second) = identifiersOfAll first ++ identifiersOfAll second := by
  induction first with
  | nil => rfl
  | cons token rest ih => rw [List.cons_append, identifiersOfAll, ih, identifiersOfAll,
      List.append_assoc]

/-- An identifier in many parts is in one of them. -/
theorem exists_of_mem_identifiersOfAll_flatMap {α : Type} {f : α → List Token} {xs : List α}
    {name : String} (member : name ∈ identifiersOfAll (xs.flatMap f)) :
    ∃ x ∈ xs, name ∈ identifiersOfAll (f x) := by
  induction xs with
  | nil => cases member
  | cons x rest ih =>
    rw [List.flatMap_cons, identifiersOfAll_append, List.mem_append] at member
    rcases member with here | later
    · exact ⟨x, List.mem_cons_self, here⟩
    · obtain ⟨other, inside, found⟩ := ih later
      exact ⟨other, List.mem_cons_of_mem x inside, found⟩

end Source.Token

namespace Expansion

open Source

/-- A row of tokens stands in a row among others, or within a group of them. -/
inductive Occurs (row : List Token) : List Token → Prop
  | here (before after : List Token) : Occurs row (before ++ row ++ after)
  | inside (before after : List Token) {delimiter : Delimiter} {content : List Token}
    (within : Occurs row content) : Occurs row (before ++ .group delimiter content :: after)

namespace Occurs

variable {row tokens others : List Token}

/-- A row occurs in itself. -/
theorem refl (row : List Token) : Occurs row row := by
  have here : Occurs row ([] ++ row ++ []) := .here [] []
  rwa [List.nil_append, List.append_nil] at here

/-- Tokens in front do not matter. -/
theorem behind (occurs : Occurs row tokens) : Occurs row (others ++ tokens) := by
  cases occurs with
  | here before after =>
    rw [← List.append_assoc, ← List.append_assoc]
    exact .here (others ++ before) after
  | inside before after within =>
    rw [← List.append_assoc]
    exact .inside (others ++ before) after within

/-- Tokens behind do not matter. -/
theorem before (occurs : Occurs row tokens) : Occurs row (tokens ++ others) := by
  cases occurs with
  | here before after =>
    rw [List.append_assoc]
    exact .here before (after ++ others)
  | inside before after within =>
    rw [List.append_assoc, List.cons_append]
    exact .inside before (after ++ others) within

/-- What occurs in a part occurs in the whole. -/
theorem trans (occurs : Occurs row tokens) (within : Occurs tokens others) :
    Occurs row others := by
  induction within with
  | here before after => exact occurs.behind.before
  | inside before after _ ih => exact .inside before after ih

end Occurs

/-- The identifiers in code that stops the compilation. -/
theorem identifiersOfAll_compileError (message : String) :
    Token.identifiersOfAll (compileError message) = ["core", "compile_error"] := by
  simp only [compileError, braces, literal, Token.identifiersOfAll_append,
    Token.identifiersOfAll_cons_group, Token.identifiersOfAll_cons_literal]
  decide +kernel

/-- The identifiers in code that the compiler warns about. -/
theorem identifiersOfAll_compileWarning (message : String) :
    Token.identifiersOfAll (compileWarning message) =
      ["const", "_", "deprecated", "note", "allow", "non_upper_case_globals", "const",
        "codify_warning", "let", "_", "codify_warning"] := by
  simp only [compileWarning, attribution, brackets, braces, parens, literal,
    Token.identifiersOfAll_append, Token.identifiersOfAll_cons_group,
    Token.identifiersOfAll_cons_punct, Token.identifiersOfAll_cons_literal]
  decide +kernel

/-- Notices neither declare a type nor implement anything. -/
theorem notMem_identifiersOfAll_notices (found : List Diagnostic) :
    ∀ word ∈ ["enum", "impl"], word ∉ Token.identifiersOfAll (notices found) := by
  intro word item member
  obtain ⟨d, -, within⟩ := Token.exists_of_mem_identifiersOfAll_flatMap member
  unfold notice at within
  split at within
  · rw [identifiersOfAll_compileError] at within
    have apart : ∀ word ∈ ["enum", "impl"], word ∉ ["core", "compile_error"] := by decide
    exact apart word item within
  · rw [identifiersOfAll_compileWarning] at within
    have apart : ∀ word ∈ ["enum", "impl"], word ∉
        ["const", "_", "deprecated", "note", "allow", "non_upper_case_globals", "const",
          "codify_warning", "let", "_", "codify_warning"] := by decide
    exact apart word item within

end Expansion

end RecordCoding
