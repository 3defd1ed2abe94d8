import RecordCoding.Configuration.Settings
import RecordCoding.Proofs.Commands.Agreement

/-!
# Notices of findings

The code for a type begins with one notice for every finding of a check about that type, in the
order of the findings. A check stops with the run, however, and writing the code may still come
upon a text that cannot be read; then there is one more notice, and no code behind it.
-/

namespace RecordCoding

namespace Expansion

open Source

/-- The notices that code begins with: how severe each is, and the literal of its message. -/
def noticesIn : List Token → List (Severity × String)
  | .punct ':' true :: .punct ':' false :: .ident "core" :: .punct ':' true :: .punct ':' false ::
      .ident "compile_error" :: .punct '!' false :: .group .brace [.literal message] :: rest =>
    (.error, message) :: noticesIn rest
  | .ident "const" :: .ident "_" :: .punct ':' false :: .group .parenthesis [] ::
      .punct '=' false :: .group .brace (.punct '#' false ::
        .group .bracket [.ident "deprecated", .group .parenthesis
          [.ident "note", .punct '=' false, .literal message]] :: _) :: .punct ';' false :: rest =>
    (.warning, message) :: noticesIn rest
  | _ => []

/-- How a diagnostic shows among the notices. -/
def shown (d : Diagnostic) : Severity × String := (d.severity, Text.quoteLiteral d.message)

/-- A notice in front of code is read first. -/
theorem noticesIn_notice (d : Diagnostic) (rest : List Token) :
    noticesIn (notice d ++ rest) = shown d :: noticesIn rest := by
  unfold notice shown
  cases d.severity with
  | error => rfl
  | warning => rfl

/-- The notices in front of code are read in order. -/
theorem noticesIn_notices (found : List Diagnostic) (rest : List Token) :
    noticesIn (notices found ++ rest) = found.map shown ++ noticesIn rest := by
  induction found with
  | nil => rfl
  | cons d others ih =>
    have split : notices (d :: others) ++ rest = notice d ++ (notices others ++ rest) := by
      rw [← List.append_assoc]
      rfl
    rw [split, noticesIn_notice, ih]
    rfl

/-- Code that begins with an attribute, if there is any, does not begin with a notice. -/
def Unannounced (tokens : List Token) : Prop :=
  ∀ rest, noticesIn rest = [] → noticesIn (tokens ++ rest) = []

/-- Neither does what is made of such code, if it is there. -/
theorem unannounced_flatMap {α : Type} {f : α → List Token} (each : ∀ x, Unannounced (f x))
    (x? : Option α) : Unannounced (x?.toList.flatMap f) := by
  intro rest quiet
  cases x? with
  | none => exact quiet
  | some x =>
    rw [Option.toList_some, List.flatMap_singleton]
    exact each x rest quiet

/-- There are no notices in the code of artifacts. -/
theorem noticesIn_tokens (code : Code) (item : TypeItem) : noticesIn (code.tokens item) = [] := by
  have table : ∀ c, Unannounced (TableCode.tokens item c) := fun _ _ _ => rfl
  have decode : ∀ c, Unannounced (DecodeCode.tokens item c) := fun _ _ _ => rfl
  have encode : ∀ c, Unannounced (EncodeCode.tokens item c) := fun _ _ _ => rfl
  have last : noticesIn (if code.hasBridge then bridge item else []) = [] := by
    cases code.hasBridge with
    | true => rfl
    | false => rfl
  unfold Code.tokens
  rw [List.append_assoc, List.append_assoc]
  exact unannounced_flatMap table _ _
    (unannounced_flatMap decode _ _ (unannounced_flatMap encode _ _ last))

end Expansion

namespace Commands

open Source Expansion

/-- The run for a type is done, and the code for what it produced needs a text that cannot be
read. -/
structure Hindered (survey : Survey) (type : SurveyedType) (config : Configuration) : Prop where
  started : (survey.situate type config).isBlocked = false
  done : (generate (survey.situate type config).lowered.decl config).state = .done
  illegible : Illegible (survey.situate type config).lowered.decl
    (generate (survey.situate type config).lowered.decl config)

/-- The code for a type begins with what a check finds about it. -/
structure ShowsFindings (file : SourceFile) (config : Configuration) (type : SurveyedType)
    (tokens : List Token) : Prop where
  /-- What is found about the type stands together in the check of the file. -/
  checked : ∃ before after,
    check file config = before ++ typeFindings file config type ++ after
  /-- Unless a text cannot be read, the notices are the findings in order. -/
  shown : ¬ Hindered file.survey type config →
    noticesIn tokens = ((typeFindings file config type).map (·.diagnostic)).map Expansion.shown
  /-- Behind the notices there is code without any, or nothing. -/
  behind : ¬ Hindered file.survey type config → ∃ rest,
    tokens = notices ((typeFindings file config type).map (·.diagnostic)) ++ rest ∧
      noticesIn rest = []
  /-- If a text cannot be read, the notice of that is behind those of the findings, and there is
  nothing behind it. -/
  hindered : Hindered file.survey type config → ∃ defect : Defect,
    tokens = notices ((typeFindings file config type).map (·.diagnostic) ++ [defect.diagnostic])
  /-- Where no error is found and all texts can be read, there is no notice of an error. -/
  harmless : ¬ Hindered file.survey type config →
    (∀ finding ∈ typeFindings file config type, finding.diagnostic.severity = .warning) →
    ∀ notice ∈ noticesIn tokens, notice.1 = .warning

section

variable {file : SourceFile} {config : Configuration} {type : SurveyedType} {tokens : List Token}

/-- The findings about a type are what is found, whatever it is found under. -/
theorem map_diagnostic_typeFindings :
    (typeFindings file config type).map (·.diagnostic) =
      (file.survey.situate type config).found config := by
  unfold typeFindings
  rw [List.map_map]
  exact List.map_id _

/-- The findings about a type stand together in a check. -/
theorem exists_check_eq (derived : type ∈ file.survey.derived) :
    ∃ before after, check file config = before ++ typeFindings file config type ++ after := by
  obtain ⟨earlier, later, split⟩ := List.append_of_mem (List.mem_filter.mp derived).1
  rw [check_eq, split]
  refine ⟨earlier.flatMap (typeFindings file config), later.flatMap (typeFindings file config) ++
    file.survey.misplaced.map fun misplaced =>
      ⟨file.path, misplaced.owner, misplaced.diagnostic⟩, ?_⟩
  simp only [List.flatMap_append, List.flatMap_cons, List.append_assoc]

/-- Code that was written is the notices of what was found, with at most one more behind them if a
text could not be read, and otherwise with code behind them. -/
theorem written_cases (written : codeWithin file.survey type config = .ok tokens) :
    (¬ Hindered file.survey type config ∧ ∃ rest,
      tokens = notices ((file.survey.situate type config).found config) ++ rest ∧
        noticesIn rest = []) ∨
    Hindered file.survey type config ∧ ∃ defect : Defect,
      tokens = notices ((file.survey.situate type config).found config ++
        [defect.diagnostic]) := by
  rw [codeWithin_eq] at written
  unfold Situated.found
  cases blocked : (file.survey.situate type config).isBlocked with
  | true =>
    rw [blocked] at written
    cases written
    refine Or.inl ⟨?_, [], ?_, rfl⟩
    · intro hindered
      have started := hindered.started
      rw [blocked] at started
      cases started
    · rw [List.append_nil, if_pos rfl, List.append_nil]
  | false =>
    rw [blocked, if_neg Bool.false_ne_true] at written
    rw [if_neg Bool.false_ne_true]
    have free := ((Situated.isBlocked_eq_false_iff _).mp blocked).1
    rw [Situated.flaws_of_conflict_eq_none free]
    cases rendering type.item (file.survey.situate type config).lowered config with
    | failed state rendered =>
      rw [rendered] at written
      cases written
      refine Or.inl ⟨?_, [], (List.append_nil _).symm, rfl⟩
      intro hindered
      have done := hindered.done
      rw [state] at done
      cases done
    | code code state legible rendered =>
      rw [rendered] at written
      cases written
      exact Or.inl ⟨fun hindered => legible hindered.illegible, _, rfl, noticesIn_tokens code _⟩
    | defect defect state illegible rendered =>
      rw [rendered] at written
      cases written
      exact Or.inr ⟨⟨blocked, state, illegible⟩, defect, rfl⟩
    | unwritable name declared refused nothing =>
      rw [nothing] at written
      cases written

/-- The code for a type that asks for generation begins with what a check finds about it. -/
theorem showsFindings_of_written (derived : type ∈ file.survey.derived)
    (written : codeWithin file.survey type config = .ok tokens) :
    ShowsFindings file config type tokens := by
  have read (free : ¬ Hindered file.survey type config) : ∃ rest,
      tokens = notices ((typeFindings file config type).map (·.diagnostic)) ++ rest ∧
        noticesIn rest = [] := by
    rw [map_diagnostic_typeFindings]
    rcases written_cases written with ⟨-, split⟩ | ⟨hindered, -⟩
    · exact split
    · exact absurd hindered free
  have shown (free : ¬ Hindered file.survey type config) : noticesIn tokens =
      ((typeFindings file config type).map (·.diagnostic)).map Expansion.shown := by
    obtain ⟨rest, split, quiet⟩ := read free
    rw [split, noticesIn_notices, quiet, List.append_nil]
  constructor
  case checked => exact exists_check_eq derived
  case shown => exact shown
  case behind => exact read
  case hindered =>
    intro hindered
    rw [map_diagnostic_typeFindings]
    rcases written_cases written with ⟨free, -⟩ | ⟨-, more⟩
    · exact absurd hindered free
    · exact more
  case harmless =>
    intro free warnings notice member
    rw [shown free, List.map_map] at member
    obtain ⟨finding, found, rfl⟩ := List.mem_map.mp member
    exact warnings finding found

end

/-- A configuration with a sign for a suffix that a name may not have in it. -/
def squared : Configuration := { Configuration.standard with tableSuffix := "²" }

/-- A memo: the key of its first field is given twice, and its second field has an option that
belongs on a type. -/
def memo : SurveyedType where
  item :=
    { attrs := []
      visibility := []
      name := "Memo"
      generics := ⟨[], []⟩
      body := .named [
        ⟨[⟨some "codify", .arguments [.ident "rename", .punct '=' false, .literal "\"ID\"",
            .punct ',' false, .ident "case", .punct '=' false, .literal "\"UPPERCASE\""], []⟩],
          some "id", .path [.ident "u64"] false ["u64"] []⟩,
        ⟨[⟨some "codify", .arguments [.ident "no_serde"], []⟩], some "at",
          .path [.ident "u64"] false ["u64"] []⟩] }
  derives := true

/-- A file with memos in it. -/
def memos : SourceFile := ⟨"memos.rs", ⟨[memo], [], []⟩⟩

/-- The code for a memo begins with an error and a warning, and ends with them and one more error if
its key table cannot be named. -/
theorem showsFindings_of_written_memo :
    memo ∈ memos.survey.derived ∧
    (∃ tokens, codeWithin memos.survey memo .standard = .ok tokens ∧
      ShowsFindings memos .standard memo tokens ∧
      (noticesIn tokens).map (·.1) = [.error, .warning]) ∧
    ∃ tokens, codeWithin memos.survey memo squared = .ok tokens ∧
      ShowsFindings memos squared memo tokens ∧
      (noticesIn tokens).map (·.1) = [.error, .warning, .error] := by
  have derived : memo ∈ memos.survey.derived := List.mem_singleton.mpr rfl
  have standard : (codeWithin memos.survey memo .standard).toOption.map
      (fun tokens => (noticesIn tokens).map (·.1)) = some [.error, .warning] := by decide +kernel
  have unnamed : (codeWithin memos.survey memo squared).toOption.map
      (fun tokens => (noticesIn tokens).map (·.1)) = some [.error, .warning, .error] := by
    decide +kernel
  obtain ⟨tokens, written, severities⟩ := Option.map_eq_some_iff.mp standard
  obtain ⟨others, writtenToo, severitiesToo⟩ := Option.map_eq_some_iff.mp unnamed
  have first := toOption_eq_some_iff.mp written
  have second := toOption_eq_some_iff.mp writtenToo
  exact ⟨derived, ⟨tokens, first, showsFindings_of_written derived first, severities⟩,
    others, second, showsFindings_of_written derived second, severitiesToo⟩

/-- A configuration with a suffix of letters that completes a reserved word. -/
def reserved : Configuration := { Configuration.standard with tableSuffix := "lf" }

/-- A suffix is accepted that makes no name of some types: a check of the file finds nothing, and
all the same the code for the type in it is the notice of an error. -/
theorem check_reserved :
    Configuration.ofText "key_table_suffix = \"lf\"" = .ok reserved ∧
    (SourceFile.ofText "models.rs" "#[derive(Codify)] struct Se { x: u8 }").toOption.map
      (fun file => (check file reserved, file.survey.derived.map fun type =>
        (codeWithin file.survey type reserved).toOption.map noticesIn)) =
      some ([], [some [(.error,
        Text.quoteLiteral (Defect.tableName "Self").diagnostic.message)]]) := by
  decide +kernel

end Commands

end RecordCoding
