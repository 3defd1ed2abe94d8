import RecordCoding.Commands.Check
import RecordCoding.Commands.Expand
import RecordCoding.Commands.Keys
import RecordCoding.Proofs.Expansion.Obstruction

/-!
# A type where it occurs in a file

What a command makes of one type within its file: what it reports there, the code it writes and the
keys it lists. Reporting does not depend on the command, and the code does not depend on who is
reported to.
-/

namespace RecordCoding

namespace Source

/-- Whatever is lowered asks for generation, until its file says otherwise. -/
theorem TypeItem.derives_lower (item : TypeItem) : item.lower.decl.derives = true := by
  unfold TypeItem.lower
  dsimp only
  split
  · rfl
  · rfl

/-- A type that asks for generation is lowered within its file as it is on its own. -/
theorem Survey.lowered_situate {survey : Survey} {type : SurveyedType}
    (config : Configuration) (derives : type.derives = true) :
    (survey.situate type config).lowered = type.item.lower := by
  have same := type.item.derives_lower
  unfold Survey.situate
  rw [derives, ← same]

/-- The name of a declaration is that of the type without the mark of raw identifiers. -/
theorem TypeItem.name_lower (item : TypeItem) : item.lower.decl.name = unraw item.name := by
  unfold TypeItem.lower
  dsimp only
  split
  · rfl
  · rfl

/-- So it is where the type occurs. -/
theorem Survey.name_situate (survey : Survey) (type : SurveyedType) (config : Configuration) :
    (survey.situate type config).lowered.decl.name = unraw type.name :=
  type.item.name_lower

/-- A struct declares its key table itself exactly if that option is among its attributes. -/
theorem TypeItem.keyTable_lower {item : TypeItem} (isStruct : item.body.shape.isStruct = true) :
    item.lower.decl.handWritten.keyTable = true ↔
      .option .manualKeys ∈ nodeEffects .type item.attrs := by
  unfold TypeItem.lower structOfEffects
  dsimp only
  rw [if_pos isStruct, List.contains_iff_mem, List.mem_filterMap]
  constructor
  · rintro ⟨effect, member, chosen⟩
    cases effect with
    | option option =>
      cases chosen
      exact member
    | directive _ => cases chosen
    | computed => cases chosen
    | flaw _ => cases chosen
  · intro member
    exact ⟨_, member, rfl⟩

namespace Situated

variable (type : Situated) (config : Configuration)

/-- Everything that is found about a type within its file: what is wrong in the source, and what
the run finds if there is one. -/
def found : List Diagnostic :=
  type.flaws ++ if type.isBlocked then [] else (generate type.lowered.decl config).diagnostics

/-- What is found with the names it is reported under: the name given for what is wrong in the
source, and the name of the declaration for what the run finds. -/
def reports (name : String) : List Report :=
  type.flaws.map (name, ·) ++
    if type.isBlocked then []
    else (generate type.lowered.decl config).diagnostics.map (type.lowered.decl.name, ·)

/-- Whatever the names, what is reported is what is found. -/
@[simp] theorem map_snd_reports (name : String) :
    (type.reports config name).map (·.2) = type.found config := by
  unfold reports found
  cases type.isBlocked <;> simp [Function.comp_def]

/-- Under its own name a type has all its reports under one name. -/
theorem reports_name :
    type.reports config type.lowered.decl.name =
      (type.found config).map (type.lowered.decl.name, ·) := by
  unfold reports found
  cases type.isBlocked <;> simp

/-- A run is started exactly if there is no conflict and nothing fatal in the source. -/
theorem isBlocked_eq_false_iff :
    type.isBlocked = false ↔ type.conflict = none ∧ type.lowered.isFatal = false := by
  unfold isBlocked
  rw [Bool.or_eq_false_iff, Option.isSome_eq_false_iff, Option.isNone_iff_eq_none]

end Situated

end Source

namespace Commands

open Source Expansion

section

variable {m : Type → Type} [Monad m] [LawfulMonad m] (sink : Sink m)

/-- Examining a type reports what is found, in order, and comes to the outcome of the run. -/
theorem examine_eq (name : String) (type : Situated) (config : Configuration) :
    examine sink name type config = (do
      (type.reports config name).forM fun report => sink report.1 report.2
      pure (if type.isBlocked then none else some (generate type.lowered.decl config))) := by
  unfold examine Situated.reports
  cases type.isBlocked with
  | true => simp [List.forM_eq_forM]
  | false => simp [List.forM_eq_forM, generateWith_eq]

end

/-- The code for a type within its file. -/
def codeWithin (survey : Survey) (type : SurveyedType) (config : Configuration) :
    Except UnwritableName (List Token) :=
  Id.run (expandType Sink.silent survey type config)

/-- The code is that of the notices where no run is started, and of the outcome where one is. -/
theorem codeWithin_eq (survey : Survey) (type : SurveyedType) (config : Configuration) :
    codeWithin survey type config =
      if (survey.situate type config).isBlocked then
        .ok (notices (survey.situate type config).flaws)
      else render type.item (survey.situate type config).lowered
        (generate (survey.situate type config).lowered.decl config) config := by
  simp only [codeWithin, expandType, examine_eq]
  cases (survey.situate type config).isBlocked with
  | true => simp
  | false => simp

/-- Expanding a type reports what is found, in order, and gives its code, whoever is reported
to. -/
theorem expandType_eq {m : Type → Type} [Monad m] [LawfulMonad m] (sink : Sink m) (survey : Survey)
    (type : SurveyedType) (config : Configuration) :
    expandType sink survey type config = (do
      ((survey.situate type config).reports config type.name).forM fun report =>
        sink report.1 report.2
      pure (codeWithin survey type config)) := by
  simp only [codeWithin_eq, expandType, examine_eq]
  cases (survey.situate type config).isBlocked with
  | true => simp
  | false => simp

/-- Without a conflict the code for a type within its file is its code on its own. -/
theorem codeWithin_of_conflict_eq_none {survey : Survey} {type : SurveyedType}
    {config : Configuration} (derives : type.derives = true)
    (free : (survey.situate type config).conflict = none) :
    codeWithin survey type config = expand type.item config := by
  have lowered := survey.lowered_situate config derives
  have flaws := Situated.flaws_of_conflict_eq_none free
  have blocked : (survey.situate type config).isBlocked = type.item.lower.isFatal := by
    rw [Situated.isBlocked, free, lowered]
    rfl
  rw [codeWithin_eq, expand_eq, blocked, flaws, lowered]

/-- The code for a type can be written if there is an identifier for every name in it. -/
theorem codeWithin_of_identifiers {survey : Survey} {type : SurveyedType} {config : Configuration}
    (named : ∀ field ∈ type.item.lower.decl.fields,
      ∃ identifier, fieldIdentifier field.name = .ok identifier) :
    ∃ tokens, codeWithin survey type config = .ok tokens := by
  rw [codeWithin_eq]
  cases (survey.situate type config).isBlocked with
  | true => exact ⟨_, rfl⟩
  | false =>
    rw [if_neg Bool.false_ne_true]
    cases rendering type.item (survey.situate type config).lowered config with
    | failed _ tokens => exact ⟨_, tokens⟩
    | code _ _ _ tokens => exact ⟨_, tokens⟩
    | defect _ _ _ tokens => exact ⟨_, tokens⟩
    | unwritable name declared refused _ =>
      obtain ⟨identifier, found⟩ := named _ declared
      rw [found] at refused
      cases refused

/-- The keys that are listed for a type whose run is done are those of the key table of the
outcome; where the type declares its table, none are. -/
theorem listing_of_done {decl : Declaration} {config : Configuration}
    (done : (generate decl config).state = .done) :
    KeyListing.ofOutcome (generate decl config) =
      ⟨decl.name, config.tableName decl.name, !decl.handWritten.keyTable,
        ((generate decl config).artifacts.keyTable.map (·.entries)).getD []⟩ := by
  have present := (Generation.verdict_generate decl config).done_keyTable done
  have typeName : (generate decl config).typeName = decl.name := by rw [generate_eq]
  have tableName := keyTableName_generate decl config
  unfold KeyListing.ofOutcome
  cases produced : (generate decl config).artifacts.keyTable with
  | some table =>
    obtain ⟨found, stands⟩ := exists_generate_of_keyTable produced
    rw [produced] at present
    rw [typeName, ← present, ← KeyTable.name_of_generate stands]
    rfl
  | none =>
    rw [produced] at present
    rw [typeName, tableName, ← present]
    rfl

/-- A type is listed exactly if nothing kept its run from starting and the run is done. -/
theorem listKeys?_eq (type : Situated) (config : Configuration) :
    listKeys? type config =
      if type.conflict = none ∧ type.lowered.isFatal = false ∧
        (generate type.lowered.decl config).state = .done
      then some ⟨type.lowered.decl.name, config.tableName type.lowered.decl.name,
        !type.lowered.decl.handWritten.keyTable,
        ((generate type.lowered.decl config).artifacts.keyTable.map (·.entries)).getD []⟩
      else none := by
  have terminal := (Generation.verdict_generate type.lowered.decl config).terminal
  unfold listKeys?
  cases blocked : type.isBlocked with
  | true =>
    have kept : ¬ (type.conflict = none ∧ type.lowered.isFatal = false ∧
        (generate type.lowered.decl config).state = .done) := by
      rintro ⟨free, sound, -⟩
      have started := type.isBlocked_eq_false_iff.mpr ⟨free, sound⟩
      rw [blocked] at started
      cases started
    rw [if_neg kept]
    rfl
  | false =>
    obtain ⟨free, sound⟩ := type.isBlocked_eq_false_iff.mp blocked
    rw [if_neg Bool.false_ne_true]
    dsimp only
    rcases terminal with done | failed
    · have finished : (generate type.lowered.decl config).isFailed = false := by
        rw [Outcome.isFailed, done]
        rfl
      rw [finished, if_neg Bool.false_ne_true, if_pos ⟨free, sound, done⟩, listing_of_done done]
    · have gaveUp : (generate type.lowered.decl config).isFailed = true := by
        rw [Outcome.isFailed, failed]
        rfl
      have undone : ¬ (generate type.lowered.decl config).state = .done := by
        rw [failed]
        intro done
        cases done
      have kept : ¬ (type.conflict = none ∧ type.lowered.isFatal = false ∧
          (generate type.lowered.decl config).state = .done) :=
        fun listed => undone listed.2.2
      rw [gaveUp, if_neg kept]
      rfl

end Commands

end RecordCoding
