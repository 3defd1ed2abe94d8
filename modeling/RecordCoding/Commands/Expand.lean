import RecordCoding.Commands.SourceFile
import RecordCoding.Expansion.Code
import RecordCoding.Reporting.LogEvent

/-!
# Expanding a file

The code for the types in a file that ask for generation, for all of them or for those of one
name. A type for which generation does not start has nothing but the notices of the reasons.
-/

namespace RecordCoding.Commands

open Source Expansion

/-- The code for one type. -/
structure TypeExpansion where
  /-- The name as it is written. -/
  typeName : String
  tokens : List Token
  deriving Repr, BEq

/-- Why a file is not expanded. -/
inductive ExpandError where
  | failure (failure : Failure)
  | unwritable (name : UnwritableName)
  deriving Repr, DecidableEq

/-- The tokens for a type within its file, with everything that is found reported to a sink. -/
def expandType {m : Type → Type} [Monad m] (sink : Sink m) (survey : Survey) (type : SurveyedType)
    (config : Configuration) : m (Except UnwritableName (List Token)) := do
  let situated := survey.situate type config
  match ← examine sink type.name situated config with
  | none => pure (.ok (notices situated.flaws))
  | some outcome => pure (render type.item situated.lowered outcome config)

/-- The code for several types, up to the first that cannot be written. -/
def expandTypes {m : Type → Type} [Monad m] (sink : Sink m) (survey : Survey)
    (config : Configuration) : List SurveyedType → m (Except UnwritableName (List TypeExpansion))
  | [] => pure (.ok [])
  | type :: rest => do
    match ← expandType sink survey type config with
    | .error name => pure (.error name)
    | .ok tokens =>
      let others ← expandTypes sink survey config rest
      pure (others.map (⟨type.name, tokens⟩ :: ·))

/-- The types of a file that are to be expanded. -/
def wantedTypes (survey : Survey) (wanted : Option String) : List SurveyedType :=
  survey.derived.filter fun type => wanted.all (· == type.name)

/-- The code for a file. It is an error if there is no type of the wanted name. -/
def expandFile {m : Type → Type} [Monad m] (sink : Sink m) (file : SourceFile)
    (wanted : Option String) (config : Configuration) :
    m (Except ExpandError (List TypeExpansion)) := do
  match wanted, ← expandTypes sink file.survey config (wantedTypes file.survey wanted) with
  | _, .error name => pure (.error (.unwritable name))
  | some name, .ok [] => pure (.error (.failure (.noSuchType name file.path)))
  | _, .ok expansions => pure (.ok expansions)

/-- The lines for an expansion. -/
def TypeExpansion.lines (expansion : TypeExpansion) : List String :=
  ["// ---- " ++ expansion.typeName ++ " ----", Token.textOfAll expansion.tokens, ""]

/-- Without a name all types that ask for generation are wanted. -/
@[simp] theorem wantedTypes_none (survey : Survey) : wantedTypes survey none = survey.derived := by
  simp [wantedTypes]

end RecordCoding.Commands
