import RecordCoding.Expansion.Bridge
import RecordCoding.Expansion.DecodeCode
import RecordCoding.Expansion.EncodeCode
import RecordCoding.Expansion.Notice
import RecordCoding.Expansion.TableCode
import RecordCoding.Generation
import RecordCoding.Source.Lowering

/-!
# Expansion

The whole code that is generated for a type: the notices of everything that was found, and behind
them the code of every artifact of the run. A text that cannot go into the code leaves one notice
in place of all artifacts.
-/

namespace RecordCoding.Expansion

open Source

/-- The code of the artifacts of a run. -/
structure Code where
  table : Option TableCode
  decode : Option DecodeCode
  encode : Option EncodeCode
  hasBridge : Bool
  deriving Repr, BEq

namespace Code

/-- The code for what a run produced. -/
def ofOutcome (decl : Declaration) (outcome : Outcome) (hasBridge : Bool) :
    Except Obstacle Code := do
  let identifier ← tableIdentifier outcome.keyTableName
  let table ← outcome.artifacts.keyTable.mapM (TableCode.ofTable identifier)
  let decode ← outcome.artifacts.decode.mapM (DecodeCode.ofRoutine identifier decl)
  let encode ← outcome.artifacts.encode.mapM (EncodeCode.ofRoutine identifier)
  .ok ⟨table, decode, encode, hasBridge⟩

/-- The tokens of the code for a type. -/
def tokens (item : TypeItem) (code : Code) : List Token :=
  code.table.toList.flatMap (TableCode.tokens item) ++
    code.decode.toList.flatMap (DecodeCode.tokens item) ++
    code.encode.toList.flatMap (EncodeCode.tokens item) ++
    if code.hasBridge then bridge item else []

end Code

/-- The tokens for what a run produced, or the notice of what is wrong with them. -/
def artifactTokens (item : TypeItem) (lowered : Lowered) (outcome : Outcome)
    (config : Configuration) : Except UnwritableName (List Token) :=
  match Code.ofOutcome lowered.decl outcome (config.serdeBridge && !lowered.skipsBridge) with
  | .ok code => .ok (code.tokens item)
  | .error (.defect defect) => .ok (notice defect.diagnostic)
  | .error (.unwritable name) => .error name

/-- The tokens for the outcome of a run, behind the notices of all that was found. -/
def render (item : TypeItem) (lowered : Lowered) (outcome : Outcome) (config : Configuration) :
    Except UnwritableName (List Token) :=
  let found := notices (lowered.flaws ++ outcome.diagnostics)
  if outcome.isFailed then .ok found
  else (artifactTokens item lowered outcome config).map (found ++ ·)

/-- The tokens for a type, with everything that is found reported to a sink. Generation does not
start if the attributes of the type cannot be made sense of. -/
def expandWith {m : Type → Type} [Monad m] (sink : Sink m) (item : TypeItem)
    (config : Configuration) : m (Except UnwritableName (List Token)) := do
  let lowered := item.lower
  lowered.flaws.forM (sink lowered.decl.name)
  if lowered.isFatal then pure (.ok (notices lowered.flaws))
  else
    let outcome ← generateWith sink lowered.decl config
    pure (render item lowered outcome config)

/-- The tokens for a type. -/
def expand (item : TypeItem) (config : Configuration) : Except UnwritableName (List Token) :=
  Id.run (expandWith Sink.silent item config)

/-- A run that failed leaves nothing but notices. -/
theorem render_of_isFailed (item : TypeItem) (lowered : Lowered) {outcome : Outcome}
    (config : Configuration) (h : outcome.isFailed = true) :
    render item lowered outcome config = .ok (notices (lowered.flaws ++ outcome.diagnostics)) := by
  simp [render, h]

end RecordCoding.Expansion
