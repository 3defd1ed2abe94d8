/-!
# Generation states

A generation run goes from `start` through three intermediate states to `done`; from every state
but the two terminal ones it may go to `failed`.
-/

namespace RecordCoding

/-- How far a generation run has come. -/
inductive GenerationState where
  | start
  /-- The declaration is a struct that may be generated for. -/
  | validatedTarget
  /-- A key table was generated, or the declared one was adopted. -/
  | keyTableBuilt
  | plansAssembled
  | done
  | failed
  deriving Repr, DecidableEq

namespace GenerationState

/-- The states in the order of a run. -/
def all : List GenerationState :=
  [start, validatedTarget, keyTableBuilt, plansAssembled, done, failed]

/-- The name shown to readers. -/
def text : GenerationState → String
  | start => "Start"
  | validatedTarget => "ValidatedTarget"
  | keyTableBuilt => "KeyTableBuilt"
  | plansAssembled => "PlansAssembled"
  | done => "Done"
  | failed => "Failed"

/-- The name used in data. -/
def tag : GenerationState → String
  | start => "start"
  | validatedTarget => "validated_target"
  | keyTableBuilt => "key_table_built"
  | plansAssembled => "plans_assembled"
  | done => "done"
  | failed => "failed"

/-- The state a tag names. -/
def ofTag? (text : String) : Option GenerationState := all.find? (·.tag == text)

/-- Whether a run ends in a state. -/
def isTerminal : GenerationState → Bool
  | done | failed => true
  | _ => false

/-- Whether a run may go from one state to another. -/
def canGoTo : GenerationState → GenerationState → Bool
  | start, validatedTarget | validatedTarget, keyTableBuilt | keyTableBuilt, plansAssembled
  | plansAssembled, done => true
  | source, failed => !source.isTerminal
  | _, _ => false

end GenerationState

end RecordCoding
