import RecordCoding.Reporting.Collector

/-!
# A collector with several clients

Clients that share a collector take turns. A report and a drain take effect in one turn each, and a
generation run gives way to the other clients before every one of its reports. Whose turn it is is
decided from outside, so that every interleaving is some order of turns. What was done to the
collector is recorded in the order in which it took effect.
-/

namespace RecordCoding

/-- A computation that gives way before each of its reports. -/
inductive Interruptible (α : Type) where
  | done (result : α)
  | report (entry : Report) (onward : Interruptible α)

namespace Interruptible

/-- Goes on with the result of a computation. -/
def andThen {α β : Type} : Interruptible α → (α → Interruptible β) → Interruptible β
  | done result, next => next result
  | report entry onward, next => report entry (onward.andThen next)

instance : Monad Interruptible where
  pure := done
  bind := andThen

/-- The sink that gives way before it takes a diagnostic. -/
def sink : Sink Interruptible := fun typeName d => report (typeName, d) (done ())

/-- The reports that are still to be made. -/
def reports {α : Type} : Interruptible α → List Report
  | done _ => []
  | report entry onward => entry :: onward.reports

/-- What there is when all reports have been made. -/
def result {α : Type} : Interruptible α → α
  | done result => result
  | report _ onward => onward.result

end Interruptible

/-- What a client asks for. -/
inductive Call where
  | report (entry : Report)
  | drain
  /-- A generation run that reports to the collector. -/
  | generate (decl : Declaration) (config : Configuration)

/-- A client of a shared collector. -/
structure Client where
  /-- The run it is in the middle of. -/
  running : Option (Interruptible Outcome)
  /-- What it will ask for after that. -/
  calls : List Call
  /-- The outcomes of its runs so far. -/
  outcomes : List Outcome

/-- Something that was done to a collector. -/
inductive Access where
  | reported (entry : Report)
  | drained (batch : List Report)
  deriving Repr, DecidableEq

namespace Access

/-- The report, if this is one. -/
def report? : Access → Option Report
  | reported entry => some entry
  | drained _ => none

/-- What was handed out, if this is a drain. -/
def batch? : Access → Option (List Report)
  | reported _ => none
  | drained batch => some batch

end Access

/-- What is left after the turn of a client. -/
structure Turn where
  client : Client
  collector : Collector
  /-- What the client did to the collector. -/
  access : Option Access

/-- One turn of a client. -/
def Client.turn (client : Client) (collector : Collector) : Turn :=
  match client.running, client.calls with
  | some (.report entry onward), _ =>
    ⟨{ client with running := some onward }, collector.report entry, some (.reported entry)⟩
  | some (.done outcome), _ =>
    ⟨{ client with running := none, outcomes := client.outcomes ++ [outcome] }, collector, none⟩
  | none, .report entry :: rest =>
    ⟨{ client with calls := rest }, collector.report entry, some (.reported entry)⟩
  | none, .drain :: rest =>
    ⟨{ client with calls := rest }, collector.drain.2, some (.drained collector.drain.1)⟩
  | none, .generate decl config :: rest =>
    ⟨{ client with running := some (generateWith Interruptible.sink decl config), calls := rest },
      collector, none⟩
  | none, [] => ⟨client, collector, none⟩

/-- Clients with the collector they share, and what they did to it. -/
structure Sharing (ι : Type) where
  collector : Collector
  clients : ι → Client
  history : List (ι × Access)

namespace Sharing

variable {ι : Type}

/-- Nothing has been asked for yet. -/
def ofCalls (calls : ι → List Call) : Sharing ι := ⟨.empty, fun i => ⟨none, calls i, []⟩, []⟩

variable [DecidableEq ι]

/-- One turn of one of the clients. -/
def turn (sharing : Sharing ι) (i : ι) : Sharing ι :=
  let taken := (sharing.clients i).turn sharing.collector
  { collector := taken.collector
    clients := fun j => if j = i then taken.client else sharing.clients j
    history := sharing.history ++ taken.access.toList.map (i, ·) }

/-- Turns in an order. -/
def run (sharing : Sharing ι) (order : List ι) : Sharing ι := order.foldl turn sharing

end Sharing

end RecordCoding
