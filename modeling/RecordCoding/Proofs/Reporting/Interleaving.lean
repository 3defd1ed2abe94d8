import Mathlib.Algebra.Ring.Nat
import Mathlib.Data.List.DropRight
import RecordCoding.Proofs.Generation.Result
import RecordCoding.Reporting.Sharing

/-!
# Clients that take turns at a collector

In whatever order clients take turns at a shared collector, no report is lost and none is there
twice: what was drained, followed by what is still buffered, is every report in the order in which
they took effect. The reports of one client stand in the order of its calls, those of a generation
run in the order of its outcome, whatever comes between them. What holds after one turn is shown
first, and then what holds after any number of them. Every turn of a client that is not through
brings it one turn closer to that, so one that gets enough of them has made all its reports.
-/

namespace RecordCoding

namespace Interruptible

variable {α β : Type}

@[simp] theorem reports_pure (a : α) : (pure a : Interruptible α).reports = [] := rfl

@[simp] theorem result_pure (a : α) : (pure a : Interruptible α).result = a := rfl

@[simp] theorem reports_bind (p : Interruptible α) (next : α → Interruptible β) :
    (p >>= next).reports = p.reports ++ (next p.result).reports := by
  induction p with
  | done result => rfl
  | report entry onward ih => exact congrArg (entry :: ·) ih

@[simp] theorem result_bind (p : Interruptible α) (next : α → Interruptible β) :
    (p >>= next).result = (next p.result).result := by
  induction p with
  | done result => rfl
  | report entry onward ih => exact ih

instance : LawfulMonad Interruptible := by
  refine .mk' _ (fun p => ?_) (fun _ _ => rfl) (fun p next after => ?_)
  · induction p with
    | done result => rfl
    | report entry onward ih => exact congrArg (report entry) ih
  · induction p with
    | done result => rfl
    | report entry onward ih => exact congrArg (report entry) ih

/-- Diagnostics that are handed to the sink are reported in their order. -/
theorem reports_forM (typeName : String) (found : List Diagnostic) :
    (found.forM (sink typeName)).reports = found.map (typeName, ·) := by
  induction found with
  | nil => rfl
  | cons d rest ih =>
    have once : ((d :: rest).forM (sink typeName)).reports =
        (typeName, d) :: (rest.forM (sink typeName)).reports := rfl
    rw [once, ih, List.map_cons]

/-- A run makes the reports of its outcome, in their order. -/
theorem reports_generateWith (decl : Declaration) (config : Configuration) :
    (generateWith sink decl config).reports =
      (generate decl config).diagnostics.map (decl.name, ·) := by
  rw [generateWith_eq, reports_bind, reports_forM, reports_pure, List.append_nil]

/-- Giving way does not change the outcome of a run. -/
theorem result_generateWith (decl : Declaration) (config : Configuration) :
    (generateWith sink decl config).result = generate decl config := by
  rw [generateWith_eq, result_bind, result_pure]

end Interruptible

/-! ## What clients ask for -/

/-- The reports that a call comes to; those of a run are the diagnostics of its outcome. -/
def Call.reports : Call → List Report
  | report entry => [entry]
  | drain => []
  | generate decl config => (RecordCoding.generate decl config).diagnostics.map (decl.name, ·)

/-- The outcome of a call, if it is a run. -/
def Call.outcome? : Call → Option Outcome
  | report _ | drain => none
  | generate decl config => some (RecordCoding.generate decl config)

/-- The turns that a call takes; a run has one for its start and one for its end. -/
def Call.turns : Call → Nat
  | report _ | drain => 1
  | generate decl config => (RecordCoding.generate decl config).diagnostics.length + 2

namespace Client

/-- The reports that a client has still to make. -/
def reports (client : Client) : List Report :=
  client.running.elim [] Interruptible.reports ++ client.calls.flatMap Call.reports

/-- The outcomes of a client, with those of the runs that are not over yet. -/
def allOutcomes (client : Client) : List Outcome :=
  client.outcomes ++ (client.running.map Interruptible.result).toList ++
    client.calls.filterMap Call.outcome?

/-- The turns that a client needs until it is through. -/
def turnsLeft (client : Client) : Nat :=
  client.running.elim 0 (fun run => run.reports.length + 1) + (client.calls.map Call.turns).sum

/-- A client that needs no more turns has made all its reports and has all its outcomes. -/
theorem finished_of_turnsLeft {client : Client} (finished : client.turnsLeft = 0) :
    client.reports = [] ∧ client.allOutcomes = client.outcomes := by
  obtain ⟨running, calls, outcomes⟩ := client
  match running, calls with
  | none, [] => exact ⟨rfl, by simp [allOutcomes]⟩
  | none, call :: rest =>
    have takes : 0 < call.turns := by cases call <;> simp [Call.turns]
    simp only [turnsLeft, Option.elim_none, List.map_cons, List.sum_cons] at finished
    omega
  | some run, calls =>
    simp only [turnsLeft, Option.elim_some] at finished
    omega

end Client

/-! ## One turn -/

/-- What the turn of a client does, with nothing lost on the way. -/
structure Turn.Follows (turn : Turn) (client : Client) (collector : Collector) : Prop where
  /-- A report that was made is the next one that the client had to make. -/
  reports : (turn.access.bind Access.report?).toList ++ turn.client.reports = client.reports
  outcomes : turn.client.allOutcomes = client.allOutcomes
  idle : turn.access = none → turn.collector = collector
  reported : ∀ entry, turn.access = some (.reported entry) →
    turn.collector = collector.report entry
  /-- A drain hands out everything and leaves nothing. -/
  drained : ∀ batch, turn.access = some (.drained batch) →
    batch = collector.entries ∧ turn.collector = .empty

/-- Every turn does that, whatever the client is at. -/
theorem Client.follows_turn (client : Client) (collector : Collector) :
    (client.turn collector).Follows client collector := by
  obtain ⟨running, calls, outcomes⟩ := client
  match running, calls with
  | some (.report entry onward), _ =>
    exact ⟨rfl, rfl, nofun, by rintro _ ⟨⟩; rfl, nofun⟩
  | some (.done outcome), _ =>
    exact ⟨rfl, by simp [turn, allOutcomes, Interruptible.result], fun _ => rfl, nofun, nofun⟩
  | none, .report entry :: rest =>
    exact ⟨rfl, rfl, nofun, by rintro _ ⟨⟩; rfl, nofun⟩
  | none, .drain :: rest =>
    exact ⟨rfl, rfl, nofun, nofun, by rintro _ ⟨⟩; exact ⟨rfl, rfl⟩⟩
  | none, .generate decl config :: rest =>
    refine ⟨?_, ?_, fun _ => rfl, nofun, nofun⟩
    · simp [turn, reports, Call.reports, Interruptible.reports_generateWith]
    · simp [turn, allOutcomes, Call.outcome?, Interruptible.result_generateWith]
  | none, [] => exact ⟨rfl, rfl, fun _ => rfl, nofun, nofun⟩

/-- Every turn of a client is one that it does not need any more. -/
theorem Client.turnsLeft_turn (client : Client) (collector : Collector) :
    (client.turn collector).client.turnsLeft = client.turnsLeft - 1 := by
  obtain ⟨running, calls, outcomes⟩ := client
  match running, calls with
  | some (.report entry onward), _ =>
    simp only [turn, turnsLeft, Option.elim_some, Interruptible.reports, List.length_cons]
    omega
  | some (.done outcome), _ =>
    simp only [turn, turnsLeft, Option.elim_some, Option.elim_none, Interruptible.reports,
      List.length_nil]
    omega
  | none, .report entry :: rest | none, .drain :: rest =>
    simp only [turn, turnsLeft, Option.elim_none, List.map_cons, List.sum_cons, Call.turns]
    omega
  | none, .generate decl config :: rest =>
    simp only [turn, turnsLeft, Option.elim_some, Option.elim_none, List.map_cons, List.sum_cons,
      Call.turns, Interruptible.reports_generateWith, List.length_map]
    omega
  | none, [] => rfl

/-! ## Histories -/

section History

variable {ι : Type}

/-- All reports, in the order in which they took effect. -/
def reportsIn (history : List (ι × Access)) : List Report :=
  history.filterMap fun entry => entry.2.report?

/-- What was handed out, in the order of the drains. -/
def batchesIn (history : List (ι × Access)) : List (List Report) :=
  history.filterMap fun entry => entry.2.batch?

/-- The reports since the last drain. -/
def reportsSinceDrain (history : List (ι × Access)) : List Report :=
  reportsIn (history.rtakeWhile fun entry => entry.2.batch?.isNone)

variable (history : List (ι × Access)) (i : ι)

@[simp] theorem reportsIn_append (later : List (ι × Access)) :
    reportsIn (history ++ later) = reportsIn history ++ reportsIn later :=
  List.filterMap_append

@[simp] theorem batchesIn_append (later : List (ι × Access)) :
    batchesIn (history ++ later) = batchesIn history ++ batchesIn later :=
  List.filterMap_append

theorem reportsSinceDrain_reported (entry : Report) :
    reportsSinceDrain (history ++ [(i, .reported entry)]) =
      reportsSinceDrain history ++ [entry] := by
  rw [reportsSinceDrain, List.rtakeWhile_concat_pos _ _ _ rfl, reportsIn_append]
  rfl

theorem reportsSinceDrain_drained (batch : List Report) :
    reportsSinceDrain (history ++ [(i, .drained batch)]) = [] := by
  rw [reportsSinceDrain, List.rtakeWhile_concat_neg _ _ _ (by simp [Access.batch?])]
  rfl

end History

/-! ## Any number of turns -/

namespace Sharing

variable {ι : Type} [DecidableEq ι] {calls : ι → List Call} {sharing : Sharing ι}

/-- Nothing that clients report is lost, repeated or out of order. -/
structure Accounts (calls : ι → List Call) (sharing : Sharing ι) : Prop where
  /-- What was drained, followed by what is still buffered, is every report, in the order in which
  they took effect. -/
  complete : (batchesIn sharing.history).flatten ++ sharing.collector.entries =
    reportsIn sharing.history
  /-- The reports of a client, followed by those it has still to make, are those of its calls. -/
  ordered : ∀ i, reportsIn (sharing.history.filter (·.1 = i)) ++ (sharing.clients i).reports =
    (calls i).flatMap Call.reports
  outcomes : ∀ i, (sharing.clients i).allOutcomes = (calls i).filterMap Call.outcome?
  /-- What is buffered are the reports since the last drain. -/
  buffered : sharing.collector.entries = reportsSinceDrain sharing.history

/-- So it is before the first turn. -/
theorem accounts_ofCalls (calls : ι → List Call) : Accounts calls (ofCalls calls) :=
  ⟨rfl, fun _ => rfl, fun _ => rfl, rfl⟩

/-- The reports of a client after one turn, its own or that of another one. -/
theorem ordered_turn (accounts : Accounts calls sharing) (i j : ι) :
    reportsIn ((sharing.turn i).history.filter (·.1 = j)) ++ ((sharing.turn i).clients j).reports =
      (calls j).flatMap Call.reports := by
  have follows := (sharing.clients i).follows_turn sharing.collector
  have before := accounts.ordered j
  rw [turn]
  dsimp only
  rw [List.filter_append, reportsIn_append, List.append_assoc]
  by_cases own : j = i
  · subst own
    rw [if_pos rfl, ← before, ← follows.reports]
    cases ((sharing.clients j).turn sharing.collector).access with
    | none => rfl
    | some access => cases access <;> simp [reportsIn, Access.report?]
  · have none : (((sharing.clients i).turn sharing.collector).access.toList.map (i, ·)).filter
        (fun entry => decide (entry.1 = j)) = [] := by
      simp [Ne.symm own]
    rw [if_neg own, none]
    exact before

/-- One turn of one of the clients keeps the account. -/
theorem Accounts.turn (accounts : Accounts calls sharing) (i : ι) :
    Accounts calls (sharing.turn i) := by
  have follows := (sharing.clients i).follows_turn sharing.collector
  refine ⟨?complete, ordered_turn accounts i, fun j => ?outcomes, ?buffered⟩
  case outcomes =>
    rw [Sharing.turn]
    dsimp only
    split
    · rename_i own
      subst own
      rw [follows.outcomes, accounts.outcomes]
    · exact accounts.outcomes j
  -- The collector changes with what the client did to it, so the cases are those of the access.
  case complete =>
    have before := accounts.complete
    rw [Sharing.turn]
    dsimp only
    cases access : ((sharing.clients i).turn sharing.collector).access with
    | none => simpa [follows.idle access] using before
    | some done =>
      cases done with
      | reported entry =>
        rw [follows.reported entry access, batchesIn_append, reportsIn_append, ← before]
        simp [Collector.report, batchesIn, reportsIn, Access.batch?, Access.report?]
      | drained batch =>
        obtain ⟨rfl, left⟩ := follows.drained batch access
        rw [left, batchesIn_append, reportsIn_append, ← before]
        simp [Collector.empty, batchesIn, reportsIn, Access.batch?, Access.report?]
  case buffered =>
    have before := accounts.buffered
    rw [Sharing.turn]
    dsimp only
    cases access : ((sharing.clients i).turn sharing.collector).access with
    | none => simpa [follows.idle access] using before
    | some done =>
      cases done with
      | reported entry =>
        rw [follows.reported entry access, Collector.report, before]
        exact (reportsSinceDrain_reported _ i entry).symm
      | drained batch =>
        rw [(follows.drained batch access).2]
        exact (reportsSinceDrain_drained _ i batch).symm

/-- Any number of turns in any order keep the account. -/
theorem Accounts.run (accounts : Accounts calls sharing) (order : List ι) :
    Accounts calls (sharing.run order) := by
  induction order generalizing sharing with
  | nil => exact accounts
  | cons i rest ih => exact ih (accounts.turn i)

/-- Turns in any order bring every client closer to its end, by one for each that is its own. -/
theorem turnsLeft_run (sharing : Sharing ι) (order : List ι) (i : ι) :
    ((sharing.run order).clients i).turnsLeft = (sharing.clients i).turnsLeft - order.count i := by
  induction order generalizing sharing with
  | nil => rfl
  | cons j rest ih =>
    have step : ((sharing.turn j).clients i).turnsLeft =
        (sharing.clients i).turnsLeft - if j = i then 1 else 0 := by
      rw [turn]
      dsimp only
      split
      · rename_i own
        subst own
        rw [if_pos rfl, Client.turnsLeft_turn]
      · rename_i other
        rw [if_neg (Ne.symm other), Nat.sub_zero]
    have later : (sharing.run (j :: rest)) = (sharing.turn j).run rest := rfl
    rw [later, ih, step, List.count_cons, Nat.sub_sub, Nat.add_comm]
    simp only [beq_iff_eq]

/-- A client that got as many turns as its calls take has made their reports, in order, and has
their outcomes. -/
theorem finished_run (calls : ι → List Call) (order : List ι) (i : ι)
    (enough : ((calls i).map Call.turns).sum ≤ order.count i) :
    reportsIn (((ofCalls calls).run order).history.filter (·.1 = i)) =
        (calls i).flatMap Call.reports ∧
      (((ofCalls calls).run order).clients i).outcomes = (calls i).filterMap Call.outcome? := by
  have accounts := (accounts_ofCalls calls).run order
  have left : (((ofCalls calls).run order).clients i).turnsLeft = 0 := by
    rw [turnsLeft_run]
    simp only [ofCalls, Client.turnsLeft, Option.elim_none]
    omega
  obtain ⟨made, ended⟩ := Client.finished_of_turnsLeft left
  have ordered := accounts.ordered i
  rw [made, List.append_nil] at ordered
  exact ⟨ordered, ended ▸ accounts.outcomes i⟩

/-- In every interleaving of reports, drains and runs, from any number of clients, what was drained
and what is still buffered is exactly what was reported, with the reports of each client in the
order of its calls and those of its runs in the order of their outcomes. A client that gets as many
turns as its calls take makes all their reports. What the collector says about itself is said of the
reports since the last drain. -/
theorem nothing_lost_in_turns (calls : ι → List Call) (order : List ι) :
    let after := (ofCalls calls).run order
    Accounts calls after ∧
      (∀ i, ((calls i).map Call.turns).sum ≤ order.count i →
        reportsIn (after.history.filter (·.1 = i)) = (calls i).flatMap Call.reports ∧
          (after.clients i).outcomes = (calls i).filterMap Call.outcome?) ∧
      after.collector.size = (reportsSinceDrain after.history).length ∧
      (after.collector.isEmpty = true ↔ reportsSinceDrain after.history = []) ∧
      (after.collector.hasErrors = true ↔
        ∃ report ∈ reportsSinceDrain after.history, report.2.severity = .error) := by
  intro after
  have accounts : Accounts calls after := (accounts_ofCalls calls).run order
  have buffered := accounts.buffered
  refine ⟨accounts, finished_run calls order, ?size, ?isEmpty, ?hasErrors⟩
  case size => rw [Collector.size, buffered]
  case isEmpty => rw [Collector.isEmpty, buffered, List.isEmpty_iff]
  case hasErrors =>
    rw [Collector.hasErrors, buffered, List.any_eq_true]
    simp only [Diagnostic.isError, beq_iff_eq]

example (a b c : Report) :
    ((ofCalls fun first => if first then [.report a, .report c] else [.report b, .drain]).run
      [true, false, false, true]).history =
      [(true, .reported a), (false, .reported b), (false, .drained [a, b]),
        (true, .reported c)] := rfl

end Sharing

end RecordCoding
