import Outbox.Sync.Coordinator

/-!
# Attempts in the background

A scheduler starts attempts without waiting for them, one at a time: a trigger while an attempt is
running is only counted. Whoever waits takes the handle of the attempt that was started last.
Aborting takes the handle too and asks the attempt to stop, which it does at its next step.
-/

namespace Outbox

/-- How far an attempt in the background has come. -/
inductive Phase where
  /-- It has not begun. -/
  | ready
  /-- Its batch is on its way. -/
  | sending (attempt : Attempt)
  /-- It has ended, with a report unless it was stopped or broke down. -/
  | ended (report : Option SyncReport)
  deriving DecidableEq, Repr

/-- An attempt in the background. -/
structure Task where
  phase : Phase := .ready
  /-- It was asked to stop. -/
  cancelled : Bool := false
  deriving DecidableEq, Repr

/-- The attempt has not ended. -/
def Task.isAlive (t : Task) : Bool :=
  match t.phase with
  | .ended _ => false
  | _ => true

/-- The state of a scheduler. Its two counts have no bound, where counters of 64 bits begin anew at
`2 ^ 64`. -/
structure Scheduler where
  /-- All attempts that were ever started. -/
  tasks : List Task := []
  /-- An attempt is running. -/
  inFlight : Bool := false
  /-- The attempt whose handle nobody has taken. -/
  handle : Option Nat := none
  /-- How many triggers have started an attempt. -/
  scheduled : Nat := 0
  /-- How many triggers have come while an attempt was running. -/
  skipped : Nat := 0
  deriving DecidableEq, Repr, Inhabited

namespace Scheduler

/-- Starts an attempt unless one is running, and tells whether it did. -/
def trigger (s : Scheduler) : Bool × Scheduler :=
  if s.inFlight then (false, { s with skipped := s.skipped + 1 })
  else
    (true, { s with
      tasks := s.tasks ++ [{}]
      inFlight := true
      handle := some s.tasks.length
      scheduled := s.scheduled + 1 })

/-- The scheduler after a change of one task. -/
def modifyTask (s : Scheduler) (i : Nat) (f : Task → Task) : Scheduler :=
  { s with tasks := s.tasks.modify i f }

/-- Asks the attempt with the handle to stop. -/
def abort (s : Scheduler) : Scheduler :=
  match s.handle with
  | none => s
  | some i => { s.modifyTask i fun t => { t with cancelled := true } with handle := none }

/-- Takes the handle. -/
def takeHandle (s : Scheduler) : Option Nat × Scheduler := (s.handle, { s with handle := none })

/-- Ends a task. -/
def endTask (s : Scheduler) (i : Nat) (report : Option SyncReport) : Scheduler :=
  { s.modifyTask i fun t => { t with phase := .ended report } with inFlight := false }

/-- The report of a task that has ended with one. -/
def report? (s : Scheduler) (i : Nat) : Option SyncReport :=
  match s.tasks[i]? with
  | some ⟨.ended report, _⟩ => report
  | _ => none

/-- The task that is running. -/
def running? (s : Scheduler) : Option Nat := s.tasks.findIdx? Task.isAlive

end Scheduler

/-- A coordinator with its site and its scheduler. -/
structure Background (γ : Type) where
  coordinator : Coordinator
  site : Site γ
  scheduler : Scheduler := {}

namespace Background

variable {γ : Type} [CredentialGate γ]

/-- The end of a task with a report, which is counted. -/
def report (b : Background γ) (i : Nat) (r : SyncReport) : Background γ :=
  { b with
    site := { b.site with stats := b.site.stats.count r }
    scheduler := b.scheduler.endTask i (some r) }

/-- The end of a task without a report. -/
def drop (b : Background γ) (i : Nat) : Background γ :=
  { b with scheduler := b.scheduler.endTask i none }

/-- The first step of a task. -/
def begin (b : Background γ) (i : Nat) : Background γ :=
  match b.scheduler.tasks[i]? with
  | some ⟨.ready, true⟩ => b.drop i
  | some ⟨.ready, false⟩ =>
    match b.coordinator.begin b.site.gate b.site.store with
    | .error r => b.report i r
    | .ok attempt =>
      { b with scheduler := b.scheduler.modifyTask i fun t => { t with phase := .sending attempt } }
  | _ => b

/-- The second step of a task, with the outcome of its batch. -/
def finish (b : Background γ) (i : Nat) (outcome : Outcome) : Background γ :=
  match b.scheduler.tasks[i]? with
  | some ⟨.sending _, true⟩ => b.drop i
  | some ⟨.sending attempt, false⟩ =>
    let (r, gate, store) := attempt.finish outcome b.site.gate b.site.store
    { b with site := { b.site with gate, store } }.report i r
  | _ => b

/-- Lets a task run to its end. -/
def runTask {m : Type → Type} [Monad m] (send : Batch → Credential → m Outcome)
    (b : Background γ) (i : Nat) : m (Background γ) := do
  let b := b.begin i
  match b.scheduler.tasks[i]? with
  | some ⟨.sending attempt, _⟩ => return b.finish i (← send attempt.batch attempt.credential)
  | _ => return b

/-- A task breaks down while its batch is on its way. -/
def breakDown (b : Background γ) (i : Nat) : Background γ :=
  match b.scheduler.tasks[i]? with
  | some ⟨.sending _, _⟩ => b.drop i
  | _ => b

end Background

end Outbox
