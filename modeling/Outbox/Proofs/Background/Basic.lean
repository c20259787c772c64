import Outbox.Sync.Scheduler

/-!
# Services

A scheduler and all that use it: those who trigger attempts, abort them and wait for them, and the
attempts themselves, which take their steps one by one. Moves come in any order. An attempt that was
asked to stop is dropped at its next step; in between the gate and the store may change.
-/

namespace Outbox

namespace Scheduler

/-- How many attempts have not ended. -/
def running (s : Scheduler) : Nat := s.tasks.countP Task.isAlive

/-- Whether the attempt with this number has not ended. -/
def isRunning (s : Scheduler) (i : Nat) : Bool := s.tasks[i]?.any Task.isAlive

end Scheduler

namespace Service

/-- What can happen next. -/
inductive Move (γ : Type) where
  | trigger
  | abort
  /-- Somebody asks for the last attempt, and waits for it if its handle is still there. -/
  | wait
  /-- Somebody who waits is told, if the attempt has ended. -/
  | wake (k : Nat)
  /-- Somebody gives up waiting. -/
  | leave (k : Nat)
  /-- An attempt takes its first step. -/
  | begin (i : Nat)
  /-- An attempt takes its second step, with the outcome of its batch. -/
  | finish (i : Nat) (outcome : Outcome)
  /-- The transport breaks down under an attempt. -/
  | breakDown (i : Nat)
  /-- Others change the gate, the store or the counts of attempts. -/
  | work (site : Site γ)

/-- The move is a trigger. -/
def Move.isTrigger {γ : Type} : Move γ → Bool
  | .trigger => true
  | _ => false

end Service

/-- Attempts in the background, and those who wait for them. -/
structure Service (γ : Type) where
  background : Background γ
  /-- The attempts that are waited for. -/
  waits : List Nat := []

namespace Service

variable {γ : Type} [CredentialGate γ]

/-- A service before its first attempt. -/
def start (coordinator : Coordinator) (site : Site γ) : Service γ where
  background := { coordinator, site }

/-- The scheduler. -/
def scheduler (s : Service γ) : Scheduler := s.background.scheduler

/-- The service with another scheduler. -/
def withScheduler (s : Service γ) (scheduler : Scheduler) : Service γ :=
  { s with background := { s.background with scheduler } }

/-- One move. -/
def step (s : Service γ) : Move γ → Service γ
  | .trigger => s.withScheduler s.scheduler.trigger.2
  | .abort => s.withScheduler s.scheduler.abort
  | .wait =>
    let (handle, scheduler) := s.scheduler.takeHandle
    { s.withScheduler scheduler with waits := s.waits ++ handle.toList }
  | .wake k =>
    match s.waits[k]? with
    | none => s
    | some i => if s.scheduler.isRunning i then s else { s with waits := s.waits.eraseIdx k }
  | .leave k => { s with waits := s.waits.eraseIdx k }
  | .begin i => { s with background := s.background.begin i }
  | .finish i outcome => { s with background := s.background.finish i outcome }
  | .breakDown i => { s with background := s.background.breakDown i }
  | .work site => { s with background := { s.background with site } }

/-- A run of moves. -/
def run (s : Service γ) (moves : List (Move γ)) : Service γ := moves.foldl step s

/-- What a trigger is told. -/
def answer? (s : Service γ) : Move γ → Option Bool
  | .trigger => some s.scheduler.trigger.1
  | _ => none

/-- What the triggers of a run are told. -/
def answers (s : Service γ) : List (Move γ) → List Bool
  | [] => []
  | move :: moves => (s.answer? move).toList ++ (s.step move).answers moves

end Service

/-! ### What a move can do -/

/-- All that a move can do to a scheduler: what a trigger is told, and the scheduler after it. -/
inductive Scheduler.Effect (s : Scheduler) : Option Bool → Scheduler → Prop
  | skipped (h : s.inFlight = true) :
      Effect s (some false) { s with skipped := s.skipped + 1 }
  | started (h : s.inFlight = false) :
      Effect s (some true)
        { s with
          tasks := s.tasks ++ [{}]
          inFlight := true
          handle := some s.tasks.length
          scheduled := s.scheduled + 1 }
  | handed (handle : Option Nat) : Effect s none { s with handle }
  | changed {i : Nat} {t : Task} (hi : s.tasks[i]? = some t) {f : Task → Task}
      (hf : (f t).isAlive = t.isAlive) (handle : Option Nat) :
      Effect s none { s.modifyTask i f with handle }
  | ended {i : Nat} {t : Task} (hi : s.tasks[i]? = some t) (ht : t.isAlive = true)
      (report : Option SyncReport) : Effect s none (s.endTask i report)

namespace Scheduler

variable {s : Scheduler}

theorem Effect.idle (s : Scheduler) : Effect s none s := .handed s.handle

theorem trigger_effect (s : Scheduler) : Effect s (some s.trigger.1) s.trigger.2 := by
  unfold trigger
  split
  · next h => exact .skipped h
  · next h => exact .started (Bool.eq_false_iff.mpr h)

/-- The request to stop does not end an attempt. -/
theorem abort_effect (s : Scheduler) : Effect s none s.abort := by
  unfold abort
  cases hh : s.handle with
  | none => exact .idle s
  | some i =>
    cases hi : s.tasks[i]? with
    | none =>
      simp only [modifyTask, List.modify_eq_self (List.getElem?_eq_none_iff.mp hi)]
      exact .handed none
    | some t => exact .changed hi rfl none

end Scheduler

namespace Background

variable {γ : Type} [CredentialGate γ] (b : Background γ) (i : Nat)

theorem begin_effect : b.scheduler.Effect none (b.begin i).scheduler := by
  unfold Background.begin
  cases hi : b.scheduler.tasks[i]? with
  | none => exact .idle _
  | some t =>
    obtain ⟨phase, cancelled⟩ := t
    cases phase with
    | ready =>
      cases cancelled with
      | true => exact .ended hi rfl none
      | false =>
        simp only
        cases b.coordinator.begin b.site.gate b.site.store with
        | error r => exact .ended hi rfl (some r)
        | ok attempt => exact .changed hi rfl _
    | _ => exact .idle _

theorem finish_effect (outcome : Outcome) :
    b.scheduler.Effect none (b.finish i outcome).scheduler := by
  unfold Background.finish
  cases hi : b.scheduler.tasks[i]? with
  | none => exact .idle _
  | some t =>
    obtain ⟨phase, cancelled⟩ := t
    cases phase with
    | sending attempt =>
      cases cancelled with
      | true => exact .ended hi rfl none
      | false => exact .ended hi rfl (some _)
    | _ => exact .idle _

omit [CredentialGate γ] in
theorem breakDown_effect : b.scheduler.Effect none (b.breakDown i).scheduler := by
  unfold breakDown
  cases hi : b.scheduler.tasks[i]? with
  | none => exact .idle _
  | some t =>
    obtain ⟨phase, cancelled⟩ := t
    cases phase with
    | sending attempt => exact .ended hi rfl none
    | _ => exact .idle _

end Background

namespace Service

variable {γ : Type} [CredentialGate γ]

/-- Every move has one of the effects. -/
theorem step_effect (s : Service γ) (move : Move γ) :
    s.scheduler.Effect (s.answer? move) (s.step move).scheduler := by
  cases move with
  | trigger => exact s.scheduler.trigger_effect
  | abort => exact s.scheduler.abort_effect
  | wait => exact .handed none
  | wake k =>
    simp only [step, answer?]
    split
    · exact .idle _
    · split <;> exact .idle _
  | leave k => exact .idle _
  | begin i => exact s.background.begin_effect i
  | finish i outcome => exact s.background.finish_effect i outcome
  | breakDown i => exact s.background.breakDown_effect i
  | work site => exact .idle _

end Service

end Outbox
