import Outbox.Proofs.Background.Idleness

/-!
# What a request to stop prevents

An attempt that was asked to stop does nothing any more: it delivers no record, lets go of no
credential and is not counted. But the request reaches the attempt only through its handle, and a
handle that somebody waits with cannot be found. So an attempt in flight goes on in spite of the
request exactly if somebody had come to wait for it first (`stopped_exact`).
-/

namespace Outbox

/-- An attempt that was asked to stop. -/
def Scheduler.Asked (s : Scheduler) (i : Nat) : Prop :=
  s.tasks[i]?.map Task.cancelled = some true

namespace Background

variable {γ : Type} [CredentialGate γ] {b : Background γ} {i : Nat}

/-- An attempt that was asked to stop begins nothing. -/
theorem begin_site (h : b.scheduler.Asked i) : (b.begin i).site = b.site := by
  unfold Background.begin
  split
  · rfl
  · next ht =>
    rw [Scheduler.Asked, ht] at h
    cases h
  · rfl

/-- An attempt that was asked to stop does not look at the outcome of its batch. -/
theorem finish_site (h : b.scheduler.Asked i) (outcome : Outcome) :
    (b.finish i outcome).site = b.site := by
  unfold Background.finish
  split
  · rfl
  · next ht =>
    rw [Scheduler.Asked, ht] at h
    cases h
  · rfl

omit [CredentialGate γ] in
theorem breakDown_site (b : Background γ) (i : Nat) : (b.breakDown i).site = b.site := by
  unfold breakDown
  split <;> rfl

/-- An attempt that nobody has asked to stop counts when it has ended. -/
theorem begin_counts (h : b.scheduler.tasks[i]? = some ⟨.ready, false⟩) :
    (b.begin i).site.stats.attempts = b.site.stats.attempts + 1 ∨
      ∃ attempt, (b.begin i).scheduler.tasks[i]? = some ⟨.sending attempt, false⟩ := by
  unfold Background.begin
  rw [h]
  simp only
  cases b.coordinator.begin b.site.gate b.site.store with
  | error r => exact .inl (SyncStats.attempts_count _ _)
  | ok attempt => exact .inr ⟨attempt, by simp [Scheduler.modifyTask, h]⟩

theorem finish_counts {attempt : Attempt}
    (h : b.scheduler.tasks[i]? = some ⟨.sending attempt, false⟩) (outcome : Outcome) :
    (b.finish i outcome).site.stats.attempts = b.site.stats.attempts + 1 := by
  unfold Background.finish
  rw [h]
  exact SyncStats.attempts_count _ _

end Background

namespace Service

variable {γ : Type} [CredentialGate γ] {s : Service γ} {i : Nat}

/-- The move is a step of this attempt. -/
def Move.IsStepOf {γ : Type} (i : Nat) : Move γ → Prop
  | .begin j => j = i
  | .finish j _ => j = i
  | .breakDown j => j = i
  | _ => False

/-- Whatever happens from now on, the attempt leaves the gate, the store and the counts of attempts
as they are. -/
def Stopped (s : Service γ) (i : Nat) : Prop :=
  ∀ (moves : List (Move γ)) (move : Move γ), move.IsStepOf i →
    ((s.run moves).step move).background.site = (s.run moves).background.site

/-- What was asked to stop stays so. -/
theorem asked_step (h : s.scheduler.Asked i) (move : Move γ) : (s.step move).scheduler.Asked i := by
  have advance (ht : move.isTrigger = false) (hn : move.taker? = none) :
      (s.step move).scheduler.Asked i := by
    unfold Scheduler.Asked at h ⊢
    rw [← List.getElem?_map, (step_advances ht hn).cancelled, List.getElem?_map, h]
  obtain ⟨t, ht, hc⟩ := Option.map_eq_some_iff.mp h
  cases move with
  | trigger =>
    show s.scheduler.trigger.2.Asked i
    unfold Scheduler.trigger Scheduler.Asked
    split
    · exact h
    · simp [List.getElem?_append_left (List.getElem?_eq_some_iff.mp ht).1, ht, hc]
  | abort =>
    show s.scheduler.abort.Asked i
    unfold Scheduler.abort
    split
    · exact h
    · unfold Scheduler.Asked
      simp only [Scheduler.modifyTask, List.getElem?_modify, ht]
      split <;> simp [hc]
  | wait => exact h
  | _ => exact advance rfl rfl

theorem asked_run (h : s.scheduler.Asked i) (moves : List (Move γ)) :
    (s.run moves).scheduler.Asked i := by
  induction moves generalizing s with
  | nil => exact h
  | cons move moves ih => exact ih (asked_step h move)

theorem stopped_of_asked (h : s.scheduler.Asked i) : s.Stopped i := by
  intro moves move hm
  have asked := asked_run h moves
  cases move with
  | begin j =>
    obtain rfl : j = i := hm
    exact Background.begin_site asked
  | finish j outcome =>
    obtain rfl : j = i := hm
    exact Background.finish_site asked outcome
  | breakDown j => exact Background.breakDown_site _ j
  | _ => cases hm

/-- A running attempt that nobody has asked to stop goes on to be counted. -/
theorem not_stopped {t : Task} (ht : s.scheduler.tasks[i]? = some t) (alive : t.isAlive = true)
    (hc : t.cancelled = false) : ¬ s.Stopped i := by
  intro stopped
  have counts (moves : List (Move γ)) (move : Move γ) (hm : move.IsStepOf i) :
      ((s.run moves).step move).background.site.stats.attempts ≠
        (s.run moves).background.site.stats.attempts + 1 := by
    rw [stopped moves move hm]
    exact Nat.ne_of_lt (Nat.lt_succ_self _)
  obtain ⟨phase, cancelled⟩ := t
  obtain rfl : cancelled = false := hc
  cases phase with
  | ended report => cases alive
  | sending attempt =>
    exact counts [] (.finish i .delivered) rfl (Background.finish_counts ht .delivered)
  | ready =>
    rcases Background.begin_counts ht with counted | ⟨attempt, sending⟩
    · exact counts [] (.begin i) rfl counted
    · exact counts [.begin i] (.finish i .delivered) rfl
        (Background.finish_counts sending .delivered)

/-- A request to stop that comes after somebody has come to wait finds no handle. -/
theorem abort_eq_self (h : s.scheduler.Custody i (some .waiter)) : s.step .abort = s := by
  have kept : s.scheduler.abort = s.scheduler := by
    unfold Scheduler.abort
    rw [h.handle]
    rfl
  simp only [step, kept]
  rfl

/-- The request to stop itself changes neither the gate nor the store nor the counts. The attempt
that is running when it comes does not change them any more either, exactly if the first to ask for
the handle of the attempt since it was started did not come to wait for its end. Otherwise the
request does nothing at all. -/
theorem stopped_exact (coordinator : Coordinator) (site : Site γ) (moves : List (Move γ))
    (running : ((start coordinator site).run moves).scheduler.isRunning i = true) :
    let s := (start coordinator site).run moves
    (s.step .abort).background.site = s.background.site ∧
      (∃ since, (start coordinator site).Started moves i since) ∧
      ∀ since, (start coordinator site).Started moves i since →
        ((s.step .abort).Stopped i ↔ taker? since ≠ some .waiter) ∧
        (taker? since = some .waiter → s.step .abort = s) := by
  intro s
  refine ⟨rfl, started_of_isRunning coordinator site moves running, fun since started => ?_⟩
  have custody : s.scheduler.Custody i (taker? since) := custody_of_started started running
  have nothing (h : taker? since = some .waiter) : s.step .abort = s :=
    abort_eq_self (h ▸ custody)
  refine ⟨⟨fun stopped waited => ?_, fun unwaited => ?_⟩, nothing⟩
  · -- nobody has asked this attempt to stop, neither before nor now
    obtain ⟨t, ht, alive⟩ := Scheduler.isRunning_iff.mp running
    have cancelled := custody.cancelled
    rw [waited, ht, Option.map_some] at cancelled
    rw [nothing waited] at stopped
    exact not_stopped ht alive (Option.some.inj cancelled) stopped
  · have asked : (s.step .abort).scheduler.Asked i := by
      have cancelled := custody.abort.cancelled
      rcases h : taker? since with _ | _ | _
      · rwa [h] at cancelled
      · rwa [h] at cancelled
      · exact absurd h unwaited
    exact stopped_of_asked asked

/-- Nobody has come to wait for an attempt whose batch is on its way, so that it can be stopped. -/
theorem stopped_exact_sending :
    ((loaded.run [.trigger, .begin 0]).step .abort).Stopped 0 := by
  have running : (loaded.run [.trigger, .begin 0]).scheduler.isRunning 0 = true := rfl
  obtain ⟨-, -, stopped⟩ :=
    stopped_exact default loaded.background.site [.trigger, .begin 0] running
  have started : loaded.Started [.trigger, .begin 0] 0 [.begin 0] := ⟨[], rfl, rfl, rfl⟩
  exact (stopped _ started).1.mpr (by decide)

/-- Somebody waits for an attempt whose batch is on its way when the request to stop comes: the
record of the batch is delivered all the same, and the attempt is counted. If the credential is
refused the gate lets go of it. -/
theorem stopped_waitedFor :
    let s := (loaded.run [.trigger, .begin 0, .wait]).step .abort
    let site (outcome : Outcome) := (s.step (.finish 0 outcome)).background.site
    s.scheduler.isRunning 0 = true ∧ ¬ s.Stopped 0 ∧
      s.background.site.store.stats = .ok ⟨1, 1, 0⟩ ∧
      (site .delivered).store.stats = .ok ⟨1, 0, 1⟩ ∧
      (site .delivered).stats.attempts = 1 ∧ (site .unauthorized).gate.held = none := by
  intro s site
  have going : ¬ s.Stopped 0 := not_stopped (t := ⟨.sending ⟨_, _⟩, false⟩) rfl rfl rfl
  exact ⟨rfl, going, by decide, by decide, rfl, rfl⟩

end Service

end Outbox
