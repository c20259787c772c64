import Mathlib.Data.Bool.Count
import Outbox.Proofs.Background.Basic

/-!
# One attempt at a time

However triggers, requests to stop, waiting and the steps of attempts follow each other, at most one
attempt in the background has not ended, the flag of the scheduler says whether there is one, and
every trigger is either skipped or has started an attempt (`one_at_a_time`).
-/

namespace Outbox

namespace Scheduler

variable {s s' : Scheduler} {answer : Option Bool} {i : Nat} {t : Task}

theorem running_eq_zero : s.running = 0 ↔ ∀ t ∈ s.tasks, t.isAlive = false := by
  simp [running, List.countP_eq_zero]

/-- A change of one attempt counts for this attempt only. -/
theorem running_modifyTask (hi : s.tasks[i]? = some t) (f : Task → Task) :
    (s.modifyTask i f).running + t.isAlive.toNat = s.running + (f t).isAlive.toNat := by
  obtain ⟨hl, rfl⟩ := List.getElem?_eq_some_iff.mp hi
  have cut : s.tasks = s.tasks.take i ++ s.tasks[i] :: s.tasks.drop (i + 1) := by
    rw [List.getElem_cons_drop, List.take_append_drop]
  have before : s.running = _ := congrArg (List.countP Task.isAlive) cut
  have after : (s.modifyTask i f).running = _ :=
    congrArg (List.countP Task.isAlive) (List.modify_eq_take_cons_drop hl)
  have one : ∀ b : Bool, (if b = true then 1 else 0) = b.toNat := by decide
  rw [List.countP_append, List.countP_cons, one] at before after
  omega

/-- The flag tells how many attempts have not ended, and every attempt was counted. -/
structure Sound (s : Scheduler) : Prop where
  running : s.running = s.inFlight.toNat
  scheduled : s.scheduled = s.tasks.length

namespace Sound

/-- An attempt that ends is the only one that was running. -/
theorem effect (h : s.Sound) (he : s.Effect answer s') : s'.Sound := by
  have running := h.running
  cases he with
  | skipped hf => exact ⟨running, h.scheduled⟩
  | started hf =>
    refine ⟨?_, ?_⟩
    · rw [hf] at running
      simpa [Scheduler.running, Task.isAlive] using running
    · rw [List.length_append, List.length_singleton, h.scheduled]
  | handed handle => exact ⟨running, h.scheduled⟩
  | @changed i t hi f hf handle =>
    refine ⟨?_, h.scheduled.trans (List.length_modify _ _ _).symm⟩
    have count := running_modifyTask hi f
    rw [hf, running] at count
    exact Nat.add_right_cancel count
  | @ended i t hi ht report =>
    refine ⟨?_, h.scheduled.trans (List.length_modify _ _ _).symm⟩
    have count := running_modifyTask hi fun t => { t with phase := .ended report }
    rw [ht, running] at count
    -- This one was running, and the flag cannot tell of more than one.
    have le := s.inFlight.toNat_le
    simp only [Task.isAlive, Bool.toNat_true, Bool.toNat_false] at count
    change (s.modifyTask i fun t => { t with phase := .ended report }).running = 0
    omega

/-- The flag is set exactly while an attempt is running. -/
theorem inFlight_iff (h : s.Sound) : s.inFlight = true ↔ ∃ t ∈ s.tasks, t.isAlive = true := by
  rw [← List.countP_pos_iff, ← Scheduler.running, h.running]
  cases s.inFlight <;> decide

/-- A trigger starts an attempt exactly if none is running. -/
theorem trigger_iff (h : s.Sound) : s.trigger.1 = true ↔ ∀ t ∈ s.tasks, t.isAlive = false := by
  rw [← running_eq_zero, h.running]
  unfold trigger
  cases s.inFlight <;> simp

end Sound

end Scheduler

namespace Service

variable {γ : Type} [CredentialGate γ]

omit [CredentialGate γ] in
theorem sound_start (coordinator : Coordinator) (site : Site γ) :
    (start coordinator site).scheduler.Sound := ⟨rfl, rfl⟩

theorem sound_run {s : Service γ} (h : s.scheduler.Sound) (moves : List (Move γ)) :
    (s.run moves).scheduler.Sound := by
  induction moves generalizing s with
  | nil => exact h
  | cons move moves ih => exact ih (h.effect (s.step_effect move))

/-- A trigger starts an attempt or is skipped, and is counted as what it was told. -/
theorem counts_effect {s s' : Scheduler} {answer : Option Bool} (he : s.Effect answer s') :
    s'.scheduled = s.scheduled + answer.toList.count true ∧
      s'.skipped = s.skipped + answer.toList.count false := by
  cases he <;> exact ⟨rfl, rfl⟩

theorem counts_run (s : Service γ) (moves : List (Move γ)) :
    (s.run moves).scheduler.scheduled = s.scheduler.scheduled + (s.answers moves).count true ∧
      (s.run moves).scheduler.skipped = s.scheduler.skipped + (s.answers moves).count false := by
  induction moves generalizing s with
  | nil => exact ⟨rfl, rfl⟩
  | cons move moves ih =>
    obtain ⟨scheduled, skipped⟩ := counts_effect (s.step_effect move)
    obtain ⟨scheduled', skipped'⟩ := ih (s.step move)
    rw [answers, List.count_append, List.count_append]
    exact ⟨by rw [← Nat.add_assoc, ← scheduled]; exact scheduled',
      by rw [← Nat.add_assoc, ← skipped]; exact skipped'⟩

/-- Every trigger of a run is told something, and nothing else is. -/
theorem length_answers (s : Service γ) (moves : List (Move γ)) :
    (s.answers moves).length = moves.countP Move.isTrigger := by
  induction moves generalizing s with
  | nil => rfl
  | cons move moves ih =>
    rw [answers, List.length_append, ih, List.countP_cons, Nat.add_comm]
    cases move <;> rfl

/-- After any moves at most one attempt in the background has not ended; the flag says whether there
is one, and the next trigger starts an attempt exactly if there is none. As many triggers have
started an attempt as there were attempts, the others were skipped, and both are counted. -/
theorem one_at_a_time (coordinator : Coordinator) (site : Site γ) (moves : List (Move γ)) :
    let s := ((start coordinator site).run moves).scheduler
    let told := (start coordinator site).answers moves
    (s.tasks.filter Task.isAlive).length ≤ 1 ∧
      (s.inFlight = true ↔ ∃ t ∈ s.tasks, t.isAlive = true) ∧
      (s.trigger.1 = true ↔ ∀ t ∈ s.tasks, t.isAlive = false) ∧
      s.scheduled + s.skipped = moves.countP Move.isTrigger ∧
      s.scheduled = s.tasks.length ∧ s.scheduled = told.count true ∧
      s.skipped = told.count false := by
  intro s told
  have sound : s.Sound := sound_run (sound_start coordinator site) moves
  obtain ⟨scheduled, skipped⟩ := counts_run (start coordinator site) moves
  have scheduled : s.scheduled = told.count true := scheduled.trans (Nat.zero_add _)
  have skipped : s.skipped = told.count false := skipped.trans (Nat.zero_add _)
  refine ⟨?_, sound.inFlight_iff, sound.trigger_iff, ?_, sound.scheduled, scheduled, skipped⟩
  · rw [← List.countP_eq_length_filter, ← Scheduler.running, sound.running]
    exact s.inFlight.toNat_le
  · rw [scheduled, skipped, ← length_answers (start coordinator site) moves]
    exact List.count_true_add_count_false told

/-- An attempt that was asked to stop is in the way of the next trigger until its next step. -/
example (site : Site MemoryGate) :
    (start {} site).answers [.trigger, .abort, .trigger, .begin 0, .trigger] =
      [true, false, true] := by
  rfl

end Service

end Outbox
