import Outbox.Proofs.Background.Exclusion

/-!
# Who takes the handle of an attempt

The handle of an attempt is there from its start until somebody takes it, to ask the attempt to stop
or to wait for its end. Whoever comes later finds none, so that the first one decides whether the
attempt is asked to stop (`Custody`). A running attempt was started by a trigger
(`started_of_isRunning`), and the moves since then tell where its handle is (`custody_of_started`).
-/

namespace Outbox

namespace Service

/-- Those who take the handle of the last attempt. -/
inductive Taker where
  /-- One who asks the attempt to stop. -/
  | canceller
  /-- One who waits for its end. -/
  | waiter
  deriving DecidableEq, Repr

/-- Who asks for the handle with this move. -/
def Move.taker? {γ : Type} : Move γ → Option Taker
  | .abort => some .canceller
  | .wait => some .waiter
  | _ => none

/-- Who is the first to ask for the handle in these moves. -/
def taker? {γ : Type} (moves : List (Move γ)) : Option Taker := moves.findSome? Move.taker?

end Service

namespace Scheduler

open Service (Taker)

variable {s s' : Scheduler} {answer : Option Bool} {i : Nat} {taker : Option Taker}

/-- Where the handle of an attempt is: still there, or with the one who has taken it. The attempt
was asked to stop if it was taken for that. -/
structure Custody (s : Scheduler) (i : Nat) (taker : Option Taker) : Prop where
  handle : s.handle = if taker.isNone then some i else none
  cancelled : s.tasks[i]?.map Task.cancelled = some (decide (taker = some .canceller))

/-- Attempts go on: the handle stays where it is, and none of them is asked to stop. -/
structure Advances (s s' : Scheduler) : Prop where
  handle : s'.handle = s.handle
  cancelled : s'.tasks.map Task.cancelled = s.tasks.map Task.cancelled

theorem Advances.refl (s : Scheduler) : s.Advances s := ⟨rfl, rfl⟩

/-- What changes an attempt otherwise than by asking it to stop lets it go on. -/
theorem modifyTask_advances {f : Task → Task} (hf : ∀ t, (f t).cancelled = t.cancelled)
    (s : Scheduler) (i : Nat) : s.Advances (s.modifyTask i f) := by
  refine ⟨rfl, List.ext_getElem? fun j => ?_⟩
  simp only [modifyTask, List.getElem?_map, List.getElem?_modify]
  split <;> cases s.tasks[j]? <;> simp [hf]

theorem endTask_advances (s : Scheduler) (i : Nat) (report : Option SyncReport) :
    s.Advances (s.endTask i report) := by
  obtain ⟨handle, cancelled⟩ :=
    s.modifyTask_advances (f := fun t => { t with phase := .ended report }) (fun _ => rfl) i
  exact ⟨handle, cancelled⟩

theorem Custody.advances (h : s.Custody i taker) (ha : s.Advances s') : s'.Custody i taker := by
  refine ⟨ha.handle.trans h.handle, ?_⟩
  rw [← List.getElem?_map, ha.cancelled, List.getElem?_map]
  exact h.cancelled

/-! ### The moves of the users -/

theorem trigger_skipped (h : s.inFlight = true) :
    s.trigger = (false, { s with skipped := s.skipped + 1 }) := if_pos h

theorem trigger_started (h : s.inFlight = false) :
    s.trigger = (true,
      { s with
        tasks := s.tasks ++ [{}]
        inFlight := true
        handle := some s.tasks.length
        scheduled := s.scheduled + 1 }) := if_neg (by simp [h])

/-- An attempt that starts has its handle. -/
theorem custody_trigger (h : s.inFlight = false) : s.trigger.2.Custody s.tasks.length none := by
  rw [trigger_started h]
  exact ⟨rfl, by simp⟩

theorem Custody.skip (h : s.Custody i taker) (hf : s.inFlight = true) :
    s.trigger.2.Custody i taker := by
  rw [trigger_skipped hf]
  exact ⟨h.handle, h.cancelled⟩

/-- The request to stop reaches the attempt if the handle is still there. -/
theorem Custody.abort (h : s.Custody i taker) :
    s.abort.Custody i (taker.or (some .canceller)) := by
  unfold Scheduler.abort
  cases taker with
  | none =>
    rw [h.handle]
    refine ⟨rfl, ?_⟩
    obtain ⟨t, ht, -⟩ := Option.map_eq_some_iff.mp h.cancelled
    simp [modifyTask, ht]
  | some first =>
    rw [h.handle]
    exact h

theorem Custody.takeHandle (h : s.Custody i taker) :
    s.takeHandle.2.Custody i (taker.or (some .waiter)) := by
  cases taker with
  | none => exact ⟨rfl, h.cancelled⟩
  | some first => exact ⟨rfl, h.cancelled⟩

/-! ### Attempts that are running -/

theorem isRunning_iff : s.isRunning i = true ↔ ∃ t, s.tasks[i]? = some t ∧ t.isAlive = true := by
  simp [isRunning, Option.any_eq_true]

theorem lt_of_isRunning (h : s.isRunning i = true) : i < s.tasks.length := by
  obtain ⟨t, ht, -⟩ := isRunning_iff.mp h
  exact (List.getElem?_eq_some_iff.mp ht).1

/-- The flag tells whether there is a number of a running attempt. -/
theorem Sound.inFlight_iff_isRunning (h : s.Sound) :
    s.inFlight = true ↔ ∃ i, s.isRunning i = true := by
  rw [h.inFlight_iff]
  constructor
  · rintro ⟨t, ht, alive⟩
    obtain ⟨i, hi⟩ := List.mem_iff_getElem?.mp ht
    exact ⟨i, isRunning_iff.mpr ⟨t, hi, alive⟩⟩
  · rintro ⟨i, hr⟩
    obtain ⟨t, ht, alive⟩ := isRunning_iff.mp hr
    exact ⟨t, List.mem_of_getElem? ht, alive⟩

theorem Effect.length_le (he : s.Effect answer s') : s.tasks.length ≤ s'.tasks.length := by
  cases he <;> simp [modifyTask, endTask]

/-- There are more attempts only after a trigger that has started one. -/
theorem Effect.started_of_lt (he : s.Effect answer s') (h : s.tasks.length < s'.tasks.length) :
    answer = some true ∧ s.inFlight = false ∧ s'.tasks.length = s.tasks.length + 1 := by
  cases he with
  | started hf => exact ⟨rfl, hf, List.length_append⟩
  | _ => simp [modifyTask, endTask] at h

/-- What has ended does not run again. -/
theorem Effect.isRunning (he : s.Effect answer s') (hi : i < s.tasks.length)
    (hr : s'.isRunning i = true) : s.isRunning i = true := by
  cases he with
  | skipped hf => exact hr
  | started hf =>
    simp only [Scheduler.isRunning, List.getElem?_append_left hi] at hr
    exact hr
  | handed handle => exact hr
  | @changed j t hj f hf handle =>
    simp only [Scheduler.isRunning, modifyTask, List.getElem?_modify] at hr ⊢
    split at hr
    · next same =>
      subst same
      rw [hj] at hr ⊢
      simpa [hf] using hr
    · simpa using hr
  | @ended j t hj ht report =>
    simp only [Scheduler.isRunning, endTask, modifyTask, List.getElem?_modify] at hr ⊢
    split at hr
    · next same =>
      subst same
      rw [hj]
      simpa using ht
    · simpa using hr

end Scheduler

namespace Background

variable {γ : Type} [CredentialGate γ] (b : Background γ) (i : Nat)

theorem begin_advances : b.scheduler.Advances (b.begin i).scheduler := by
  unfold Background.begin
  split
  · exact b.scheduler.endTask_advances i none
  · split
    · exact b.scheduler.endTask_advances i _
    · next attempt _ =>
      exact b.scheduler.modifyTask_advances
        (f := fun t => { t with phase := .sending attempt }) (fun _ => rfl) i
  · exact .refl _

theorem finish_advances (outcome : Outcome) :
    b.scheduler.Advances (b.finish i outcome).scheduler := by
  unfold Background.finish
  split
  · exact b.scheduler.endTask_advances i none
  · exact b.scheduler.endTask_advances i _
  · exact .refl _

omit [CredentialGate γ] in
theorem breakDown_advances : b.scheduler.Advances (b.breakDown i).scheduler := by
  unfold breakDown
  split
  · exact b.scheduler.endTask_advances i none
  · exact .refl _

end Background

namespace Service

open Scheduler (Custody)

variable {γ : Type} [CredentialGate γ] {s : Service γ} {i : Nat} {taker : Option Taker}

/-- Only triggers and those who take the handle do more than let attempts go on. -/
theorem step_advances {move : Move γ} (ht : move.isTrigger = false) (hn : move.taker? = none) :
    s.scheduler.Advances (s.step move).scheduler := by
  cases move with
  | trigger => cases ht
  | abort => cases hn
  | wait => cases hn
  | wake k =>
    simp only [step]
    split
    · exact .refl _
    · split <;> exact .refl _
  | leave k => exact .refl _
  | begin i => exact s.background.begin_advances i
  | finish i outcome => exact s.background.finish_advances i outcome
  | breakDown i => exact s.background.breakDown_advances i
  | work site => exact .refl _

/-! ### From the start of an attempt to its end -/

omit [CredentialGate γ] in
theorem taker?_cons (move : Move γ) (moves : List (Move γ)) :
    taker? (move :: moves) = move.taker?.or (taker? moves) := by
  cases move <;> rfl

/-- A handle that is there goes to the one who takes it, and one that is gone stays gone. -/
theorem custody_step (h : s.scheduler.Custody i taker) (hf : s.scheduler.inFlight = true)
    (move : Move γ) : (s.step move).scheduler.Custody i (taker.or move.taker?) := by
  have stays (hn : move.taker? = none) (h' : (s.step move).scheduler.Custody i taker) :
      (s.step move).scheduler.Custody i (taker.or move.taker?) := by
    rwa [hn, Option.or_none]
  cases move with
  | abort => exact h.abort
  | wait => exact h.takeHandle
  | trigger => exact stays rfl (h.skip hf)
  | _ => exact stays rfl (h.advances (step_advances rfl rfl))

/-- An attempt that is running after some moves was running all the time. -/
theorem isRunning_of_run (moves : List (Move γ)) (hi : i < s.scheduler.tasks.length)
    (hr : (s.run moves).scheduler.isRunning i = true) : s.scheduler.isRunning i = true := by
  induction moves generalizing s with
  | nil => exact hr
  | cons move moves ih =>
    have he := s.step_effect move
    exact he.isRunning hi (ih (Nat.lt_of_lt_of_le hi he.length_le) hr)

theorem custody_run (sound : s.scheduler.Sound) (h : s.scheduler.Custody i taker)
    (hi : i < s.scheduler.tasks.length) (moves : List (Move γ))
    (hr : (s.run moves).scheduler.isRunning i = true) :
    (s.run moves).scheduler.Custody i (taker.or (taker? moves)) := by
  induction moves generalizing s taker with
  | nil =>
    rw [taker?, List.findSome?_nil, Option.or_none]
    exact h
  | cons move moves ih =>
    have he := s.step_effect move
    have flies : s.scheduler.inFlight = true :=
      sound.inFlight_iff_isRunning.mpr ⟨i, isRunning_of_run (move :: moves) hi hr⟩
    have rest := ih (sound.effect he) (custody_step h flies move)
      (Nat.lt_of_lt_of_le hi he.length_le) hr
    rwa [Option.or_assoc, ← taker?_cons] at rest

/-- Attempt `i` of a run was started by a trigger, and then came the moves `since`. -/
def Started (s : Service γ) (moves : List (Move γ)) (i : Nat) (since : List (Move γ)) : Prop :=
  ∃ before, moves = before ++ .trigger :: since ∧ (s.run before).scheduler.inFlight = false ∧
    (s.run before).scheduler.tasks.length = i

theorem run_append (s : Service γ) (moves later : List (Move γ)) :
    s.run (moves ++ later) = (s.run moves).run later := List.foldl_append

theorem Started.concat {moves since : List (Move γ)} (h : s.Started moves i since) (move : Move γ) :
    s.Started (moves ++ [move]) i (since ++ [move]) := by
  obtain ⟨before, rfl, idle, hi⟩ := h
  exact ⟨before, by simp, idle, hi⟩

/-- A running attempt was started by a trigger. -/
theorem started_of_isRunning (coordinator : Coordinator) (site : Site γ) (moves : List (Move γ))
    (hr : ((start coordinator site).run moves).scheduler.isRunning i = true) :
    ∃ since, (start coordinator site).Started moves i since := by
  induction moves using List.reverseRecOn with
  | nil => cases hr
  | append_singleton moves move ih =>
    rw [run_append] at hr
    have he := step_effect ((start coordinator site).run moves) move
    by_cases hi : i < ((start coordinator site).run moves).scheduler.tasks.length
    · obtain ⟨since, started⟩ := ih (he.isRunning hi hr)
      exact ⟨_, started.concat move⟩
    · have last : i < (step _ move).scheduler.tasks.length :=
        Scheduler.lt_of_isRunning hr
      obtain ⟨told, idle, length⟩ := he.started_of_lt (by omega)
      cases move with
      | trigger => exact ⟨[], moves, rfl, idle, by omega⟩
      | _ => cases told

/-- The handle of a running attempt is there, or with the first who has asked for it since the
attempt was started. -/
theorem custody_of_started {coordinator : Coordinator} {site : Site γ} {moves since : List (Move γ)}
    (started : (start coordinator site).Started moves i since)
    (hr : ((start coordinator site).run moves).scheduler.isRunning i = true) :
    ((start coordinator site).run moves).scheduler.Custody i (taker? since) := by
  obtain ⟨before, rfl, idle, rfl⟩ := started
  have sound := sound_run (sound_start coordinator site) before
  rw [run_append] at hr ⊢
  generalize (start coordinator site).run before = s at idle sound hr ⊢
  have first : (s.step .trigger).scheduler.Custody s.scheduler.tasks.length none :=
    Scheduler.custody_trigger idle
  have there : s.scheduler.tasks.length < (s.step .trigger).scheduler.tasks.length := by
    show _ < s.scheduler.trigger.2.tasks.length
    simp [Scheduler.trigger_started idle]
  have later := custody_run (sound.effect (s.step_effect .trigger)) first there since hr
  rwa [Option.none_or] at later

end Service

end Outbox
