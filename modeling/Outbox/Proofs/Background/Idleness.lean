import Outbox.Proofs.Background.Handles

/-!
# Waiting until nothing is running

A call to wait looks for the handle of the last attempt, and returns at once if the handle is gone.
The handle is gone while the attempt is still running if somebody else waits for it, or has asked
it to stop. So a call may return while an attempt is in flight, and that is the only way
(`idle_exact`).
-/

namespace Outbox.Service

variable {γ : Type} [CredentialGate γ] {s : Service γ} {i : Nat}

/-- Who waits for this attempt is told that it has ended. -/
def Told (s : Service γ) (i : Nat) : Prop :=
  ∃ k, s.waits[k]? = some i ∧ (s.step (.wake k)).waits = s.waits.eraseIdx k

/-- A call to wait returns after these moves: at once if there is no handle to take, and otherwise
when the caller is told. -/
def Returns (s : Service γ) (moves : List (Move γ)) : Prop :=
  match s.scheduler.handle with
  | none => moves = []
  | some i => ((s.step .wait).run moves).Told i

/-- No attempt is in flight, and the next trigger starts one. -/
def Idle (s : Service γ) : Prop :=
  s.scheduler.inFlight = false ∧ s.answer? .trigger = some true

/-- A call to wait returns only when no attempt is in flight, if none is started meanwhile. -/
def WaitsForIdle (s : Service γ) : Prop :=
  ∀ moves, s.Returns moves → true ∉ (s.step .wait).answers moves →
    ((s.step .wait).run moves).Idle

/-- Nobody is told of an attempt that is running. -/
theorem Told.not_isRunning (h : s.Told i) : s.scheduler.isRunning i = false := by
  obtain ⟨k, hk, told⟩ := h
  refine Bool.eq_false_iff.mpr fun running => ?_
  have length := congrArg List.length told
  simp only [step, hk, running, if_true] at length
  have inside := (List.getElem?_eq_some_iff.mp hk).1
  rw [List.length_eraseIdx_of_lt inside] at length
  omega

omit [CredentialGate γ] in
theorem idle_iff : s.Idle ↔ s.scheduler.inFlight = false := by
  refine ⟨And.left, fun idle => ⟨idle, ?_⟩⟩
  show some s.scheduler.trigger.1 = some true
  rw [Scheduler.trigger_started idle]

/-- Without a trigger that starts one there are no more attempts than before. -/
theorem length_run (sound : s.scheduler.Sound) {moves : List (Move γ)}
    (h : true ∉ s.answers moves) :
    (s.run moves).scheduler.tasks.length = s.scheduler.tasks.length := by
  have scheduled := (counts_run s moves).1
  rw [List.count_eq_zero.mpr h] at scheduled
  rw [← sound.scheduled, ← (sound_run sound moves).scheduled, scheduled, Nat.add_zero]

/-- A call that finds no handle returns at once, with the same attempts running. -/
theorem returns_nil (h : s.scheduler.handle = none) : s.Returns [] := by
  unfold Returns
  rw [h]

/-- A call that finds the handle of every running attempt returns when none is running. -/
theorem waitsForIdle_of_handle (sound : s.scheduler.Sound)
    (h : ∀ i, s.scheduler.isRunning i = true → s.scheduler.handle = some i) : s.WaitsForIdle := by
  intro moves returns noStart
  rw [idle_iff]
  refine Bool.eq_false_iff.mpr fun flies => ?_
  have sound' : (s.step .wait).scheduler.Sound := sound.effect (s.step_effect .wait)
  obtain ⟨i, running⟩ := (sound_run sound' moves).inFlight_iff_isRunning.mp flies
  -- no attempt was started meanwhile, so that this one was running when the call was made
  have old : i < (s.step .wait).scheduler.tasks.length := by
    rw [← length_run sound' noStart]
    exact Scheduler.lt_of_isRunning running
  have before : (s.step .wait).scheduler.isRunning i = true := isRunning_of_run moves old running
  have handle : s.scheduler.handle = some i := h i before
  unfold Returns at returns
  rw [handle] at returns
  rw [returns.not_isRunning] at running
  cases running

/-- A call to wait returns only when no attempt is in flight, exactly if nobody has asked for the
handle of the attempt that is running, if there is one, since it was started: neither to stop it nor
to wait for its end. -/
theorem idle_exact (coordinator : Coordinator) (site : Site γ) (moves : List (Move γ)) :
    let s := (start coordinator site).run moves
    s.WaitsForIdle ↔ ∀ i since, (start coordinator site).Started moves i since →
      s.scheduler.isRunning i = true → taker? since = none := by
  intro s
  have sound : s.scheduler.Sound := sound_run (sound_start coordinator site) moves
  constructor
  · intro waits i since started running
    have handle := (custody_of_started started running).handle
    cases ht : taker? since with
    | none => rfl
    | some first =>
      rw [ht] at handle
      have idle : s.scheduler.inFlight = false :=
        (waits [] (returns_nil handle) List.not_mem_nil).1
      rw [sound.inFlight_iff_isRunning.mpr ⟨i, running⟩] at idle
      cases idle
  · intro free
    refine waitsForIdle_of_handle sound fun i running => ?_
    obtain ⟨since, started⟩ := started_of_isRunning coordinator site moves running
    rw [(custody_of_started started running).handle, free i since started running]
    rfl

/-- A service with one pending event. -/
def loaded : Service MemoryGate :=
  start default ⟨⟨some ⟨"token"⟩⟩, (Store.inMemory.migrate.2.append default).2, {}⟩

/-- A call to wait comes right after the request to stop: it returns at once, the attempt is still
in flight, and the next trigger is skipped. -/
theorem idle_stopping :
    let s := loaded.run [.trigger, .begin 0, .abort]
    s.Returns [] ∧ ((s.step .wait).run []).waits = [] ∧
      ((s.step .wait).run []).scheduler.inFlight = true ∧
      ((s.step .wait).run []).answers [.trigger] = [false] ∧ ¬ s.WaitsForIdle := by
  intro s
  have returns : s.Returns [] := rfl
  refine ⟨returns, rfl, rfl, rfl, fun waits => ?_⟩
  have idle := (waits [] returns List.not_mem_nil).1
  cases idle

end Outbox.Service
