import Outbox.Proofs.Session.Basic

/-!
# Whose session a refusal ends

A gate is told to let go when an answer refuses a credential, and at no other time. It is not told
which one was refused, so that a credential that came into the gate while an older one was on its
way goes with the refusal of the older one. This is the only way for a refusal to hit a credential
that was not refused (`refusals_exact`).
-/

namespace Outbox.Session

open CredentialGate

variable {γ : Type} [CredentialGate γ] {s s' : Session γ} {move : Move γ}

/-- The gate holds what its last change has left in it, also for those that have sent a request
before. -/
structure Sound (s : Session γ) : Prop where
  requests : ∀ r ∈ s.requests, current s.gate = r.since.getD (some r.credential)
  refusals : ∀ r ∈ s.refusals, r.held = r.since.getD (some r.sent)

/-- What a gate and a store come to. -/
def Reached (s : Session γ) : Prop :=
  ∃ (gate : γ) (store : Store) (moves : List (Move γ)), run { gate, store } moves = s

theorem sound_start (gate : γ) (store : Store) : Sound ({ gate, store } : Session γ) :=
  ⟨fun _ hr => (nomatch hr), fun _ hr => (nomatch hr)⟩

namespace Sound

variable [LawfulGate γ]

theorem requests_effect (h : Sound s) (he : Effect s move s') :
    ∀ r ∈ s'.requests, current s'.gate = r.since.getD (some r.credential) := by
  cases he with
  | idle => exact h.requests
  | worked => exact h.requests
  | sent move errand hc =>
    intro r hr
    rcases List.mem_append.mp hr with hr | hr
    · exact h.requests r hr
    · rw [List.mem_singleton.mp hr]
      exact hc
  | answered move store hi => exact fun r hr => h.requests r (List.mem_of_mem_eraseIdx hr)
  | dropped move i => exact fun r hr => h.requests r (List.mem_of_mem_eraseIdx hr)
  | refused store hm hi =>
    intro r hr
    obtain ⟨q, hq, rfl⟩ := List.mem_map.mp hr
    exact LawfulGate.current_invalidate s.gate
  | changed gate =>
    intro r hr
    obtain ⟨q, hq, rfl⟩ := List.mem_map.mp hr
    rfl

omit [LawfulGate γ] in
theorem refusals_effect (h : Sound s) (he : Effect s move s') :
    ∀ r ∈ s'.refusals, r.held = r.since.getD (some r.sent) := by
  cases he with
  | refused store hm hi =>
    intro r hr
    rcases List.mem_append.mp hr with hr | hr
    · exact h.refusals r hr
    · rw [List.mem_singleton.mp hr]
      exact h.requests _ (List.mem_of_getElem? hi)
  | _ => exact h.refusals

theorem run (h : Sound s) (moves : List (Move γ)) : Sound (s.run moves) := by
  induction moves generalizing s with
  | nil => exact h
  | cons move moves ih =>
    have he := step_effect (s := s) move
    exact ih ⟨h.requests_effect he, h.refusals_effect he⟩

end Sound

theorem Reached.sound [LawfulGate γ] (h : Reached s) : Sound s := by
  obtain ⟨gate, store, moves, rfl⟩ := h
  exact (sound_start gate store).run moves

/-- Apart from changes by others, the gate stays as it is or is told to let go, which is when the
credential of a request was refused. -/
theorem gate_effect (he : Effect s move s') :
    (∃ gate, move = .change gate) ∨ (s'.gate = s.gate ∧ s'.refusals = s.refusals) ∨
      ∃ i r, move.Refuses i ∧ s.requests[i]? = some r ∧ s'.gate = invalidate s.gate ∧
        s'.refusals = s.refusals ++ [⟨r.credential, r.since, current s.gate⟩] := by
  cases he with
  | changed gate => exact .inl ⟨gate, rfl⟩
  | refused store hm hi => exact .inr (.inr ⟨_, _, hm, hi, rfl, rfl⟩)
  | _ => exact .inr (.inl ⟨rfl, rfl⟩)

/-- The gate lets go of a credential only when an answer has refused one. What it lets go of is the
refused one, unless the gate was changed while the request was on its way; then it is what the
last change has put there. So no other credential is lost exactly if no such change has put another
one there. -/
theorem refusals_exact [LawfulGate γ] (h : Reached s) :
    (∀ move : Move γ, (∃ gate, move = .change gate) ∨
      ((s.step move).gate = s.gate ∧ (s.step move).refusals = s.refusals) ∨
      ∃ i r, move.Refuses i ∧ s.requests[i]? = some r ∧
        (s.step move).gate = invalidate s.gate ∧
        (s.step move).refusals = s.refusals ++ [⟨r.credential, r.since, current s.gate⟩]) ∧
    (∀ r ∈ s.refusals, r.held = r.since.getD (some r.sent)) ∧
    ((∀ r ∈ s.refusals, ∀ c, r.held = some c → c = r.sent) ↔
      ∀ r ∈ s.refusals, ∀ c, r.since = some (some c) → c = r.sent) := by
  have held := h.sound.refusals
  refine ⟨fun move => gate_effect (step_effect move), held, ?_⟩
  constructor
  · intro own r hr c hc
    refine own r hr c ?_
    rw [held r hr, hc]
    rfl
  · intro own r hr c hc
    rw [held r hr] at hc
    cases hs : r.since with
    | none =>
      rw [hs] at hc
      exact (Option.some.inj hc).symm
    | some x =>
      rw [hs] at hc
      refine own r hr c ?_
      rw [hs]
      exact congrArg some hc

/-- A session with one pending event and an old credential. -/
def loggedIn : Session MemoryGate where
  gate := ⟨some ⟨"old"⟩⟩
  store := (Store.inMemory.migrate.2.append default).2

/-- A user logs in anew while a batch is on its way, and the old credential is refused. -/
def loginUnderway : List (Move MemoryGate) :=
  [.attempt default, .change (loggedIn.gate.set ⟨"new"⟩), .uploaded 0 .unauthorized]

/-- The refusal of the old credential takes the new one from the gate. -/
theorem refusals_loginUnderway :
    (loggedIn.run loginUnderway).refusals = [⟨⟨"old"⟩, some (some ⟨"new"⟩), some ⟨"new"⟩⟩] ∧
      current (loggedIn.run loginUnderway).gate = none := by
  decide

/-- A refusal that no login has come before hits the refused credential. -/
theorem refusals_exact_loggedIn :
    ∃ r ∈ (loggedIn.run [.attempt default, .uploaded 0 .unauthorized]).refusals,
      r.held = some r.sent := by
  have reached : Reached (loggedIn.run [.attempt default, .uploaded 0 .unauthorized]) :=
    ⟨loggedIn.gate, loggedIn.store, _, rfl⟩
  obtain ⟨-, held, -⟩ := refusals_exact reached
  have refused : (loggedIn.run [.attempt default, .uploaded 0 .unauthorized]).refusals =
      [⟨⟨"old"⟩, none, some ⟨"old"⟩⟩] := by decide
  rw [refused] at held ⊢
  exact ⟨_, List.mem_singleton_self _, held _ (List.mem_singleton_self _)⟩

end Outbox.Session
