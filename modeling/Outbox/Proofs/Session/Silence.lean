import Outbox.Proofs.Collector.Calls
import Outbox.Proofs.Session.Refusal

/-!
# No session, no requests

Once the credential of a request was refused, the gate holds none, and it stays so until it is given
another one. Until then nothing that begins asks anything of the collector: attempts, series of
attempts and the calls for the data of the user end at once, and report that there is no session
(`silent_after_refusal`).
-/

namespace Outbox

open CredentialGate

/-! ### Refusals on the network -/

namespace Client

open Http (Conversation Reply)

variable {client : Client} {credential : Credential} {request : Http.Request} {status : Http.Status}

/-- A call goes on with the answer to its request. -/
theorem call_answered {α : Type} {method path body : String} {failed : RequestFault → α}
    {answered : Http.Status → Text.Bytes → Bool → α} {next : Reply → Conversation α}
    (h : client.call method path body credential failed answered = .ask request next)
    (status : Http.Status) (content : Text.Bytes) (complete : Bool) :
    next (.answer status content complete) = .done (answered status content complete) := by
  unfold call at h
  cases hr : client.request method path body credential with
  | error e =>
    rw [hr] at h
    cases h
  | ok request' =>
    rw [hr] at h
    injection h with _ hn
    rw [← hn]

/-- What an answer without permission means does not depend on its body. -/
theorem checked_unauthorized (h : status.isUnauthorized = true) (content : Text.Bytes)
    (complete : Bool) : checked status content complete = .error .unauthorized := by
  simp [checked, not_isSuccess h, h]

/-- Each of the three calls takes such an answer for a refusal of the credential. -/
theorem refused (h : status.isUnauthorized = true) (content : Text.Bytes) (complete : Bool) :
    (∀ batch next, client.sendBatch batch credential = .ask request next →
      next (.answer status content complete) = .done .unauthorized) ∧
    (∀ next, client.exportData credential = .ask request next →
      next (.answer status content complete) = .done (.error .unauthorized)) ∧
    ∀ next, client.eraseData credential = .ask request next →
      next (.answer status content complete) = .done (.error .unauthorized) := by
  refine ⟨fun batch next ask => ?_, fun next ask => ?_, fun next ask => ?_⟩
  · unfold sendBatch at ask
    split at ask
    · rw [call_answered ask]
      simp [Outcome.ofStatus, not_isSuccess h, h]
    · cases ask
  · unfold exportData at ask
    split at ask
    · rw [call_answered ask]
      simp only [checked_unauthorized h]
    · cases ask
  · unfold eraseData at ask
    split at ask
    · rw [call_answered ask, checked_unauthorized h]
      rfl
    · cases ask

end Client

/-! ### Without a credential -/

section LoggedOut

variable {γ : Type} [CredentialGate γ] {gate : γ}

theorem usable_eq_none (h : current gate = none) : usable gate = none := by
  unfold usable
  rw [h, ite_self]

/-- Without a session, a gate has nothing that can be used. -/
theorem usable_locked (h : isAuthenticated gate = false) : usable gate = none := by
  unfold usable
  rw [h, if_neg Bool.false_ne_true]

theorem Coordinator.begin_unusable (h : usable gate = none) (c : Coordinator) (store : Store) :
    c.begin gate store = .error (.failed .unauthenticated) := by
  unfold Coordinator.begin
  rw [h]

theorem Coordinator.begin_loggedOut (h : current gate = none) (c : Coordinator) (store : Store) :
    c.begin gate store = .error (.failed .unauthenticated) :=
  c.begin_unusable (usable_eq_none h) store

theorem Account.credential_loggedOut (h : current gate = none) :
    credential gate = .error .unauthenticated := by
  unfold credential
  rw [h]

section Monads

variable {m : Type → Type} [Monad m] [LawfulMonad m]
  {send : Batch → Credential → StateT (Site γ) m Outcome}

/-- An attempt is counted, and does nothing else. -/
theorem Coordinator.runOnce_unusable (h : usable gate = none) (c : Coordinator) (store : Store)
    (stats : SyncStats) :
    c.runOnce send { gate, store, stats } =
      pure (.failed .unauthenticated,
        { gate, store, stats := stats.count (.failed .unauthenticated) }) := by
  rw [c.runOnce_bind, c.begin_unusable h]

theorem Coordinator.runOnce_loggedOut (h : current gate = none) (c : Coordinator) (store : Store)
    (stats : SyncStats) :
    c.runOnce send { gate, store, stats } =
      pure (.failed .unauthenticated,
        { gate, store, stats := stats.count (.failed .unauthenticated) }) :=
  c.runOnce_unusable (usable_eq_none h) store stats

/-- A series of attempts ends with the first one. -/
theorem drain_loggedOut (h : current gate = none) (c : Coordinator) (max : Nat) (store : Store)
    (stats : SyncStats) :
    drain (c.runOnce send) max { gate, store, stats } =
      pure (⟨0, 0, .failed .unauthenticated⟩,
        { gate, store, stats := stats.count (.failed .unauthenticated) }) := by
  unfold drain
  cases max - 1 with
  | zero =>
    simp only [drain.go, bind, StateT.bind]
    rw [Coordinator.runOnce_loggedOut h, pure_bind]
    rfl
  | succ rest =>
    simp only [drain.go, bind, StateT.bind]
    rw [Coordinator.runOnce_loggedOut h, pure_bind]
    rfl

end Monads

end LoggedOut

/-! ### Sessions -/

namespace Session

variable {γ : Type} [CredentialGate γ] {s s' : Session γ} {move : Move γ}

/-- The move ends a request with the answer that its credential was refused, which is what each of
the calls makes of an answer without permission (`Client.refused`). -/
inductive Refused (s : Session γ) : Move γ → Prop
  | uploaded {i : Nat} {batch : Batch} {credential : Credential}
      {since : Option (Option Credential)}
      (hi : s.requests[i]? = some ⟨.upload batch, credential, since⟩) :
      s.Refused (.uploaded i .unauthorized)
  | exported {i : Nat} {credential : Credential} {since : Option (Option Credential)}
      (hi : s.requests[i]? = some ⟨.exportData, credential, since⟩) :
      s.Refused (.exported i (.error .unauthorized))
  | erased {i : Nat} {credential : Credential} {since : Option (Option Credential)}
      (hi : s.requests[i]? = some ⟨.eraseData, credential, since⟩) :
      s.Refused (.erased i (.error .unauthorized))

/-- Nobody puts a credential into the gate. -/
def NoLogin (moves : List (Move γ)) : Prop :=
  ∀ gate, .change gate ∈ moves → current gate = none

/-- What a request carries. -/
def Request.carried (r : Request) : Errand × Credential := (r.errand, r.credential)

/-- Whatever begins now ends at once, and sends nothing. It reports that there is no session, and
leaves the gate and the store as they are; only an attempt is counted. -/
structure Silent (s : Session γ) : Prop where
  moves : (∀ c, s.step (.attempt c) = s) ∧ s.step .exportData = s ∧ s.step .eraseData = s
  attempt : ∀ {m : Type → Type} [Monad m] [LawfulMonad m] (c : Coordinator)
    (send : Batch → Credential → StateT (Site γ) m Outcome) (stats : SyncStats),
    c.runOnce send ⟨s.gate, s.store, stats⟩ =
      pure (.failed .unauthenticated, ⟨s.gate, s.store, stats.count (.failed .unauthenticated)⟩)
  series : ∀ {m : Type → Type} [Monad m] [LawfulMonad m] (c : Coordinator) (max : Nat)
    (send : Batch → Credential → StateT (Site γ) m Outcome) (stats : SyncStats),
    drain (c.runOnce send) max ⟨s.gate, s.store, stats⟩ =
      pure (⟨0, 0, .failed .unauthenticated⟩,
        ⟨s.gate, s.store, stats.count (.failed .unauthenticated)⟩)
  exportData : ∀ client,
    Account.exportData client s.gate = .done (.error .unauthenticated, s.gate)
  eraseData : ∀ client,
    Account.erase client s.gate s.store = .done (.error .unauthenticated, s.gate, s.store)

/-- Without a credential nothing is sent. -/
theorem silent_of_loggedOut (h : current s.gate = none) : s.Silent where
  moves := by
    refine ⟨fun c => ?_, ?_, ?_⟩
    · simp only [step, c.begin_loggedOut h]
    · simp only [step, Account.credential_loggedOut h]
    · simp only [step, Account.credential_loggedOut h]
  attempt c _ stats := c.runOnce_loggedOut h s.store stats
  series c max _ stats := drain_loggedOut h c max s.store stats
  exportData client := by
    unfold Account.exportData
    rw [Account.credential_loggedOut h]
  eraseData client := by
    unfold Account.erase
    rw [Account.credential_loggedOut h]

/-- The refusal of a credential empties the gate. -/
theorem Refused.loggedOut [LawfulGate γ] (h : s.Refused move) :
    current (s.step move).gate = none := by
  cases h with
  | uploaded hi =>
    simp only [step, hi]
    exact LawfulGate.current_invalidate s.gate
  | exported hi =>
    simp only [step, hi]
    exact LawfulGate.current_invalidate s.gate
  | erased hi =>
    simp only [step, hi]
    exact LawfulGate.current_invalidate s.gate

/-- Without a credential in the gate no move but a login puts one there, and no request is sent. -/
theorem loggedOut_effect [LawfulGate γ] (he : Effect s move s') (h : current s.gate = none)
    (noLogin : NoLogin [move]) :
    current s'.gate = none ∧
      (s'.requests.map Request.carried).Sublist (s.requests.map Request.carried) := by
  have gone (i : Nat) : ((s.requests.eraseIdx i).map Request.carried).Sublist
      (s.requests.map Request.carried) := (List.eraseIdx_sublist _ i).map _
  have told (held : Option Credential) (rs : List Request) :
      (rs.map (Request.after held)).map Request.carried = rs.map Request.carried := List.map_map
  cases he with
  | idle => exact ⟨h, .refl _⟩
  | worked => exact ⟨h, .refl _⟩
  | sent move errand hc =>
    rw [h] at hc
    cases hc
  | @answered i r move store hi => exact ⟨h, gone i⟩
  | dropped move i => exact ⟨h, gone i⟩
  | @refused i r move store hm hi =>
    refine ⟨LawfulGate.current_invalidate s.gate, ?_⟩
    show (((s.requests.eraseIdx i).map (Request.after none)).map Request.carried).Sublist _
    rw [told]
    exact gone i
  | changed gate =>
    have same := told (current gate) s.requests
    exact ⟨noLogin gate (List.mem_singleton_self _), same ▸ .refl _⟩

theorem loggedOut_run [LawfulGate γ] (h : current s.gate = none) (moves : List (Move γ))
    (noLogin : NoLogin moves) :
    current (s.run moves).gate = none ∧
      ((s.run moves).requests.map Request.carried).Sublist (s.requests.map Request.carried) := by
  induction moves generalizing s with
  | nil => exact ⟨h, .refl _⟩
  | cons move moves ih =>
    have now : NoLogin [move] := fun gate hg =>
      noLogin gate (List.mem_cons.mpr (.inl (List.mem_singleton.mp hg)))
    obtain ⟨out, fewer⟩ := loggedOut_effect (step_effect move) h now
    obtain ⟨out', fewer'⟩ := ih out fun gate hg => noLogin gate (List.mem_cons_of_mem move hg)
    exact ⟨out', fewer'.trans fewer⟩

/-- After a request was refused, and until somebody puts another credential into the gate, nothing
that begins sends anything: it reports that there is no session, and changes neither the gate nor
the store. What is on its way then was on its way when the refusal came. -/
theorem silent_after_refusal [LawfulGate γ] (refused : s.Refused move) (moves : List (Move γ))
    (noLogin : NoLogin moves) :
    ((s.step move).run moves).Silent ∧
      (((s.step move).run moves).requests.map Request.carried).Sublist
        ((s.step move).requests.map Request.carried) := by
  obtain ⟨out, fewer⟩ := loggedOut_run refused.loggedOut moves noLogin
  exact ⟨silent_of_loggedOut out, fewer⟩

/-- An erasure is on its way, and by now a directory is in the place of the token file. -/
def displaced : Session FileGate where
  gate := { path := { text := "token" }, files := ⟨.directory [("token", .directory [])]⟩ }
  store := loggedIn.store
  requests := [⟨.eraseData, ⟨"old"⟩, some none⟩]

/-- A batch is refused that was sent with a credential in memory, and an erasure with one in a file
that cannot be removed any more: in both sessions the pending event is not sent. -/
theorem silent_after_refusal_displaced :
    (((loggedIn.step (.attempt default)).step (.uploaded 0 .unauthorized)).run
        [.change {}, .attempt default]).Silent ∧
      ((displaced.step (.erased 0 (.error .unauthorized))).run
        [.exportData, .change (invalidate displaced.gate), .attempt default]).Silent := by
  have noLogin : NoLogin [.change ({} : MemoryGate), .attempt default] := by
    intro gate hg
    obtain rfl : gate = {} := by simpa using hg
    rfl
  have noLogin' : NoLogin [.exportData, .change (invalidate displaced.gate), .attempt default] := by
    intro gate hg
    obtain rfl : gate = invalidate displaced.gate := by simpa using hg
    exact LawfulGate.current_invalidate displaced.gate
  exact ⟨(silent_after_refusal (.uploaded rfl) _ noLogin).1,
    (silent_after_refusal (.erased rfl) _ noLogin').1⟩

end Session

end Outbox
