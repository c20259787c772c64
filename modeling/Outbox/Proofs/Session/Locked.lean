import Outbox.Proofs.Collector.Calls
import Outbox.Proofs.Session.Silence

/-!
# Gates without a session

A gate may have a credential and say that there is no session. An attempt asks it for both, and ends
at once. A download and an erasure ask for the credential only, so that they send it all the same
(`locked_exact`).
-/

namespace Outbox.Account

open CredentialGate
open Http (Conversation Request)

variable {γ : Type} [CredentialGate γ] {gate : γ} {client : Client} {store : Store}

/-! ### What is sent -/

/-- A download sends the credential of the gate, if it can be sent. -/
theorem exportData_asks {request : Request} :
    (exportData client gate).Asks request ↔ ∃ c, current gate = some c ∧ c.isSendable = true ∧
      client.request "GET" Client.exportPath "" c = .ok request := by
  unfold exportData
  rcases Session.credential_cases gate with ⟨none, hc⟩ | ⟨c, hc, some⟩
  · simp [hc, none, Conversation.not_asks_done]
  · rw [hc, some]
    simp only [Conversation.asks_bind, Client.exportData_asks, Option.some.injEq, exists_eq_left']
    refine or_iff_left ?_
    rintro ⟨result, -, asks⟩
    exact Conversation.not_asks_done asks

/-- An erasure sends the credential of the gate, if it can be sent. -/
theorem erase_asks {request : Request} :
    (erase client gate store).Asks request ↔ ∃ c, current gate = some c ∧ c.isSendable = true ∧
      client.request "DELETE" Client.erasePath "" c = .ok request := by
  unfold erase
  rcases Session.credential_cases gate with ⟨none, hc⟩ | ⟨c, hc, some⟩
  · simp [hc, none, Conversation.not_asks_done]
  · rw [hc, some]
    simp only [Conversation.asks_bind, Client.eraseData_asks, Option.some.injEq, exists_eq_left']
    refine or_iff_left ?_
    rintro ⟨result, -, asks⟩
    exact Conversation.not_asks_done asks

/-! ### What is reported -/

/-- A download reports that there is no session only where the gate has no credential. -/
theorem exportData_unauthenticated :
    exportData client gate = .done (.error .unauthenticated, gate) ↔ current gate = none := by
  unfold exportData
  rcases Session.credential_cases gate with ⟨none, hc⟩ | ⟨c, hc, some⟩
  · simp [hc, none]
  · rw [hc, some]
    refine iff_of_false (fun h => ?_) (by simp)
    obtain ⟨result, hr, h⟩ := Conversation.bind_eq_done.mp h
    rcases Client.exportData_done hr with rfl | ⟨fault, rfl⟩
    · cases h
    · cases h

/-- An erasure reports that there is no session only where the gate has no credential. -/
theorem erase_unauthenticated :
    erase client gate store = .done (.error .unauthenticated, gate, store) ↔
      current gate = none := by
  unfold erase
  rcases Session.credential_cases gate with ⟨none, hc⟩ | ⟨c, hc, some⟩
  · simp [hc, none]
  · rw [hc, some]
    refine iff_of_false (fun h => ?_) (by simp)
    obtain ⟨result, hr, h⟩ := Conversation.bind_eq_done.mp h
    rcases Client.eraseData_done hr with rfl | ⟨fault, rfl⟩
    · cases h
    · cases h

/-- While a gate says that there is no session, an attempt reports just this, sends nothing, and
changes neither the gate nor the store. A download and an erasure do the same exactly if the gate
has no credential either. If it has one, they send it wherever a request can be made with it. -/
theorem locked_exact (locked : isAuthenticated gate = false) (client : Client) (store : Store) :
    (∀ {m : Type → Type} [Monad m] [LawfulMonad m] (c : Coordinator)
      (send : Batch → Credential → StateT (Site γ) m Outcome) (stats : SyncStats),
      c.runOnce send ⟨gate, store, stats⟩ =
        pure (.failed .unauthenticated, ⟨gate, store, stats.count (.failed .unauthenticated)⟩)) ∧
    (exportData client gate = .done (.error .unauthenticated, gate) ↔ current gate = none) ∧
    (erase client gate store = .done (.error .unauthenticated, gate, store) ↔
      current gate = none) ∧
    (∀ request, (exportData client gate).Asks request ↔ ∃ c, current gate = some c ∧
      c.isSendable = true ∧ client.request "GET" Client.exportPath "" c = .ok request) ∧
    ∀ request, (erase client gate store).Asks request ↔ ∃ c, current gate = some c ∧
      c.isSendable = true ∧ client.request "DELETE" Client.erasePath "" c = .ok request :=
  ⟨fun c _ stats => c.runOnce_unusable (usable_locked locked) store stats,
    exportData_unauthenticated, erase_unauthenticated, fun _ => exportData_asks,
    fun _ => erase_asks⟩

/-- A gate that has a credential and no session. -/
def locked : ClosedGate := ⟨⟨"unusable"⟩⟩

/-- A client of a collector nearby. -/
def nearby : Client := ⟨"http://[::1]"⟩

theorem locked_exact_closed : isAuthenticated locked = false ∧
    current locked = some ⟨"unusable"⟩ ∧
    exportData nearby locked ≠ .done (.error .unauthenticated, locked) ∧
    erase nearby locked .inMemory ≠ .done (.error .unauthenticated, locked, .inMemory) := by
  have exact := locked_exact (show isAuthenticated locked = false from rfl) nearby .inMemory
  refine ⟨rfl, rfl, fun h => ?_, fun h => ?_⟩
  · exact nomatch exact.2.1.mp h
  · exact nomatch exact.2.2.1.mp h

/-- Without a session, a download sends the credential all the same, and so does an erasure. -/
theorem locked_sends : isAuthenticated locked = false ∧
    ((exportData nearby locked).told .nothing).2.map Request.authorization =
      [["Bearer unusable"]] ∧
    ((erase nearby locked .inMemory).told .nothing).2.map Request.authorization =
      [["Bearer unusable"]] := by
  decide +kernel

end Outbox.Account
