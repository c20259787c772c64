import Outbox.Collector.Client
import Outbox.Proofs.Http.Conversation

/-!
# Calls to the collector

What each of the three calls asks of the collector: a call whose credential a header can carry makes
its one request, if there is one for its address, and otherwise none (`guarded_asks`).
-/

namespace Outbox.Client

open Http (Conversation Reply Request)

variable {client : Client} {credential : Credential} {request : Request}

theorem not_isSuccess {status : Http.Status} (h : status.isUnauthorized = true) :
    status.isSuccess = false := by
  have code : status.code = 401 := of_decide_eq_true h
  simp [Http.Status.isSuccess, code]

theorem call_asks {α : Type} {method path body : String} {failed : RequestFault → α}
    {answered : Http.Status → Text.Bytes → Bool → α} :
    (client.call method path body credential failed answered).Asks request ↔
      client.request method path body credential = .ok request := by
  unfold call
  cases client.request method path body credential with
  | error fault => simp [Conversation.not_asks_done]
  | ok made => simp

theorem call_done {α : Type} {method path body : String} {failed : RequestFault → α}
    {answered : Http.Status → Text.Bytes → Bool → α} {a : α}
    (h : client.call method path body credential failed answered = .done a) :
    ∃ fault, a = failed fault := by
  unfold call at h
  cases hr : client.request method path body credential with
  | error fault =>
    rw [hr] at h
    cases h
    exact ⟨fault, rfl⟩
  | ok made =>
    rw [hr] at h
    cases h

theorem guarded_asks {α : Type} {method path body : String} {refused : α}
    {failed : RequestFault → α} {answered : Http.Status → Text.Bytes → Bool → α} :
    (if credential.isSendable then
      client.call method path body credential failed answered else .done refused).Asks request ↔
        credential.isSendable = true ∧ client.request method path body credential = .ok request := by
  split
  · next h => rw [call_asks, h, eq_self, true_and]
  · next h => simp [h, Conversation.not_asks_done]

theorem exportData_asks :
    (client.exportData credential).Asks request ↔ credential.isSendable = true ∧
      client.request "GET" exportPath "" credential = .ok request :=
  guarded_asks

theorem eraseData_asks :
    (client.eraseData credential).Asks request ↔ credential.isSendable = true ∧
      client.request "DELETE" erasePath "" credential = .ok request :=
  guarded_asks

/-- A download that sends nothing has failed over its credential or its address. -/
theorem exportData_done {result : Except Error Text.Bytes}
    (h : client.exportData credential = .done result) :
    result = .error (.config .badCredential) ∨
      ∃ fault, result = .error (.collector (.request fault)) := by
  unfold exportData at h
  split at h
  · exact .inr (call_done h)
  · cases h
    exact .inl rfl

/-- An erasure that sends nothing has failed over its credential or its address. -/
theorem eraseData_done {result : Except Error Unit}
    (h : client.eraseData credential = .done result) :
    result = .error (.config .badCredential) ∨
      ∃ fault, result = .error (.collector (.request fault)) := by
  unfold eraseData at h
  split at h
  · exact .inr (call_done h)
  · cases h
    exact .inl rfl

end Outbox.Client
