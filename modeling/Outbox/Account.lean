import Outbox.Collector.Client
import Outbox.Store.Basic

/-!
# The data of a user

What the collector holds of a user can be downloaded, and it can be erased together with the local
store. A refused credential is let go of.
-/

namespace Outbox.Account

open Http (Conversation)

variable {γ : Type} [CredentialGate γ]

/-- The credential for a call. -/
def credential (gate : γ) : Except Error Credential :=
  match CredentialGate.current gate with
  | some c => .ok c
  | none => .error .unauthenticated

/-- The gate after a call with the given result. -/
def observe {α : Type} (result : Except Error α) (gate : γ) : γ :=
  match result with
  | .error .unauthorized => CredentialGate.invalidate gate
  | _ => gate

/-- The end of an erasure: the local store follows the collector. -/
def finishErase (result : Except Error Unit) (gate : γ) (store : Store) :
    Except Error Unit × γ × Store :=
  let gate := observe result gate
  match result with
  | .error e => (.error e, gate, store)
  | .ok () =>
    match store.eraseAll with
    | (.error fault, store) => (.error (.store fault), gate, store)
    | (.ok (), store) => (.ok (), gate, store)

/-- Downloads what the collector holds. -/
def exportData (client : Client) (gate : γ) : Conversation (Except Error Text.Bytes × γ) :=
  match credential gate with
  | .error e => .done (.error e, gate)
  | .ok c => do
    let result ← client.exportData c
    return (result, observe result gate)

/-- Erases what the collector holds, and then the local store. -/
def erase (client : Client) (gate : γ) (store : Store) :
    Conversation (Except Error Unit × γ × Store) :=
  match credential gate with
  | .error e => .done (.error e, gate, store)
  | .ok c => do
    let result ← client.eraseData c
    return finishErase result gate store

end Outbox.Account
