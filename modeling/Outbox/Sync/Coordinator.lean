import Outbox.Collector.Outcome
import Outbox.Credential.Basic
import Outbox.Store.Basic
import Outbox.Sync.Report
import Outbox.Upload.Batch

/-!
# Attempts

An attempt takes the oldest pending records, sends them, and marks them as delivered when the
collector has acknowledged them. It has two steps, before and after the batch is on its way, and
the store and the gate may change in between. Nothing is retried.
-/

namespace Outbox

/-- Who makes attempts: how many records go into a batch, and how they are anonymized. -/
structure Coordinator where
  limit : Nat := 30
  limit_pos : 0 < limit := by decide
  anonymizer : Anonymizer := .standard

namespace Coordinator

/-- A coordinator with a limit, where none counts as one. -/
def ofLimit (limit : Nat) (anonymizer : Anonymizer) : Coordinator where
  limit := max limit 1
  limit_pos := by omega
  anonymizer := anonymizer

instance : Inhabited Coordinator := ⟨{}⟩

end Coordinator

/-- An attempt whose batch is on its way. -/
structure Attempt where
  batch : Batch
  credential : Credential
  deriving DecidableEq, Repr

variable {γ : Type} [CredentialGate γ]

/-- The first step: an attempt with a batch that is to be sent, or the report of one that ends
before. -/
def Coordinator.begin (c : Coordinator) (gate : γ) (store : Store) : Except SyncReport Attempt :=
  match CredentialGate.usable gate with
  | none => .error (.failed .unauthenticated)
  | some credential =>
    match store.selectPending c.limit with
    | .error fault => .error (.failed (.storage fault.message))
    | .ok [] => .error .noData
    | .ok records => .ok ⟨Batch.assemble c.anonymizer records, credential⟩

/-- The second step: what an attempt does when the outcome of its batch is known. -/
def Attempt.finish (a : Attempt) (outcome : Outcome) (gate : γ) (store : Store) :
    SyncReport × γ × Store :=
  match outcome with
  | .delivered =>
    match store.markDelivered a.batch.ids with
    | (.ok _, store) => (.success a.batch.size, gate, store)
    | (.error fault, store) => (.failed (.storage fault.message), gate, store)
  | .unauthorized => (.failed .unauthorized, CredentialGate.invalidate gate, store)
  | .rejected status => (.failed (.rejected status), gate, store)
  | .unreachable reason => (.failed (.unreachable reason), gate, store)
  | .invalidCredential reason => (.failed (.invalidCredential reason), gate, store)

/-- What an attempt works on. -/
structure Site (γ : Type) where
  gate : γ
  store : Store
  stats : SyncStats := {}

/-- One attempt from its beginning to its end. `send` carries the batch, and may change the site. -/
def Coordinator.runOnce {m : Type → Type} [Monad m] (c : Coordinator)
    (send : Batch → Credential → StateT (Site γ) m Outcome) : StateT (Site γ) m SyncReport := do
  let site ← get
  match c.begin site.gate site.store with
  | .error report =>
    modify fun site => { site with stats := site.stats.count report }
    return report
  | .ok attempt =>
    let outcome ← send attempt.batch attempt.credential
    modifyGet fun site =>
      let (report, gate, store) := attempt.finish outcome site.gate site.store
      (report, { gate, store, stats := site.stats.count report })

/-- The end of a series of attempts. Like those of `SyncStats`, its counts have no bound, and
counters of 64 bits show the same below `2 ^ 64`. -/
structure DrainReport where
  /-- How many batches were acknowledged. -/
  batches : Nat
  /-- How many records they had. -/
  delivered : Nat
  /-- The report of the last attempt. -/
  last : SyncReport
  deriving DecidableEq, Repr

/-- Makes attempts until one does not succeed or `max` batches, though at least one, went
through. -/
def drain {m : Type → Type} [Monad m] (attempt : m SyncReport) (max : Nat) : m DrainReport :=
  go 0 0 (max - 1)
where
  /-- The attempts after `batches` batches, with at most `rest` more after the next one. -/
  go (batches delivered : Nat) : Nat → m DrainReport
    | 0 => do
      match ← attempt with
      | .success n => return ⟨batches + 1, delivered + n, .success n⟩
      | last => return ⟨batches, delivered, last⟩
    | rest + 1 => do
      match ← attempt with
      | .success n => go (batches + 1) (delivered + n) rest
      | last => return ⟨batches, delivered, last⟩

end Outbox
