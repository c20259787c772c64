import Outbox.Store.Fault

/-!
# Reports of attempts

How an attempt to upload a batch ends, and the counts of all attempts.
-/

namespace Outbox

/-- Why an attempt has failed. -/
inductive SyncFailure where
  | unauthenticated
  | unauthorized
  | rejected (status : Nat)
  | unreachable (reason : String)
  /-- The local store has failed. -/
  | storage (reason : String)
  /-- The credential cannot be sent. -/
  | invalidCredential (reason : String)
  deriving DecidableEq, Repr

/-- A failure in words. -/
def SyncFailure.message : SyncFailure → String
  | .unauthenticated => "unauthenticated: no credential available"
  | .unauthorized => "unauthorized: collector rejected the credential"
  | .rejected status => "rejected by collector (HTTP " ++ toString status ++ ")"
  | .unreachable reason => "collector unreachable: " ++ reason
  | .storage reason => "local store failed: " ++ reason
  | .invalidCredential reason => "credential cannot be sent: " ++ reason

/-- The end of an attempt. -/
inductive SyncReport where
  /-- Nothing was pending. -/
  | noData
  /-- The batch was acknowledged, and its records are delivered. -/
  | success (delivered : Nat)
  | failed (failure : SyncFailure)
  deriving DecidableEq, Repr, Inhabited

/-- The failure of an attempt that failed. -/
def SyncReport.failure? : SyncReport → Option SyncFailure
  | .failed failure => some failure
  | _ => none

/-- Counts of the attempts that ran to their end. They are numbers without a bound: counters of 64
bits show the same as long as each of them is below `2 ^ 64`. -/
structure SyncStats where
  attempts : Nat := 0
  batchesDelivered : Nat := 0
  eventsDelivered : Nat := 0
  noData : Nat := 0
  unauthenticated : Nat := 0
  unauthorized : Nat := 0
  rejected : Nat := 0
  unreachable : Nat := 0
  storageFailures : Nat := 0
  invalidCredential : Nat := 0
  deriving DecidableEq, Repr, Inhabited

namespace SyncStats

/-- The counts with one more failure. -/
def countFailure (s : SyncStats) : SyncFailure → SyncStats
  | .unauthenticated => { s with unauthenticated := s.unauthenticated + 1 }
  | .unauthorized => { s with unauthorized := s.unauthorized + 1 }
  | .rejected _ => { s with rejected := s.rejected + 1 }
  | .unreachable _ => { s with unreachable := s.unreachable + 1 }
  | .storage _ => { s with storageFailures := s.storageFailures + 1 }
  | .invalidCredential _ => { s with invalidCredential := s.invalidCredential + 1 }

/-- The counts with one more attempt. -/
def count (s : SyncStats) (report : SyncReport) : SyncStats :=
  let s := { s with attempts := s.attempts + 1 }
  match report with
  | .noData => { s with noData := s.noData + 1 }
  | .success delivered =>
    { s with
      batchesDelivered := s.batchesDelivered + 1
      eventsDelivered := s.eventsDelivered + delivered }
  | .failed failure => s.countFailure failure

@[simp] theorem attempts_count (s : SyncStats) (report : SyncReport) :
    (s.count report).attempts = s.attempts + 1 := by
  cases report with
  | failed failure => cases failure <;> rfl
  | _ => rfl

/-- The count of all failures. -/
def failures (s : SyncStats) : Nat :=
  s.unauthenticated + s.unauthorized + s.rejected + s.unreachable + s.storageFailures +
    s.invalidCredential

end SyncStats

end Outbox
