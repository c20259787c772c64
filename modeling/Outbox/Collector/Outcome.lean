import Outbox.Http.Status

/-!
# Outcomes of an upload
-/

namespace Outbox

/-- What has become of a batch that was sent. -/
inductive Outcome where
  /-- The collector has stored the whole batch. -/
  | delivered
  /-- The collector has refused the credential. -/
  | unauthorized
  /-- The collector has refused the batch. -/
  | rejected (status : Nat)
  /-- There was no answer. -/
  | unreachable (reason : String)
  /-- The credential cannot be sent; nothing was. -/
  | invalidCredential (reason : String)
  deriving DecidableEq, Repr, Inhabited

/-- The outcome for an answer with a status. -/
def Outcome.ofStatus (s : Http.Status) : Outcome :=
  if s.isSuccess then .delivered
  else if s.isUnauthorized then .unauthorized
  else .rejected s.code

end Outbox
