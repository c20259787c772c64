import Outbox.Collector.Fault
import Outbox.Config.Fault
import Outbox.Json.Fault
import Outbox.Store.Fault

/-!
# Errors

Everything that an operation of the library can fail with.
-/

namespace Outbox

/-- The failure of an operation. -/
inductive Error where
  | store (fault : StoreFault)
  | file (fault : FileFault)
  | json (fault : Json.Fault)
  | config (fault : ConfigFault)
  /-- There is no credential for a call to the collector. -/
  | unauthenticated
  /-- The collector has refused the credential. -/
  | unauthorized
  | collector (fault : CollectorFault)
  deriving DecidableEq, Repr

namespace Error

/-- The message of a failure. -/
def message : Error → String
  | .store fault => fault.message
  | .file fault => "IO error: " ++ fault.message
  | .json fault => "JSON error: " ++ fault.message
  | .config fault => "configuration error: " ++ fault.message
  | .unauthenticated => "not authenticated"
  | .unauthorized => "credential rejected by collector"
  | .collector fault => "collector error: " ++ fault.message

/-- The failure comes from the local store. -/
def isStorage : Error → Bool
  | .store _ => true
  | _ => false

end Error

end Outbox
