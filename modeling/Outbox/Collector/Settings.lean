import Outbox.Config.Fault

/-!
# Settings of the collector
-/

namespace Outbox

/-- Where the collector is and how it is used. -/
structure CollectorSettings where
  enabled : Bool := false
  serverUrl : Option String := none
  batchSize : Nat := 30
  /-- The time limit for a request in seconds. -/
  timeout : Nat := 30
  autoSync : Bool := true
  deriving DecidableEq, Repr, Inhabited

namespace CollectorSettings

/-- The collector is enabled, and it is said where it is. -/
def isReady (c : CollectorSettings) : Bool := c.enabled && c.serverUrl.isSome

/-- An address of the web. -/
def isHttp (url : String) : Bool :=
  "http://".toList.isPrefixOf url.toList || "https://".toList.isPrefixOf url.toList

/-- Whether the settings can be used, and otherwise the first reason why not. -/
def validate (c : CollectorSettings) : Except ConfigFault Unit :=
  if c.batchSize = 0 ∨ maxBatchSize < c.batchSize then .error .batchSize
  else if c.timeout = 0 then .error .timeout
  else if ! c.enabled then .ok ()
  else
    match c.serverUrl with
    | none => .error .serverRequiredWhenEnabled
    | some url => if isHttp url then .ok () else .error (.notHttp url)

end CollectorSettings

end Outbox
