import Outbox.Files.Fault
import Outbox.Text.Quoted

/-!
# What can be wrong with a configuration
-/

namespace Outbox

/-- The largest number of events in a batch. -/
def maxBatchSize : Nat := 500

/-- The reason why a configuration cannot be used. -/
inductive ConfigFault where
  | batchSize
  | timeout
  /-- The collector is enabled, but it is not said where it is. -/
  | serverRequiredWhenEnabled
  | serverRequired
  | notHttp (url : String)
  | unreadable (path : String) (fault : FileFault)
  | malformed
  /-- A credential that no request can carry. -/
  | badCredential
  | other (reason : String)
  deriving DecidableEq, Repr

/-- The reason in words. -/
def ConfigFault.message : ConfigFault → String
  | .batchSize => "collector.batch_size must be between 1 and " ++ toString maxBatchSize
  | .timeout => "collector.timeout_secs must be greater than zero"
  | .serverRequiredWhenEnabled => "collector.server_url is required when collector is enabled"
  | .serverRequired => "collector.server_url is required"
  | .notHttp url => "collector.server_url must be an http(s) URL, got " ++ Text.quoted url
  | .unreadable path fault =>
    "failed to read config file " ++ Text.quoted path ++ ": " ++ fault.message
  | .malformed => "failed to parse config"
  | .badCredential => "invalid credential: failed to parse header value"
  | .other reason => reason

end Outbox
