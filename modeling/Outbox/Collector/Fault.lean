import Outbox.Http.Status

/-!
# What can go wrong with the collector
-/

namespace Outbox

/-- Why a request has no answer. -/
inductive RequestFault where
  /-- The address is not one. -/
  | badAddress
  /-- No request can be made for the address. -/
  | unrequestable (url : String)
  /-- Nobody has answered at the address. -/
  | noAnswer (url : String)
  deriving DecidableEq, Repr

/-- The reason in words. -/
def RequestFault.message : RequestFault → String
  | .badAddress => "HTTP request failed: builder error"
  | .unrequestable url => "HTTP request failed: builder error for url (" ++ url ++ ")"
  | .noAnswer url => "HTTP request failed: error sending request for url (" ++ url ++ ")"

/-- The failure of a call to the collector. -/
inductive CollectorFault where
  | request (fault : RequestFault)
  /-- The answer breaks off. -/
  | brokenBody
  /-- The collector refuses, with a text. -/
  | refused (status : Http.Status) (body : String)
  | other (reason : String)
  deriving DecidableEq, Repr

/-- The failure in words. -/
def CollectorFault.message : CollectorFault → String
  | .request fault => fault.message
  | .brokenBody => "failed to read response: error decoding response body"
  | .refused status body => "API error (" ++ status.text ++ "): " ++ body
  | .other reason => reason

end Outbox
