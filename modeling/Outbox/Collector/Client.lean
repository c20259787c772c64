import Outbox.Collector.Outcome
import Outbox.Collector.Settings
import Outbox.Credential.Basic
import Outbox.Error
import Outbox.Http.Exchange
import Outbox.Upload.Batch

/-!
# The client of the collector

Three calls, each with the credential of the user: one uploads a batch, one downloads what the
collector holds of the user, one erases it.
-/

namespace Outbox

open Http (Conversation Reply Request Url)

/-- A client for the collector at an address. -/
structure Client where
  /-- The address without slashes at its end. -/
  baseUrl : String
  deriving DecidableEq, Repr

namespace Client

/-- An address without slashes at its end. -/
def withoutSlashes (url : String) : String :=
  String.ofList (url.toList.reverse.dropWhile (· == '/')).reverse

/-- The client for settings that can be used. -/
def ofSettings (c : CollectorSettings) : Except ConfigFault Client :=
  match c.validate with
  | .error e => .error e
  | .ok () =>
    match c.serverUrl with
    | none => .error .serverRequired
    | some url => .ok ⟨withoutSlashes url⟩

/-- Where batches are uploaded. -/
def batchPath : String := "/network-requests/batch"

/-- Where the data of the user are downloaded. -/
def exportPath : String := "/network-requests/me/data/export"

/-- Where the data of the user are erased. -/
def erasePath : String := "/network-requests/me/data"

/-- A request, or why it cannot be made. -/
def request (client : Client) (method path body : String) (credential : Credential) :
    Except RequestFault Request :=
  match Url.ofText? (client.baseUrl ++ path) with
  | none => .error .badAddress
  | some url =>
    if url.isRequestable then
      .ok {
        method, url, body
        authorization := url.credentials ++ ["Bearer " ++ credential.token]
        contentType := "application/json" }
    else .error (.unrequestable url.text)

/-- Makes a request and goes on with the answer, or with the reason why there is none. -/
def call {α : Type} (client : Client) (method path body : String) (credential : Credential)
    (failed : RequestFault → α) (answered : Http.Status → Text.Bytes → Bool → α) :
    Conversation α :=
  match client.request method path body credential with
  | .error e => .done (failed e)
  | .ok request =>
    .ask request fun
      | .nothing => .done (failed (.noAnswer request.url.text))
      | .answer status body complete => .done (answered status body complete)

/-- Uploads a batch. The body of the answer does not matter. -/
def sendBatch (client : Client) (batch : Batch) (credential : Credential) :
    Conversation Outcome :=
  if credential.isSendable then
    client.call "POST" batchPath batch.bodyText credential
      (fun fault => .unreachable fault.message) (fun status _ _ => .ofStatus status)
  else .done (.invalidCredential (Error.config .badCredential).message)

/-- The body of a successful answer, or the error that another answer means. -/
def checked (status : Http.Status) (body : Text.Bytes) (complete : Bool) :
    Except Error (Text.Bytes × Bool) :=
  if status.isSuccess then .ok (body, complete)
  else if status.isUnauthorized then .error .unauthorized
  else
    .error (.collector (.refused status (if complete then Text.decodeLossy body else "unknown")))

/-- Downloads what the collector holds of the user. -/
def exportData (client : Client) (credential : Credential) :
    Conversation (Except Error Text.Bytes) :=
  if credential.isSendable then
    client.call "GET" exportPath "" credential (fun fault => .error (.collector (.request fault)))
      fun status body complete =>
        match checked status body complete with
        | .error e => .error e
        | .ok (body, true) => .ok body
        | .ok (_, false) => .error (.collector .brokenBody)
  else .done (.error (.config .badCredential))

/-- Erases what the collector holds of the user. -/
def eraseData (client : Client) (credential : Credential) : Conversation (Except Error Unit) :=
  if credential.isSendable then
    client.call "DELETE" erasePath "" credential (fun fault => .error (.collector (.request fault)))
      fun status body complete => (checked status body complete).map fun _ => ()
  else .done (.error (.config .badCredential))

end Client

end Outbox
