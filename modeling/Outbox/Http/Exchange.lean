import Outbox.Http.Status
import Outbox.Http.Url
import Outbox.Text.Base64

/-!
# Requests and replies

What goes over the network, and computations that ask questions there. Such a computation either
is done or has a request to make and goes on with the reply, so that it can be run against any
server, or against a list of replies.
-/

namespace Outbox.Http

/-- A request. -/
structure Request where
  method : String
  url : Url
  /-- The values of the header by which the user is known. -/
  authorization : List String
  contentType : String
  body : String
  deriving DecidableEq, Repr

/-- The first line of a request. -/
def Request.line (r : Request) : String := r.method ++ " " ++ r.url.target ++ " HTTP/1.1"

/-- What comes back. -/
inductive Reply where
  /-- The connection fails, or what comes back is not an answer. -/
  | nothing
  /-- An answer, whose body may break off. -/
  | answer (status : Status) (body : Text.Bytes) (complete : Bool)
  deriving DecidableEq, Repr

/-- The reply that a status and the bytes after it mean, if nothing more comes. What only announces
an answer is none, and some answers have no body whatever is sent after them. -/
def Reply.final (status : Status) (body : Text.Bytes) (complete : Bool) : Reply :=
  if status.isInterim then .nothing
  else if status.isBodyless then .answer status [] true
  else .answer status body complete

/-- A computation that makes requests. -/
inductive Conversation (α : Type) where
  | done (result : α)
  | ask (request : Request) (next : Reply → Conversation α)

namespace Conversation

/-- A computation followed by another one. -/
def andThen {α β : Type} : Conversation α → (α → Conversation β) → Conversation β
  | .done a, f => f a
  | .ask request next, f => .ask request fun reply => (next reply).andThen f

instance : Monad Conversation where
  pure := .done
  bind := andThen

/-- Runs a computation against a server with a state. -/
def run {α σ : Type} (serve : Request → σ → Reply × σ) : Conversation α → σ → α × σ
  | .done a, server => (a, server)
  | .ask request next, server =>
    let (reply, server) := serve request server
    (next reply).run serve server

end Conversation

/-- The values by which a user named in an address is known. -/
def Url.credentials (u : Url) : List String :=
  let plain (s : String) : String := Text.decodeLossy (Percent.decode s.toList)
  if u.user = "" ∧ u.password.isNone then []
  else
    let both := plain u.user ++ ":" ++ (u.password.map plain).getD ""
    ["Basic " ++ String.ofList (Text.base64 (Text.encode both))]

end Outbox.Http
