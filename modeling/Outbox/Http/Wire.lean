import Outbox.Http.Exchange
import Outbox.Text.Blank
import Outbox.Text.Hex
import Outbox.Text.Split

/-!
# Messages on the network

The bytes of a request, and the reply that bytes spell: a line with the status, headers, and a body
whose end is told by a length, by pieces that each tell theirs, or by the end of the connection.
-/

namespace Outbox.Http

open Text (Bytes)

/-! ### Requests -/

/-- The server of an address, with its port if it is not the usual one. -/
def Url.server (u : Url) : String :=
  u.host ++ (match u.port with
    | some p => ":" ++ toString p
    | none => "")

/-- The port of an address. -/
def Url.portNumber (u : Url) : Nat := u.port.getD (if u.secure then 443 else 80)

/-- The headers of a request. -/
def Request.headers (r : Request) : List (String × String) :=
  [("host", r.url.server), ("accept", "*/*")] ++ r.authorization.map (("authorization", ·)) ++
    [("content-type", r.contentType), ("content-length", toString (Text.encode r.body).length),
      ("connection", "close")]

/-- The bytes of a request. -/
def Request.bytes (r : Request) : Bytes :=
  let lines := r.line :: r.headers.map fun h => h.1 ++ ": " ++ h.2
  Text.encode (String.join (lines.map (· ++ "\r\n")) ++ "\r\n" ++ r.body)

/-! ### Replies -/

/-- The first line of a message, without its end, and what follows. -/
def takeLine (bs : Bytes) : Option (String × Bytes) :=
  match bs.dropWhile (· != 10) with
  | [] => none
  | _ :: rest =>
    let line := Text.decodeLossy (bs.takeWhile (· != 10))
    some (String.ofList (line.toList.reverse.dropWhile (· == '\r')).reverse, rest)

/-- The lines up to an empty one, and what follows it. The first argument bounds their number. -/
def takeLines : Nat → Bytes → Option (List String × Bytes)
  | 0, _ => none
  | n + 1, bs => do
    let (line, bs) ← takeLine bs
    if line.isEmpty then return ([], bs)
    else
      let (lines, bs) ← takeLines n bs
      return (line :: lines, bs)

/-- The name and the value of a header. -/
def header (line : String) : String × String :=
  let cs := line.toList
  let name := cs.takeWhile (· != ':')
  (String.ofList (name.map Char.toLower), Text.trim (String.ofList (cs.drop (name.length + 1))))

/-- The status in the first line of a reply. -/
def statusOf? (line : String) : Option Status :=
  match Text.splitOn ' ' line.toList with
  | version :: code :: _ =>
    if "HTTP/1.".toList.isPrefixOf version ∧ code.all Char.isDigit then
      Status.ofNat? (Nat.ofDigitChars 10 code 0)
    else none
  | _ => none

/-- The bytes of pieces that each tell their length, and whether the last piece is there. The first
argument bounds their number. -/
def joinPieces : Nat → Bytes → Bytes × Bool
  | 0, _ => ([], false)
  | n + 1, bs =>
    match takeLine bs with
    | none => ([], false)
    | some (line, bs) =>
      match Text.numberOfHex? (line.toList.takeWhile fun c => (Text.hexValue c).isSome) with
      | none => ([], false)
      | some 0 => ([], true)
      | some size =>
        if bs.length < size then (bs, false)
        else
          let (rest, complete) := joinPieces n ((bs.drop size).dropWhile fun b => b = 13 ∨ b = 10)
          (bs.take size ++ rest, complete)

/-- The body in the bytes after headers, and whether it is there as a whole. Without a length it goes
on to the end of the connection. -/
def bodyOf? (headers : List (String × String)) (bs : Bytes) : Option (Bytes × Bool) :=
  match headers.lookup "transfer-encoding", headers.lookup "content-length" with
  | some _, _ => some (joinPieces (bs.length + 1) bs)
  | none, some length => length.toNat?.map fun size => (bs.take size, decide (size ≤ bs.length))
  | none, none => some (bs, true)

/-- The reply that bytes spell, after those that only announce one. The first argument bounds their
number. -/
def replyIn : Nat → Bytes → Reply
  | 0, _ => .nothing
  | n + 1, bs =>
    match takeLines (bs.length + 1) bs with
    | some (first :: lines, rest) =>
      match statusOf? first with
      | none => .nothing
      | some status =>
        if status.isInterim then replyIn n rest
        else
          match bodyOf? (lines.map header) rest with
          | none => .nothing
          | some (body, complete) => .final status body complete
    | _ => .nothing

/-- The reply that all bytes of a connection spell. -/
def Reply.ofBytes (bs : Bytes) : Reply := replyIn (bs.length + 1) bs

end Outbox.Http
