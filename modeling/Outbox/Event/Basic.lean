import Outbox.Binary64.Basic
import Outbox.Calendar
import Outbox.Text.Blank

/-!
# Connection events

A closed network connection as it is observed on the device, and the record of it that a store
keeps: the event with the number the store gave it and the state of its delivery.
-/

namespace Outbox

-- Powers are those of numbers, also where a monoid brings its own.
attribute [local instance (high)] instPowNat

/-- A position in degrees. -/
structure GeoPoint where
  latitude : Binary64
  longitude : Binary64
  deriving DecidableEq, Repr, Inhabited

/-- Both coordinates are finite. -/
def GeoPoint.isFinite (p : GeoPoint) : Bool := p.latitude.isFinite && p.longitude.isFinite

/-- What can be seen of a request when HTTP is not encrypted. -/
structure HttpRequest where
  method : String
  path : String
  host : Option String
  deriving DecidableEq, Repr, Inhabited

/-- A closed connection. The times are milliseconds from the start of 1970. -/
structure Event where
  userId : String := ""
  appName : Option String := none
  appUid : Int32
  protocol : String
  domain : Option String := none
  sourceIp : Option String := none
  sourcePort : Option UInt16 := none
  targetIp : Option String := none
  targetPort : Option UInt16 := none
  bytesSent : Int64 := 0
  bytesReceived : Int64 := 0
  packetsSent : Int64 := 0
  packetsReceived : Int64 := 0
  startTime : Int64
  endTime : Int64
  location : Option GeoPoint := none
  http : Option HttpRequest := none
  deriving DecidableEq, Repr, Inhabited

namespace Event

/-- The time from the start to the end in milliseconds. It is zero for an end before the start,
and never more than the largest integer of 64 bits. -/
def duration (e : Event) : Int64 :=
  Int64.ofInt (max 0 (min (e.endTime.toInt - e.startTime.toInt) (2 ^ (63 : Nat) - 1)))

/-- The calendar time of the start. -/
def startedAt? (e : Event) : Option CivilTime := CivilTime.ofMillis? e.startTime.toInt

/-- A letter from `A` to `Z` in lower case, any other character as it is. -/
def lowered (c : Char) : Char :=
  if 'A'.toNat ≤ c.toNat ∧ c.toNat ≤ 'Z'.toNat then Char.ofNat (c.toNat + 32) else c

/-- The protocol is HTTP without encryption, in any version. Case and blanks at the ends do not
matter. -/
def isCleartextHttp (e : Event) : Bool :=
  let label := (Text.trimChars e.protocol.toList).map lowered
  label == "http".toList || "http/".toList.isPrefixOf label

end Event

/-- The number of a record. -/
abbrev RecordId := Int

/-- Whether the collector has acknowledged a record. -/
inductive DeliveryState where
  | pending
  | delivered
  deriving DecidableEq, Repr, Inhabited

namespace DeliveryState

/-- The word for a state. -/
def word : DeliveryState → String
  | .pending => "pending"
  | .delivered => "delivered"

/-- The state that a word stands for. -/
def ofWord? (s : String) : Option DeliveryState :=
  if s = "pending" then some .pending
  else if s = "delivered" then some .delivered
  else none

end DeliveryState

/-- An event in a store. -/
structure Record where
  id : RecordId
  state : DeliveryState
  event : Event
  deriving DecidableEq, Repr, Inhabited

/-- Whether a record still waits for its delivery. -/
def Record.isPending (r : Record) : Bool := r.state = .pending

end Outbox
