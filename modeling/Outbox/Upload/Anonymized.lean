import Outbox.Event.Format
import Outbox.Json.Print

/-!
# What is told of an event

The part of an event that leaves the device: digests in the place of names and addresses, a
rounded position, and the rest as it is. Its JSON object has all sixteen members, with `null` for
what is absent.
-/

namespace Outbox

/-- An event without what identifies its user. -/
structure AnonymizedEvent where
  userHash : String
  appName : Option String
  appUid : Int32
  protocol : String
  domainHash : Option String
  targetIpHash : Option String
  targetPort : Option UInt16
  bytesSent : Int64
  bytesReceived : Int64
  packetsSent : Int64
  packetsReceived : Int64
  startTime : Int64
  endTime : Int64
  duration : Int64
  latitude : Option Binary64
  longitude : Option Binary64
  deriving DecidableEq, Repr, Inhabited

namespace AnonymizedEvent

open Json

/-- The members of the object, in order. -/
def members (e : AnonymizedEvent) : List (String × List Char) := [
  ("user_hash", printText e.userHash),
  ("app_name", printOption printText e.appName),
  ("app_uid", printInt e.appUid.toInt),
  ("protocol", printText e.protocol),
  ("domain_hash", printOption printText e.domainHash),
  ("dst_ip_hash", printOption printText e.targetIpHash),
  ("dst_port", printOption (fun p : UInt16 => printInt p.toNat) e.targetPort),
  ("bytes_tx", printInt e.bytesSent.toInt),
  ("bytes_rx", printInt e.bytesReceived.toInt),
  ("packets_tx", printInt e.packetsSent.toInt),
  ("packets_rx", printInt e.packetsReceived.toInt),
  ("start_ts", printInt e.startTime.toInt),
  ("end_ts", printInt e.endTime.toInt),
  ("duration_ms", printInt e.duration.toInt),
  ("latitude", printOption printDouble e.latitude),
  ("longitude", printOption printDouble e.longitude)]

/-- The JSON text of an event. -/
def print (e : AnonymizedEvent) : List Char := printObject e.members

/-- How an anonymized event is read. -/
def shape : Shape AnonymizedEvent where
  name := "AnonymizedEvent"
  blank := default
  fields := [
    .needed "user_hash" text fun x e => { e with userHash := x },
    .nullable "app_name" text fun x e => { e with appName := x },
    .needed "app_uid" int32 fun x e => { e with appUid := x },
    .needed "protocol" text fun x e => { e with protocol := x },
    .nullable "domain_hash" text fun x e => { e with domainHash := x },
    .nullable "dst_ip_hash" text fun x e => { e with targetIpHash := x },
    .nullable "dst_port" uint16 fun x e => { e with targetPort := x },
    .needed "bytes_tx" int64 fun x e => { e with bytesSent := x },
    .needed "bytes_rx" int64 fun x e => { e with bytesReceived := x },
    .needed "packets_tx" int64 fun x e => { e with packetsSent := x },
    .needed "packets_rx" int64 fun x e => { e with packetsReceived := x },
    .needed "start_ts" int64 fun x e => { e with startTime := x },
    .needed "end_ts" int64 fun x e => { e with endTime := x },
    .needed "duration_ms" int64 fun x e => { e with duration := x },
    .nullable "latitude" double fun x e => { e with latitude := x },
    .nullable "longitude" double fun x e => { e with longitude := x }]

/-- The anonymized event that a text spells. -/
def ofJson (text : String) : Except Fault AnonymizedEvent := shape.decode text

end AnonymizedEvent

end Outbox
