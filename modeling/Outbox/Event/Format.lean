import Outbox.Event.Basic
import Outbox.Json.Shape

/-!
# The import format

An event is a JSON object with one member per field. Who the user is, all that is optional and the
four counters may be left out.
-/

namespace Outbox

open Json (Shape)

/-- How a position is written. -/
def GeoPoint.shape : Shape GeoPoint where
  name := "GeoPoint"
  blank := default
  fields := [
    .needed "latitude" Json.double fun x p => { p with latitude := x },
    .needed "longitude" Json.double fun x p => { p with longitude := x }]

/-- How the request is written. -/
def HttpRequest.shape : Shape HttpRequest where
  name := "HttpRequestInfo"
  blank := default
  fields := [
    .needed "method" Json.text fun x r => { r with method := x },
    .needed "path" Json.text fun x r => { r with path := x },
    .defaulted "host" (Json.optional Json.text) fun x r => { r with host := x }]

/-- How an event is written. -/
def Event.shape : Shape Event where
  name := "RawConnectionEvent"
  blank := { appUid := 0, protocol := "", startTime := 0, endTime := 0 }
  fields := [
    .defaulted "user_id" Json.text fun x e => { e with userId := x },
    .defaulted "app_name" (Json.optional Json.text) fun x e => { e with appName := x },
    .needed "app_uid" Json.int32 fun x e => { e with appUid := x },
    .needed "protocol" Json.text fun x e => { e with protocol := x },
    .defaulted "domain" (Json.optional Json.text) fun x e => { e with domain := x },
    .defaulted "src_ip" (Json.optional Json.text) fun x e => { e with sourceIp := x },
    .defaulted "src_port" (Json.optional Json.uint16) fun x e => { e with sourcePort := x },
    .defaulted "dst_ip" (Json.optional Json.text) fun x e => { e with targetIp := x },
    .defaulted "dst_port" (Json.optional Json.uint16) fun x e => { e with targetPort := x },
    .defaulted "bytes_tx" Json.int64 fun x e => { e with bytesSent := x },
    .defaulted "bytes_rx" Json.int64 fun x e => { e with bytesReceived := x },
    .defaulted "packets_tx" Json.int64 fun x e => { e with packetsSent := x },
    .defaulted "packets_rx" Json.int64 fun x e => { e with packetsReceived := x },
    .needed "start_ts" Json.int64 fun x e => { e with startTime := x },
    .needed "end_ts" Json.int64 fun x e => { e with endTime := x },
    .defaulted "location" (Json.optional GeoPoint.shape.read) fun x e => { e with location := x },
    .defaulted "http" (Json.optional HttpRequest.shape.read) fun x e => { e with http := x }]

/-- The event that a text spells. -/
def Event.ofJson (text : String) : Except Json.Fault Event := Event.shape.decode text

/-- The number of a record that a text spells. -/
def RecordId.ofJson (text : String) : Except Json.Fault RecordId :=
  (Json.whole Json.int64 text.toList).map Int64.toInt

/-- The state that a string of a JSON text stands for. -/
def DeliveryState.ofMember (word : String) : Except Json.Fault DeliveryState :=
  match DeliveryState.ofWord? word with
  | some state => .ok state
  | none => .error (.unknownWord word "pending" "delivered")

end Outbox
