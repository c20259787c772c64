import Outbox.Event.Basic
import Outbox.Store.Cell

/-!
# Rows

An event is kept in a row of cells, one for each of its fields; the parts of a location and of a
request have cells of their own. A row is read back by the names of its columns.
-/

namespace Outbox

-- Powers are those of numbers, also where a monoid brings its own.
attribute [local instance (high)] instPowNat

/-- The columns beside the number of the record. -/
inductive Column where
  | userId | appName | appUid | protocol | domain | sourceIp | sourcePort | targetIp | targetPort
  | bytesSent | bytesReceived | packetsSent | packetsReceived | startTime | endTime
  | latitude | longitude | httpMethod | httpPath | httpHost | deliveryState
  | duration
  deriving DecidableEq, Repr

namespace Column

/-- All columns, those that are read back in the order in which they are asked for. -/
def all : List Column := [
  .userId, .appName, .appUid, .protocol, .domain, .sourceIp, .sourcePort, .targetIp, .targetPort,
  .bytesSent, .bytesReceived, .packetsSent, .packetsReceived, .startTime, .endTime,
  .latitude, .longitude, .httpMethod, .httpPath, .httpHost, .deliveryState, .duration]

/-- The name of a column. -/
def name : Column → String
  | .userId => "user_id"
  | .appName => "app_name"
  | .appUid => "app_uid"
  | .protocol => "protocol"
  | .domain => "domain"
  | .sourceIp => "src_ip"
  | .sourcePort => "src_port"
  | .targetIp => "dst_ip"
  | .targetPort => "dst_port"
  | .bytesSent => "bytes_tx"
  | .bytesReceived => "bytes_rx"
  | .packetsSent => "packets_tx"
  | .packetsReceived => "packets_rx"
  | .startTime => "start_ts"
  | .endTime => "end_ts"
  | .latitude => "latitude"
  | .longitude => "longitude"
  | .httpMethod => "http_method"
  | .httpPath => "http_path"
  | .httpHost => "http_host"
  | .deliveryState => "delivery_state"
  | .duration => "duration_ms"

/-- The column of a name, in capitals or not. -/
def ofName? (s : String) : Option Column := all.find? fun c => c.name == s.toLower

/-- The name of the column that holds the number of the record. -/
def idName : String := "id"

/-- Whether a name, in capitals or not, means the number of the record. -/
def namesId (s : String) : Bool := [idName, "rowid", "oid", "_rowid_"].contains s.toLower

/-- The place of a column among those that are read back; the number of the record stands first. -/
def index (c : Column) : Nat := all.idxOf c + 1

/-- The kind that a column prefers. -/
def affinity : Column → Affinity
  | .appUid | .sourcePort | .targetPort | .bytesSent | .bytesReceived | .packetsSent
  | .packetsReceived | .startTime | .endTime | .duration => .integer
  | .latitude | .longitude => .real
  | _ => .text

/-- Whether a column may be empty. -/
def nullable : Column → Bool
  | .appName | .domain | .sourceIp | .sourcePort | .targetIp | .targetPort | .latitude | .longitude
  | .httpMethod | .httpPath | .httpHost => true
  | _ => false

end Column

/-- A row of the table of events. -/
structure Row where
  id : RecordId
  cells : Column → Cell

namespace Row

/-- The row with another cell in one column. -/
def set (r : Row) (column : Column) (cell : Cell) : Row :=
  { r with cells := fun c => if c = column then cell else r.cells c }

/-- The row of a new event. -/
def ofEvent (id : RecordId) (e : Event) : Row where
  id := id
  cells
    | .userId => .text e.userId
    | .appName => Cell.ofText? e.appName
    | .appUid => .integer e.appUid.toInt
    | .protocol => .text e.protocol
    | .domain => Cell.ofText? e.domain
    | .sourceIp => Cell.ofText? e.sourceIp
    | .sourcePort => Cell.ofPort? e.sourcePort
    | .targetIp => Cell.ofText? e.targetIp
    | .targetPort => Cell.ofPort? e.targetPort
    | .bytesSent => .integer e.bytesSent.toInt
    | .bytesReceived => .integer e.bytesReceived.toInt
    | .packetsSent => .integer e.packetsSent.toInt
    | .packetsReceived => .integer e.packetsReceived.toInt
    | .startTime => .integer e.startTime.toInt
    | .endTime => .integer e.endTime.toInt
    | .duration => .integer e.duration.toInt
    | .latitude => Cell.ofDouble? (e.location.map (·.latitude))
    | .longitude => Cell.ofDouble? (e.location.map (·.longitude))
    | .httpMethod => Cell.ofText? (e.http.map (·.method))
    | .httpPath => Cell.ofText? (e.http.map (·.path))
    | .httpHost => Cell.ofText? (e.http.bind (·.host))
    | .deliveryState => .text DeliveryState.pending.word

/-- Whether the row waits for its delivery. -/
def isPending (r : Row) : Bool := r.cells .deliveryState = .text DeliveryState.pending.word

/-- The row after its delivery. -/
def deliver (r : Row) : Row := r.set .deliveryState (.text DeliveryState.delivered.word)

/-- The fault of a cell that holds the wrong kind. -/
def wrongKind (r : Row) (c : Column) : DatabaseFault :=
  .wrongKind (r.cells c).kind c.index c.name

/-- The text in a column. -/
def text (r : Row) (c : Column) : Except DatabaseFault String :=
  match r.cells c with
  | .text s => .ok s
  | _ => .error (r.wrongKind c)

/-- The integer in a column. -/
def integer (r : Row) (c : Column) (least greatest : Int) : Except DatabaseFault Int :=
  match r.cells c with
  | .integer n =>
    if least ≤ n ∧ n ≤ greatest then .ok n else .error (.outOfRange n c.index)
  | _ => .error (r.wrongKind c)

/-- The number in a column. -/
def number (r : Row) (c : Column) : Except DatabaseFault Binary64 :=
  match r.cells c with
  | .integer n => .ok (Binary64.ofInt n)
  | .real x => .ok x
  | _ => .error (r.wrongKind c)

/-- What a column holds, if it holds anything. -/
def optional {α : Type} (read : Row → Column → Except DatabaseFault α) (r : Row) (c : Column) :
    Except DatabaseFault (Option α) :=
  match r.cells c with
  | .null => .ok none
  | _ => (read r c).map some

/-- A count or a time. -/
def int64 (r : Row) (c : Column) : Except DatabaseFault Int64 :=
  (r.integer c (-2 ^ (63 : Nat)) (2 ^ (63 : Nat) - 1)).map Int64.ofInt

/-- The number of an application. -/
def int32 (r : Row) (c : Column) : Except DatabaseFault Int32 :=
  (r.integer c (-2 ^ (31 : Nat)) (2 ^ (31 : Nat) - 1)).map Int32.ofInt

/-- A port. -/
def port (r : Row) (c : Column) : Except DatabaseFault UInt16 :=
  (r.integer c 0 (2 ^ (16 : Nat) - 1)).map fun n => UInt16.ofNat n.toNat

/-- The state of the delivery. -/
def state (r : Row) : Except DatabaseFault DeliveryState := do
  let word ← r.text .deliveryState
  match DeliveryState.ofWord? word with
  | some state => return state
  | none => throw (.unknownState word Column.deliveryState.index)

/-- The record of a row, or the fault of the first cell that cannot be read. -/
def toRecord (r : Row) : Except DatabaseFault Record := do
  let latitude ← optional number r .latitude
  let longitude ← optional number r .longitude
  let method ← optional text r .httpMethod
  let path ← optional text r .httpPath
  let state ← r.state
  let location := match latitude, longitude with
    | some latitude, some longitude => some ⟨latitude, longitude⟩
    | _, _ => none
  let http ← match method, path with
    | some method, some path => do
      let host ← optional text r .httpHost
      pure (some ⟨method, path, host⟩)
    | _, _ => pure none
  let userId ← r.text .userId
  let appName ← optional text r .appName
  let appUid ← r.int32 .appUid
  let protocol ← r.text .protocol
  let domain ← optional text r .domain
  let sourceIp ← optional text r .sourceIp
  let sourcePort ← optional port r .sourcePort
  let targetIp ← optional text r .targetIp
  let targetPort ← optional port r .targetPort
  let bytesSent ← r.int64 .bytesSent
  let bytesReceived ← r.int64 .bytesReceived
  let packetsSent ← r.int64 .packetsSent
  let packetsReceived ← r.int64 .packetsReceived
  let startTime ← r.int64 .startTime
  let endTime ← r.int64 .endTime
  return {
    id := r.id
    state := state
    event := {
      userId, appName, appUid, protocol, domain, sourceIp, sourcePort, targetIp, targetPort,
      bytesSent, bytesReceived, packetsSent, packetsReceived, startTime, endTime, location, http } }

end Row

end Outbox
