import Outbox.Proofs.Results
import Outbox.Store.Basic

/-!
# Rows read back

The row of a record, and what reading it gives: the record as it was put in, but for what a column
of doubles cannot hold. A NaN is not kept, so a position with one is gone, and a zero is kept
without its sign (`toRecord_ofRecord`). The delivery of a row is the delivery of its record.
-/

namespace Outbox

/-- What a store keeps of a double. -/
def Binary64.kept? (x : Binary64) : Option Binary64 :=
  if x.isNaN then none else some (if x.isZero then zero false else x)

/-- What a store keeps of a position. -/
def GeoPoint.kept? (p : GeoPoint) : Option GeoPoint :=
  match p.latitude.kept?, p.longitude.kept? with
  | some latitude, some longitude => some ⟨latitude, longitude⟩
  | _, _ => none

/-- What a store keeps of an event. -/
def Event.kept (e : Event) : Event := { e with location := e.location.bind GeoPoint.kept? }

namespace Record

/-- What a store keeps of a record. -/
def kept (r : Record) : Record := { r with event := r.event.kept }

/-- The record after its delivery. -/
def deliver (r : Record) : Record := { r with state := .delivered }

@[simp] theorem kept_id (r : Record) : r.kept.id = r.id := rfl

@[simp] theorem kept_event (r : Record) : r.kept.event = r.event.kept := rfl

@[simp] theorem deliver_id (r : Record) : r.deliver.id = r.id := rfl

@[simp] theorem deliver_event (r : Record) : r.deliver.event = r.event := rfl

@[simp] theorem deliver_state (r : Record) : r.deliver.state = .delivered := rfl

theorem isPending_iff {r : Record} : r.isPending = true ↔ r.state = .pending := by
  simp [isPending]

theorem not_isPending_iff {r : Record} : r.isPending = false ↔ r.state = .delivered := by
  cases h : r.state <;> simp [isPending, h]

end Record

namespace Row

/-- The row of a record. -/
def ofRecord (r : Record) : Row :=
  (ofEvent r.id r.event).set .deliveryState (.text r.state.word)

@[simp] theorem ofRecord_id (r : Record) : (ofRecord r).id = r.id := rfl

/-- A new row is that of a pending record. -/
theorem ofEvent_eq (id : RecordId) (e : Event) : ofEvent id e = ofRecord ⟨id, .pending, e⟩ := by
  have cells : (ofEvent id e).cells = (ofRecord ⟨id, .pending, e⟩).cells := by
    funext c
    cases c <;> rfl
  exact congrArg (Row.mk id) cells

theorem deliver_ofRecord (r : Record) : (ofRecord r).deliver = ofRecord r.deliver := by
  have cells : (ofRecord r).deliver.cells = (ofRecord r.deliver).cells := by
    funext c
    cases c <;> rfl
  exact congrArg (Row.mk r.id) cells

@[simp] theorem isPending_ofRecord (r : Record) : (ofRecord r).isPending = r.isPending := by
  obtain ⟨id, state, e⟩ := r
  cases state <;> rfl

/-! ### Reading one column -/

section Columns

variable {r : Row} {c : Column}

theorem text_eq {s : String} (h : r.cells c = .text s) : r.text c = .ok s := by
  simp [text, h]

theorem optional_text {o : Option String} (h : r.cells c = Cell.ofText? o) :
    optional text r c = .ok o := by
  cases o with
  | none => simp [optional, h, Cell.ofText?]
  | some s => simp [optional, h, Cell.ofText?, text, Except.map]

theorem integer_eq {n least greatest : Int} (h : r.cells c = .integer n) (hl : least ≤ n)
    (hg : n ≤ greatest) : r.integer c least greatest = .ok n := by
  simp only [integer, h]
  rw [if_pos ⟨hl, hg⟩]

theorem int64_eq {x : Int64} (h : r.cells c = .integer x.toInt) : r.int64 c = .ok x := by
  have hx : x.toInt ≤ 2 ^ 63 - 1 := x.toInt_le
  unfold int64
  rw [integer_eq h x.le_toInt hx]
  simp [Except.map]

theorem int32_eq {x : Int32} (h : r.cells c = .integer x.toInt) : r.int32 c = .ok x := by
  have hx : x.toInt ≤ 2 ^ 31 - 1 := x.toInt_le
  unfold int32
  rw [integer_eq h x.le_toInt hx]
  simp [Except.map]

theorem port_eq {p : UInt16} (h : r.cells c = .integer p.toNat) : r.port c = .ok p := by
  have hp : (p.toNat : Int) ≤ 2 ^ 16 - 1 := by have := p.toNat_lt; omega
  unfold port
  rw [integer_eq h (Int.natCast_nonneg _) hp]
  simp [Except.map]

theorem optional_port {o : Option UInt16} (h : r.cells c = Cell.ofPort? o) :
    optional port r c = .ok o := by
  cases o with
  | none => simp [optional, h, Cell.ofPort?]
  | some p => simp [optional, h, Cell.ofPort?, port_eq h, Except.map]

theorem optional_number {o : Option Binary64} (h : r.cells c = Cell.ofDouble? o) :
    optional number r c = .ok (o.bind Binary64.kept?) := by
  cases o with
  | none => simp [optional, h, Cell.ofDouble?]
  | some x =>
    by_cases hn : x.isNaN
    · simp [optional, h, Cell.ofDouble?, Cell.ofDouble, Binary64.kept?, hn]
    · by_cases hz : x.isZero <;>
        simp [optional, h, Cell.ofDouble?, Cell.ofDouble, Binary64.kept?, hn, hz, number,
          Except.map]

theorem state_eq {s : DeliveryState} (h : r.cells .deliveryState = .text s.word) :
    r.state = .ok s := by
  unfold state
  rw [text_eq h]
  cases s <;> rfl

end Columns

/-! ### Reading a row -/

/-- Reading the row of a record gives what a store keeps of the record. -/
theorem toRecord_ofRecord (r : Record) : (ofRecord r).toRecord = .ok r.kept := by
  have latitude := optional_number (r := ofRecord r) (c := .latitude)
    (o := r.event.location.map (·.latitude)) rfl
  have longitude := optional_number (r := ofRecord r) (c := .longitude)
    (o := r.event.location.map (·.longitude)) rfl
  have method := optional_text (r := ofRecord r) (c := .httpMethod)
    (o := r.event.http.map (·.method)) rfl
  have path := optional_text (r := ofRecord r) (c := .httpPath)
    (o := r.event.http.map (·.path)) rfl
  have host := optional_text (r := ofRecord r) (c := .httpHost)
    (o := r.event.http.bind (·.host)) rfl
  have state := state_eq (r := ofRecord r) (s := r.state) rfl
  have userId := text_eq (r := ofRecord r) (c := .userId) (s := r.event.userId) rfl
  have appName := optional_text (r := ofRecord r) (c := .appName) (o := r.event.appName) rfl
  have appUid := int32_eq (r := ofRecord r) (c := .appUid) (x := r.event.appUid) rfl
  have protocol := text_eq (r := ofRecord r) (c := .protocol) (s := r.event.protocol) rfl
  have domain := optional_text (r := ofRecord r) (c := .domain) (o := r.event.domain) rfl
  have sourceIp := optional_text (r := ofRecord r) (c := .sourceIp) (o := r.event.sourceIp) rfl
  have sourcePort := optional_port (r := ofRecord r) (c := .sourcePort)
    (o := r.event.sourcePort) rfl
  have targetIp := optional_text (r := ofRecord r) (c := .targetIp) (o := r.event.targetIp) rfl
  have targetPort := optional_port (r := ofRecord r) (c := .targetPort)
    (o := r.event.targetPort) rfl
  have bytesSent := int64_eq (r := ofRecord r) (c := .bytesSent) (x := r.event.bytesSent) rfl
  have bytesReceived := int64_eq (r := ofRecord r) (c := .bytesReceived)
    (x := r.event.bytesReceived) rfl
  have packetsSent := int64_eq (r := ofRecord r) (c := .packetsSent) (x := r.event.packetsSent) rfl
  have packetsReceived := int64_eq (r := ofRecord r) (c := .packetsReceived)
    (x := r.event.packetsReceived) rfl
  have startTime := int64_eq (r := ofRecord r) (c := .startTime) (x := r.event.startTime) rfl
  have endTime := int64_eq (r := ofRecord r) (c := .endTime) (x := r.event.endTime) rfl
  unfold toRecord
  simp only [latitude, longitude, method, path, host, state, userId, appName, appUid, protocol,
    domain, sourceIp, sourcePort, targetIp, targetPort, bytesSent, bytesReceived, packetsSent,
    packetsReceived, startTime, endTime, bind, Except.bind, pure, Except.pure]
  -- what is left is that a position and a request are put together as they were taken apart
  obtain ⟨id, state, e⟩ := r
  obtain ⟨_, _, _, _, _, _, _, _, _, _, _, _, _, _, _, position, request⟩ := e
  cases position <;> cases request <;> rfl

/-! ### What a row was read as -/

section Records

variable {r : Row} {record : Record}

/-- The record of a row has the number and the state of the row. -/
theorem toRecord_told (h : r.toRecord = .ok record) :
    record.id = r.id ∧ r.state = .ok record.state := by
  unfold toRecord at h
  obtain ⟨latitude, -, h⟩ := bind_eq_ok.mp h
  obtain ⟨longitude, -, h⟩ := bind_eq_ok.mp h
  obtain ⟨method, -, h⟩ := bind_eq_ok.mp h
  obtain ⟨path, -, h⟩ := bind_eq_ok.mp h
  obtain ⟨state, hstate, h⟩ := bind_eq_ok.mp h
  -- the host is read only where there are a method and a path
  rcases method with _ | method <;> rcases path with _ | path
  all_goals
    repeat obtain ⟨_, -, h⟩ := bind_eq_ok.mp h
    cases h
    exact ⟨rfl, hstate⟩

theorem toRecord_id (h : r.toRecord = .ok record) : record.id = r.id := (toRecord_told h).1

/-- A row and its record are pending together. -/
theorem isPending_toRecord (h : r.toRecord = .ok record) : record.isPending = r.isPending := by
  obtain ⟨word, hword, hstate⟩ := bind_eq_ok.mp (toRecord_told h).2
  have cell : r.cells .deliveryState = .text word := by
    unfold text at hword
    split at hword
    · next s hs =>
      cases hword
      exact hs
    · cases hword
  obtain ⟨id, state, e⟩ := record
  simp only [isPending, cell, Cell.text.injEq, Record.isPending, DeliveryState.word]
  unfold DeliveryState.ofWord? at hstate
  by_cases pending : word = "pending"
  · rw [if_pos pending] at hstate
    cases hstate
    simp [pending]
  · rw [if_neg pending] at hstate
    by_cases delivered : word = "delivered"
    · rw [if_pos delivered] at hstate
      cases hstate
      simp [pending]
    · rw [if_neg delivered] at hstate
      cases hstate

/-- The record of a row that was delivered is the record of before, delivered, since a delivery
changes no cell but that of the state. -/
theorem deliver_toRecord (h : r.toRecord = .ok record) :
    r.deliver.toRecord = .ok record.deliver := by
  unfold toRecord at h ⊢
  obtain ⟨latitude, hlatitude, h⟩ := bind_eq_ok.mp h
  refine bind_eq_ok.mpr ⟨latitude, hlatitude, ?_⟩
  obtain ⟨longitude, hlongitude, h⟩ := bind_eq_ok.mp h
  refine bind_eq_ok.mpr ⟨longitude, hlongitude, ?_⟩
  obtain ⟨method, hmethod, h⟩ := bind_eq_ok.mp h
  refine bind_eq_ok.mpr ⟨method, hmethod, ?_⟩
  obtain ⟨path, hpath, h⟩ := bind_eq_ok.mp h
  refine bind_eq_ok.mpr ⟨path, hpath, ?_⟩
  obtain ⟨state, -, h⟩ := bind_eq_ok.mp h
  refine bind_eq_ok.mpr ⟨.delivered, state_eq rfl, ?_⟩
  rcases method with _ | method <;> rcases path with _ | path
  all_goals
    repeat
      obtain ⟨x, hx, h⟩ := bind_eq_ok.mp h
      refine bind_eq_ok.mpr ⟨x, hx, ?_⟩
    cases h
    rfl

end Records

end Row

/-- The rows of records are read back as what a store keeps of the records. -/
theorem Store.recordsOf_map (rs : List Record) :
    Store.recordsOf (rs.map Row.ofRecord) = .ok (rs.map Record.kept) := by
  unfold Store.recordsOf
  induction rs with
  | nil => rfl
  | cons r rs ih =>
    rw [List.map_cons, List.mapM_cons, Row.toRecord_ofRecord, ih]
    rfl

/-- The pending rows of a number are the pending records of the number. -/
theorem Store.any_recordsOf {rows : List Row} {records : List Record}
    (h : recordsOf rows = .ok records) (id : RecordId) :
    (rows.any fun r => r.id = id && r.isPending) =
      records.any fun r => r.id = id && r.isPending := by
  have same : (records.map fun r => decide (r.id = id) && r.isPending) =
      rows.map fun r => decide (r.id = id) && r.isPending :=
    map_of_mapM (fun r record hr => by rw [Row.toRecord_id hr, Row.isPending_toRecord hr]) h
  have both := congrArg (fun found => found.any fun b => b) same
  rw [List.any_map, List.any_map] at both
  exact both.symm

/-- Rows that are changed one by one have the records that are changed in the same way. -/
theorem Store.recordsOf_changed {change : Row → Row} {change' : Record → Record} {rows : List Row}
    {records : List Record}
    (same : ∀ r ∈ rows, ∀ record, r.toRecord = .ok record →
      (change r).toRecord = .ok (change' record))
    (h : recordsOf rows = .ok records) :
    recordsOf (rows.map change) = .ok (records.map change') := by
  unfold recordsOf at h ⊢
  induction rows generalizing records with
  | nil =>
    cases h
    rfl
  | cons r rows ih =>
    obtain ⟨record, rest, hr, hrest, rfl⟩ := mapM_cons_eq_ok.mp h
    have first : (change r).toRecord = .ok (change' record) := same r (by simp) record hr
    have others := ih (fun q hq => same q (List.mem_cons_of_mem r hq)) hrest
    exact mapM_cons_eq_ok.mpr ⟨_, _, first, others, rfl⟩

end Outbox
