import Outbox.Store.Database

/-!
# The store of events

The operations on a store: appending events, marking records as delivered, erasing everything, and
reading. A store is used by one user at a time. A transaction that others have opened on it can be
undone; the state to go back to is kept.
-/

namespace Outbox

/-- A store in use. -/
structure Store where
  /-- What the users of the store see. -/
  live : Database
  /-- What undoing the open transaction goes back to. -/
  saved : Option Database := none
  /-- A user has failed while holding the store, so that nobody can use it any more. -/
  poisoned : Bool := false
  /-- The medium of the store can only be read. -/
  readOnly : Bool := false

instance : Inhabited Store := ⟨{ live := {} }⟩

/-- How many records there are, altogether and by state. -/
structure StoreStats where
  total : Nat
  pending : Nat
  delivered : Nat
  deriving DecidableEq, Repr

namespace Events

/-- The table of events, for those who need all its columns. -/
def full : Events → Except DatabaseFault Table
  | .missing => .error (.noTable Database.eventsName)
  | .table t => .ok t
  | .legacy .. => .error (.noColumn Column.userId.name)
  | .view => .error (.noColumn Column.userId.name)

/-- How many records there are. -/
def total : Events → Except DatabaseFault Nat
  | .missing => .error (.noTable Database.eventsName)
  | .table t => .ok t.rows.length
  | .legacy row _ => .ok (if row.isSome then 1 else 0)
  | .view => .ok 1

/-- How many records are pending. -/
def pendingCount : Events → Except DatabaseFault Nat
  | .missing => .error (.noTable Database.eventsName)
  | .table t => .ok t.pendingCount
  | .legacy .. => .error (.noColumn Column.deliveryState.name)
  | .view => .ok 1

/-- The events after a new one. -/
def insert (e : Event) : Events → Except DatabaseFault (RecordId × Events)
  | .missing => .error (.noTable Database.eventsName)
  | .table t => (t.insert e).map fun (id, t) => (id, .table t)
  | .legacy .. => .error (.noColumnIn Database.eventsName Column.userId.name)
  | .view => .error (.viewNotWritable Database.eventsName)

/-- The events after the delivery of the given ones. -/
def deliverAll (ids : List RecordId) : Events → Except DatabaseFault (Nat × Events)
  | .missing => .error (.noTable Database.eventsName)
  | .table t => (t.deliverAll ids).map fun (n, t) => (n, .table t)
  | .legacy .. => .error (.noColumn Column.deliveryState.name)
  | .view => .error (.viewNotWritable Database.eventsName)

/-- Whether a guard watches the insertions. -/
def watchesInsertions : Events → Bool
  | .table t => t.guards.insertion.isSome
  | _ => false

/-- No events. -/
def clear : Events → Except DatabaseFault Events
  | .missing => .error (.noTable Database.eventsName)
  | .table t => t.clear.map .table
  | .legacy row guards =>
    match guards.deletion.filter fun g => row = some g.subject with
    | some g => .error (.refused g.message)
    | none => .ok (.legacy none guards)
  | .view => .error (.viewNotWritable Database.eventsName)

end Events

namespace Store

/-- A store on a database. -/
def ofDatabase (d : Database) : Store := { live := d }

/-- A store on an empty medium. -/
def inMemory : Store := ofDatabase {}

/-- What is left when the store is closed: without the changes of an open transaction. -/
def close (s : Store) : Database := s.saved.getD s.live

/-- Reads from the database. -/
def read {α : Type} (s : Store) (f : Database → Except DatabaseFault α) : Except StoreFault α :=
  if s.poisoned then .error (.unavailable .poisoned)
  else
    match f s.live with
    | .ok a => .ok a
    | .error e => .error (.database e)

/-- Changes the database; a change that fails leaves it as it was. -/
def write {α : Type} (s : Store) (f : Database → Except DatabaseFault (α × Database)) :
    Except StoreFault α × Store :=
  if s.poisoned then (.error (.unavailable .poisoned), s)
  else
    match f s.live with
    | .ok (a, live) =>
      if s.readOnly then (.error (.database .readOnly), s) else (.ok a, { s with live })
    | .error e => (.error (.database e), s)

/-! ### Changes -/

/-- The store after its open transaction, if there is one, was undone. -/
def undone (s : Store) : Store := { s with live := s.close, saved := none }

/-- Appends an event, which is pending from then on. A table without a number left undoes the open
transaction as well, unless a guard watches its insertions. -/
def append (s : Store) (e : Event) : Except StoreFault RecordId × Store :=
  match s.write fun d => (d.events.insert e).map fun (id, events) => (id, { d with events }) with
  | (.error (.database .full), s) =>
    (.error (.database .full), if s.live.events.watchesInsertions then s else s.undone)
  | r => r

/-- Turns the given records from pending to delivered, all of them or, on a failure, none. Numbers
without a record and records that are delivered already do not count. -/
def markDelivered (s : Store) (ids : List RecordId) : Except StoreFault Nat × Store :=
  if ids.isEmpty then (.ok 0, s)
  else
    s.write fun d =>
      if s.saved.isSome then .error .nestedTransaction
      else (d.events.deliverAll ids).map fun (n, events) => (n, { d with events })

/-- Removes every record. -/
def eraseAll (s : Store) : Except StoreFault Unit × Store :=
  s.write fun d => d.events.clear.map fun events => ((), { d with events })

/-- The name of the installation. The first question for it settles it to `fresh`. -/
def installationId (s : Store) (fresh : String) : Except StoreFault String × Store :=
  match s.read fun d => d.installation with
  | .error e => (.error e, s)
  | .ok (some id) => (.ok id, s)
  | .ok none => s.write fun d => .ok (fresh, { d with settings := some (some fresh) })

/-- Brings the database to the current schema. Tables of an older version are dropped and made
anew; a newer version is refused. -/
def migrate (s : Store) : Except StoreFault Unit × Store :=
  if s.poisoned then (.error (.unavailable .poisoned), s)
  else if s.live.version = Database.currentVersion then (.ok (), s)
  else if Database.currentVersion < s.live.version then
    (.error (.unavailable (.newerSchema s.live.version Database.currentVersion)), s)
  else if s.saved.isSome then (.error (.database .nestedTransaction), s)
  else
    match s.live.events, s.readOnly with
    | .view, _ =>
      (.error (.database (.viewNotDroppable Database.eventsName)), { s with saved := some s.live })
    | _, true => (.error (.database .readOnly), { s with saved := some s.live })
    | _, false => (.ok (), { s with live := s.live.renewed })

/-! ### Reading -/

/-- The records of rows, or the fault of the first row that cannot be read. -/
def recordsOf (rows : List Row) : Except DatabaseFault (List Record) := rows.mapM Row.toRecord

/-- The oldest pending records, at most `limit` of them. -/
def selectPending (s : Store) (limit : Nat) : Except StoreFault (List Record) :=
  if limit = 0 then .ok []
  else
    s.read fun d => do
      let t ← d.events.full
      recordsOf ((t.rows.filter Row.isPending).take limit)

/-- The newest records in any state, the newest first, at most `limit` of them. -/
def recent (s : Store) (limit : Nat) : Except StoreFault (List Record) :=
  s.read fun d => do
    let t ← d.events.full
    recordsOf (t.rows.reverse.take limit)

/-- The record of a number. -/
def get? (s : Store) (id : RecordId) : Except StoreFault (Option Record) :=
  s.read fun d => do
    let t ← d.events.full
    match t.rows.find? fun r => r.id = id with
    | none => return none
    | some row => return some (← row.toRecord)

/-- How many records are pending. -/
def countPending (s : Store) : Except StoreFault Nat := s.read fun d => d.events.pendingCount

/-- How many records there are. -/
def countTotal (s : Store) : Except StoreFault Nat := s.read fun d => d.events.total

/-- How many records there are, altogether and by state. What is not pending counts as
delivered. -/
def stats (s : Store) : Except StoreFault StoreStats :=
  s.read fun d => do
    let pending ← d.events.pendingCount
    let total ← d.events.total
    return ⟨total, pending, total - pending⟩

/-- The version of the schema. -/
def schemaVersion (s : Store) : Except StoreFault Int := s.read fun d => .ok d.version

end Store

end Outbox
