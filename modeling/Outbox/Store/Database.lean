import Outbox.Store.Row

/-!
# The database

What a store keeps on its medium: the version of its schema, the table of events and the table of
settings. Either table may be missing, and the first one may be of an older make or a view, since
others can change the database too.
-/

namespace Outbox

-- Powers are those of numbers, also where a monoid brings its own.
attribute [local instance (high)] instPowNat

/-- A rule that refuses a change of the rows it names, with a message. -/
structure Guard where
  subject : Int
  message : String
  deriving DecidableEq, Repr

/-- The rules of a table: against inserting rows of an application, and against updating and
deleting the row of a number. -/
structure Guards where
  insertion : Option Guard := none
  update : Option Guard := none
  deletion : Option Guard := none
  deriving DecidableEq, Repr, Inhabited

/-- The table of events. -/
structure Table where
  /-- In ascending order of their numbers. -/
  rows : List Row := []
  /-- The largest number that was ever given to a row. -/
  sequence : Int := 0
  guards : Guards := {}

instance : Inhabited Table := ⟨{}⟩

namespace Table

/-- The largest number there is. -/
def greatestId : RecordId := 2 ^ (63 : Nat) - 1

/-- The largest number in the table; below the first one if the table is empty. -/
def lastId (t : Table) : RecordId := (t.rows.getLast?.map (·.id)).getD 0

/-- The number for the next row, unless all are used up. It is above every number that was ever
given. -/
def nextId? (t : Table) : Option RecordId :=
  if t.sequence = greatestId ∨ t.lastId = greatestId then none
  else some (max (t.lastId + 1) (t.sequence + 1))

/-- The table with a new row for an event. -/
def insert (t : Table) (e : Event) : Except DatabaseFault (RecordId × Table) :=
  match t.guards.insertion.filter fun g => g.subject = e.appUid.toInt with
  | some g => .error (.refused g.message)
  | none =>
    match t.nextId? with
    | none => .error .full
    | some id =>
      .ok (id, { t with rows := t.rows ++ [Row.ofEvent id e], sequence := id })

/-- The table with one row delivered if it is still pending, and how many rows have changed. -/
def deliver (t : Table) (id : RecordId) : Except DatabaseFault (Nat × Table) :=
  if t.rows.any fun r => r.id = id && r.isPending then
    match t.guards.update.filter fun g => g.subject = id with
    | some g => .error (.refused g.message)
    | none =>
      .ok (1, { t with rows := t.rows.map fun r => if r.id = id then r.deliver else r })
  else .ok (0, t)

/-- The table with the given rows delivered, one after the other, and how many rows have changed. -/
def deliverAll (t : Table) : List RecordId → Except DatabaseFault (Nat × Table)
  | [] => .ok (0, t)
  | id :: ids => do
    let (n, t) ← t.deliver id
    let (m, t) ← t.deliverAll ids
    return (n + m, t)

/-- The table without rows. Numbers go on where they were. -/
def clear (t : Table) : Except DatabaseFault Table :=
  match t.guards.deletion.filter fun g => t.rows.any fun r => r.id = g.subject with
  | some g => .error (.refused g.message)
  | none => .ok { t with rows := [] }

/-- How many rows are pending. -/
def pendingCount (t : Table) : Nat := t.rows.countP Row.isPending

end Table

/-- What stands in the place of the table of events. -/
inductive Events where
  | missing
  | table (t : Table)
  /-- A table of an older make, with the number of its row if it has one. -/
  | legacy (row : Option RecordId) (guards : Guards)
  /-- A view of one pending row. -/
  | view

/-- The content of a database. -/
structure Database where
  version : Int := 0
  events : Events := .missing
  /-- The table of settings, if there is one, with the name of the installation, if it has one. -/
  settings : Option (Option String) := none
  /-- The largest number that counts as given when the next table of events is made. There is one
  as soon as such a table was made for the first time. -/
  counter : Option Int := none

instance : Inhabited Database := ⟨{}⟩

namespace Database

/-- The name of the table of events. -/
def eventsName : String := "connection_events"

/-- The name of the table of settings. -/
def settingsName : String := "settings"

/-- The version of the schema that this program works with. -/
def currentVersion : Int := 3

/-- The name of the installation, if it has one. -/
def installation (d : Database) : Except DatabaseFault (Option String) :=
  match d.settings with
  | none => .error (.noTable settingsName)
  | some id => .ok id

/-- The counter after the events were dropped. The numbers of a table of the current make are
forgotten together with it. -/
def counterLeft (d : Database) : Option Int :=
  match d.events with
  | .table _ => some 0
  | _ => d.counter

/-- The database after its tables were dropped and made anew, with the current schema. -/
def renewed (d : Database) : Database where
  version := currentVersion
  events := .table { sequence := d.counterLeft.getD 0 }
  settings := some none
  counter := some 0

/-- A database without any table. -/
def empty : Database := {}

end Database

end Outbox
