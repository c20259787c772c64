import Outbox.Store.Basic

/-!
# Changes behind the back of a store

Others may change the database of a store with statements of their own. What they can do is listed
here, with its effect on the store.
-/

namespace Outbox

-- Powers are those of numbers, also where a monoid brings its own.
attribute [local instance (high)] instPowNat

/-- Which change a guard refuses. -/
inductive GuardKind where
  | insertion
  | update
  | deletion
  deriving DecidableEq, Repr

/-- The name of the guard of a kind. -/
def GuardKind.name : GuardKind → String
  | .insertion => "reject_uid"
  | .update => "reject_update"
  | .deletion => "reject_delete"

/-- The guard of a kind. -/
def Guards.get? (g : Guards) : GuardKind → Option Guard
  | .insertion => g.insertion
  | .update => g.update
  | .deletion => g.deletion

/-- The guards with one more, unless there is one of its kind. -/
def Guards.add (g : Guards) (kind : GuardKind) (guard : Guard) : Except DatabaseFault Guards :=
  if (g.get? kind).isSome then .error (.guardExists kind.name)
  else
    .ok (match kind with
      | .insertion => { g with insertion := some guard }
      | .update => { g with update := some guard }
      | .deletion => { g with deletion := some guard })

/-- A value as a statement spells it. -/
inductive Literal where
  | null
  | integer (value : Int)
  /-- A finite double, with its shortest digits. -/
  | real (value : Binary64)
  | text (value : String)
  deriving DecidableEq, Repr

/-- The cell that a literal stands for. An integer beyond 64 bits is a double. -/
def Literal.cell : Literal → Cell
  | .null => .null
  | .integer n => if fitsWord n then .integer n else .real (Numeral.ofInt n).toDouble
  | .real x => .real (Numeral.ofDouble x).toDouble
  | .text s => .text s

/-- A change behind the back of a store. -/
inductive Tampering where
  | dropEvents
  | dropSettings
  | begin
  | commit
  | rollBack
  | setVersion (version : Int)
  /-- Puts a table of an older make in the place of the events. -/
  | makeLegacy (version : Int)
  /-- Puts a view in the place of the events. -/
  | makeView
  | addGuard (kind : GuardKind) (guard : Guard)
  | setSequence (value : Int)
  | setInstallation (id : String)
  /-- Fails while holding the store. -/
  | poison
  /-- Puts a value into a row. -/
  | setCell (column : String) (id : RecordId) (value : Literal)
  deriving Repr

/-- A text in the statement of a change. -/
def Tampering.text? : Tampering → Option String
  | .addGuard _ guard => some guard.message
  | .setInstallation id => some id
  | .setCell _ _ (.text s) => some s
  | _ => none

/-- The fault of a statement with a text that holds a NUL: the statement ends there. -/
def Tampering.endless? (change : Tampering) : Option DatabaseFault :=
  change.text?.bind fun s =>
    if s.contains '\x00' then some (.endless (String.ofList (s.toList.takeWhile (· ≠ '\x00'))))
    else none

namespace Guards

/-- Refuses the update of a row that is guarded. -/
def checkUpdate (g : Guards) (id : RecordId) : Except DatabaseFault Unit :=
  match g.update.filter fun g => g.subject = id with
  | some g => .error (.refused g.message)
  | none => .ok ()

end Guards

/-- The number of a record that a cell gives. -/
def Cell.recordId (cell : Cell) : Except DatabaseFault RecordId :=
  match Affinity.integer.apply cell with
  | .integer n => .ok n
  | _ => .error .noInteger

namespace Table

/-- The rows with one more, before those with a larger number. -/
def place (row : Row) (rows : List Row) : List Row :=
  rows.takeWhile (fun r => r.id < row.id) ++ row :: rows.dropWhile (fun r => r.id < row.id)

/-- The table with another number for one row. -/
def setId (t : Table) (row : Row) (cell : Cell) : Except DatabaseFault Table := do
  let id ← cell.recordId
  t.guards.checkUpdate row.id
  let others := t.rows.filter fun r => r.id ≠ row.id
  if others.any fun r => r.id = id then
    throw (.taken Database.eventsName Column.idName)
  return { t with rows := place { row with id } others }

/-- The table with a cell of one row set to what its column makes of the given one. -/
def setColumn (t : Table) (column : Column) (row : Row) (cell : Cell) :
    Except DatabaseFault Table := do
  t.guards.checkUpdate row.id
  let cell := column.affinity.apply cell
  if cell = .null ∧ ! column.nullable then
    throw (.nullRefused Database.eventsName column.name)
  return { t with rows := t.rows.map fun r => if r.id = row.id then r.set column cell else r }

/-- The table with a cell of one row set, if there is such a row. -/
def setCell (t : Table) (column : String) (id : RecordId) (cell : Cell) :
    Except DatabaseFault Table :=
  let row := t.rows.find? fun r => r.id = id
  if Column.namesId column then
    match row with
    | some row => t.setId row cell
    | none => .ok t
  else
    match Column.ofName? column, row with
    | none, _ => .error (.noColumn column)
    | some column, some row => t.setColumn column row cell
    | some _, none => .ok t

end Table

namespace Events

/-- The column of a table of an older make beside the number of the row. -/
def legacyColumn : String := "synced"

/-- The number of the only row of a table of an older make after a cell of it was set. -/
def setLegacyCell (row : RecordId) (guards : Guards) (column : String) (cell : Cell) :
    Except DatabaseFault RecordId := do
  let id ← if Column.namesId column then cell.recordId else .ok row
  guards.checkUpdate row
  return id

/-- The events after a cell of a row was set. -/
def setCell (column : String) (id : RecordId) (cell : Cell) :
    Events → Except DatabaseFault Events
  | .missing => .error (.noTable Database.eventsName)
  | .table t => (t.setCell column id cell).map .table
  | .legacy row guards =>
    if ! Column.namesId column ∧ column.toLower ≠ legacyColumn then .error (.noColumn column)
    else
      match row.filter fun r => r = id with
      | some row => (setLegacyCell row guards column cell).map fun r => .legacy (some r) guards
      | none => .ok (.legacy row guards)
  | .view => .error (.viewNotWritable Database.eventsName)

end Events

namespace Database

/-- The name of the table that holds the counter. -/
def counterName : String := "sqlite_sequence"

/-- A version as it is kept: an integer of 32 bits, and zero for any other. -/
def keptVersion (version : Int) : Int :=
  if -2 ^ (31 : Nat) ≤ version ∧ version < 2 ^ (31 : Nat) then version else 0

/-- The database without the events, which must be a table. -/
def dropEvents (d : Database) : Except DatabaseFault Database :=
  match d.events with
  | .missing => .error (.noTable eventsName)
  | .view => .error (.viewNotDroppable eventsName)
  | _ => .ok { d with events := .missing, counter := d.counterLeft }

/-- The database after a change that does not concern transactions. -/
def tamper (d : Database) : Tampering → Except DatabaseFault Database
  | .dropEvents => d.dropEvents
  | .dropSettings =>
    match d.settings with
    | none => .error (.noTable settingsName)
    | some _ => .ok { d with settings := none }
  | .setVersion version => .ok { d with version := keptVersion version }
  | .makeLegacy version => do
    let d ← d.dropEvents
    return { d with events := .legacy (some 1) {}, version := keptVersion version }
  | .makeView => do
    let d ← d.dropEvents
    return { d with events := .view }
  | .addGuard kind guard =>
    match d.events with
    | .missing => .error (.noTable ("main." ++ eventsName))
    | .table t => (t.guards.add kind guard).map fun guards =>
        { d with events := .table { t with guards } }
    | .legacy row guards => (guards.add kind guard).map fun guards =>
        { d with events := .legacy row guards }
    | .view => .error (.guardOnView eventsName)
  | .setSequence value =>
    match d.events, d.counter with
    | .table t, _ => .ok { d with events := .table { t with sequence := value } }
    | _, some _ => .ok { d with counter := some value }
    | _, none => .error (.noTable counterName)
  | .setInstallation id =>
    match d.settings with
    | none => .error (.noTable settingsName)
    | some _ => .ok { d with settings := some (some id) }
  | .setCell column id value =>
    (d.events.setCell column id value.cell).map fun events => { d with events }
  | .begin | .commit | .rollBack | .poison => .ok d

end Database

namespace Store

/-- The store after a change behind its back. -/
def tamper (s : Store) (change : Tampering) : Except StoreFault Unit × Store :=
  match change, s.poisoned, s.saved with
  | .poison, _, _ => (.ok (), { s with poisoned := true })
  | _, true, _ => (.error (.unavailable .poisoned), s)
  | .begin, false, some _ => (.error (.database .nestedTransaction), s)
  | .begin, false, none => (.ok (), { s with saved := some s.live })
  | .commit, false, some _ => (.ok (), { s with saved := none })
  | .commit, false, none => (.error (.database .nothingToCommit), s)
  | .rollBack, false, some d => (.ok (), { s with live := d, saved := none })
  | .rollBack, false, none => (.error (.database .nothingToRollBack), s)
  | change, false, _ =>
    match change.endless? with
    | some e => (.error (.database e), s)
    | none =>
      match s.live.tamper change with
      | .ok live => (.ok (), { s with live })
      | .error e => (.error (.database e), s)

end Store

end Outbox
