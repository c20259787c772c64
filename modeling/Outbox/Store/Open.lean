import Outbox.Error
import Outbox.Files.Basic
import Outbox.Store.Address
import Outbox.Store.Basic

/-!
# Opening and closing stores

A store on a file is opened by reading the database from it; a file that is missing or empty counts
as an empty database. Closing it writes the database back. Beside the file there may be others that
were left over by a program that has failed; they go away when the store is opened.
-/

namespace Outbox.Store

/-- The largest number of bytes in the path of a database. -/
def longestPath : Nat := 504

/-- The place of a database: the path is read, not walked, but every name on the way has to be one
that can be there. -/
def placeOf? (fs : Files) (p : Path) : Option Place :=
  let next (place : Place) (name : String) : Option Place :=
    let place := Path.follow place name
    if ! Path.isEntryName name then some place
    else
      match fs.get place with
      | .ok _ | .error .notFound =>
        if Path.longestName < name.utf8ByteSize ∨
            longestPath < (place.map fun n => n.utf8ByteSize + 1).foldr (· + ·) 0 then none
        else some place
      | .error _ => none
  (p.names.foldlM next p.start).filter (· ≠ [])

/-- Whether a file of this size counts as an empty database. -/
def isBlank (content : Text.Bytes) : Bool := content.length ≤ 1

/-- The place beside a database with more at the end of its name. -/
def beside (place : Place) (ending : String) : Place :=
  place.dropLast ++ [(place.getLast?.getD "") ++ ending]

/-- The ending of the name of a journal. -/
def journalEnding : String := "-journal"

/-- The files without those that were left over beside a database. A journal that begins with a zero
belongs to nothing that is unfinished, and stays if there is a database. -/
def withoutLeftovers (fs : Files) (place : Place) (isNew : Bool) : Files :=
  let unfinished := match fs.readAt (beside place journalEnding) with
    | .ok (b :: _) => b ≠ 0
    | _ => false
  let endings := ["-wal", "-shm"] ++ (if isNew || unfinished then [journalEnding] else [])
  endings.foldl (fun fs ending => (fs.removeAt (beside place ending)).2) fs

/-- A store that was opened. -/
structure Opened where
  store : Store
  /-- Where it is kept, unless it is there only as long as it is open. -/
  place : Option Place := none

/-- Opens the store in the file at a place. -/
def openFile (a : Address) (place : Place) (content : Text.Bytes) : Except DatabaseFault Opened :=
  if ! isBlank content then .error .notADatabase
  else if a.access = .read ∧ ! a.immutable then .error .readOnly
  else if ! a.immutable ∧
      Path.longestName < (place.getLast?.getD "" ++ journalEnding).utf8ByteSize then
    .error .noJournal
  else .ok { store := { ofDatabase .empty with readOnly := a.isReadOnly }, place }

/-- Opens the store at a place. The path is what messages show. -/
def openPlace (fs : Files) (a : Address) (place : Place) (path : String) :
    Except DatabaseFault Opened × Files :=
  let cleared (fs : Files) (isNew : Bool) : Files :=
    if a.isReadOnly then fs else withoutLeftovers fs place isNew
  let opened (content : Text.Bytes) (fs : Files) : Except DatabaseFault Opened × Files :=
    match openFile a place content with
    | .error e => (.error e, fs)
    | .ok o => (.ok o, cleared fs true)
  match fs.get place with
  | .ok (.database d) =>
    (.ok { store := { ofDatabase d with readOnly := a.isReadOnly }, place }, cleared fs false)
  | .ok (.file content) => opened content fs
  | .ok (.directory _) =>
    (.error (if a.access = .read then .unreadable else .cannotOpen path), fs)
  | .error _ =>
    match if a.access = .create then fs.writeAt place [] else (.error .notFound, fs) with
    | (.error _, fs) => (.error (.cannotOpen path), fs)
    | (.ok (), fs) => opened [] fs

/-- Opens the store at a path whose directory is there. -/
def openIn (fs : Files) (p : Path) : Except DatabaseFault Opened × Files :=
  if p.text.contains '\x00' then
    let before := String.ofList (p.text.toList.takeWhile (· ≠ '\x00'))
    (.error (.nulInPath before.utf8ByteSize), fs)
  else
    match Address.ofPath p with
    | .error e => (.error e, fs)
    | .ok a =>
      if a.isPassing then (.ok { store := { Store.inMemory with readOnly := a.isReadOnly } }, fs)
      else
        match placeOf? fs a.path with
        | none => (.error (.cannotOpen p.text), fs)
        | some place => openPlace fs a place p.text

/-- Opens the store at a path, whose directory is made if it is missing. -/
def openAt (fs : Files) (p : Path) : Except Error Opened × Files :=
  match fs.makeParents p with
  | (.error e, fs) => (.error (.file e), fs)
  | (.ok (), fs) =>
    match openIn fs p with
    | (.error e, fs) => (.error (.store (.database e)), fs)
    | (.ok opened, fs) => (.ok opened, fs)

namespace Opened

/-- The files after the store was closed. -/
def close (o : Opened) (fs : Files) : Files :=
  match o.place with
  | none => fs
  | some place => if o.store.readOnly then fs else (fs.writeDatabase place o.store.close).2

end Opened

end Outbox.Store
