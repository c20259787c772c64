import Outbox.Command.Report
import Outbox.Config.Places
import Outbox.Credential.FileGate
import Outbox.Http.Exchange
import Outbox.Store.Open
import Outbox.Sync.Coordinator

/-!
# What commands work with

A machine is all that a command can see and change: where things are, files, the standard input, and
what has been printed. A command is a computation on a machine that may ask the collector, and that
may end with a failure; what it did before the failure stays done.
-/

namespace Outbox.Command

open Http (Conversation)

/-- What a command sees and changes. -/
structure Machine where
  environment : Environment
  workingDirectory : Place := []
  files : Files := {}
  /-- What stands on the standard input. -/
  input : Text.Bytes := []
  /-- The time of day, as it is shown. -/
  clock : String := ""
  /-- The date, as the names of the log files show it. -/
  today : String := ""
  /-- The name that a new installation gets. -/
  installation : String := ""
  /-- How many rounds pass before a watch is interrupted. -/
  rounds : Nat := 1
  /-- What has been printed. -/
  output : String := ""
  /-- What has been printed about things that are wrong. -/
  complaints : String := ""

/-- A computation of a command. -/
abbrev Run (α : Type) := ExceptT Failure (StateT Machine Conversation) α

namespace Run

/-- Prints a text. -/
def say (text : String) : Run Unit := modify fun m => { m with output := m.output ++ text }

/-- Prints a text about something that is wrong. -/
def complain (text : String) : Run Unit :=
  modify fun m => { m with complaints := m.complaints ++ text }

/-- The result of an operation. A failure tells what was being done. -/
def expect {α : Type} (headline : String) : Except Error α → Run α
  | .ok a => pure a
  | .error e => throw (.ofError headline e)

/-- The result of an operation on the store. -/
def expectStore {α : Type} (headline : String) (r : Except StoreFault α) : Run α :=
  expect headline (r.mapError .store)

/-- The result of an operation on files. -/
def expectFile {α : Type} (headline : String) (r : Except FileFault α) : Run α :=
  expect headline (r.mapError .file)

/-- The result of an operation on files that the command does itself. -/
def expectOwn {α : Type} (headline : String) : Except FileFault α → Run α
  | .ok a => pure a
  | .error e => throw { headline, causes := [e.message] }

/-- The result of a change of the files. -/
def change {α : Type} (f : Files → α × Files) : Run α :=
  modifyGet fun m =>
    let (a, files) := f m.files
    (a, { m with files })

/-- Asks the collector. -/
def ask {α : Type} (c : Conversation α) : Run α := ExceptT.lift (StateT.lift c)

/-- A path, as the command sees it. -/
def path (text : String) : Run Path := return ⟨(← get).workingDirectory, text⟩

/-- The gate on the token file. -/
def gate : Run FileGate := do
  let m ← get
  return ⟨← path m.environment.tokenPath, m.files⟩

end Run

/-! ### The store of a command -/

/-- A store that a command has opened. -/
structure OpenStore where
  opened : Store.Opened
  /-- The store was brought to the current schema, which is written once more when it is closed. -/
  migrated : Bool := false

namespace OpenStore

/-- The store. -/
def store (o : OpenStore) : Store := o.opened.store

/-- Keeps a store in the files. -/
def keep (o : OpenStore) (store : Store) : Run OpenStore := do
  let o := { o with opened := { o.opened with store } }
  modify fun m => { m with files := o.opened.close m.files }
  return o

/-- Opens the configured store and brings it to the current schema. -/
def ofConfig (config : Config) : Run OpenStore := do
  let path ← Run.path (config.storePath.getD (← get).environment.databasePath)
  let opened ← Run.change fun files => Store.openAt files path
  let opened ← Run.expect "failed to open event store" opened
  let (result, store) := opened.store.migrate
  Run.expectStore "failed to run database migrations" result
  keep { opened, migrated := opened.store.live.version ≠ Database.currentVersion } store

/-- The name of the installation. -/
def installation (o : OpenStore) : Run (String × OpenStore) := do
  let (id, store) := o.store.installationId (← get).installation
  let id ← Run.expectStore "failed to read installation id" id
  return (id, ← o.keep store)

/-- Closes the store after others have written files. -/
def close (o : OpenStore) : Run Unit := do
  if o.migrated then
    let _ ← o.keep o.store

end OpenStore

end Outbox.Command
