import Outbox.Account
import Outbox.Command.Args
import Outbox.Command.Help
import Outbox.Command.Machine
import Outbox.Ingest.Lines
import Outbox.Logging.Directive
import Outbox.Logging.Files
import Outbox.Sync.Scheduler

/-!
# Running commands

What each command does on a machine. A command reads the configuration first, and makes the
directory for the logs; all but those on the token then open the store.
-/

namespace Outbox.Command

open Http (Conversation)

-- Powers are those of numbers, also where a monoid brings its own.
attribute [local instance (high)] instPowNat

/-! ### Beginning -/

/-- Opens the log file of the day in the directory for the logs, which is made if it is missing. -/
def openLog (settings : LoggingSettings) : Run Unit := do
  let path ← Run.path (← get).environment.stateDirectory
  let made ← Run.change fun files => files.makeDirectories path
  Run.expectFile "failed to initialize logging" made
  let directory ← Run.expectFile "failed to initialize logging" ((← get).files.locate path)
  modify fun m =>
    { m with files := Logging.openFile m.files directory settings.maxFiles m.today }

/-- The configuration, after the log file was opened. -/
def prepare : Run Config := do
  let path ← Run.path (← get).environment.configPath
  let config := Config.load (← get).files path
  let config ← Run.expect "failed to load configuration" (config.mapError .config)
  openLog config.logging
  Run.complain (Logging.complaints config.logging.level)
  return config

/-- The client for the configured collector. -/
def clientFor (config : Config) : Run Client := do
  if config.collector.isReady then
    let client := Client.ofSettings config.collector
    Run.expect "failed to create collector client" (client.mapError .config)
  else
    throw { headline :=
      "collector is not configured; set [collector] enabled = true and server_url in " ++
        (← get).environment.configPath }

/-- Who makes the attempts. -/
def coordinatorFor (config : Config) : Coordinator :=
  .ofLimit config.collector.batchSize config.anonymizer

/-- One attempt to upload to a collector. -/
def attempt (c : Coordinator) (client : Client) : StateT (Site FileGate) Conversation SyncReport :=
  c.runOnce fun batch credential => StateT.lift (client.sendBatch batch credential)

/-- The number of batches that stands for all of them. -/
def allBatches : Nat := 2 ^ (64 : Nat) - 1

/-! ### The commands -/

/-- Shows where things are, what the store holds, and how the collector is used. -/
def showStatus (config : Config) : Run Unit := do
  let e := (← get).environment
  let o ← OpenStore.ofConfig config
  let stats ← Run.expectStore "failed to read store stats" o.store.stats
  Run.say "netcache status\n===============\n\n"
  Run.say (placesText e.configPath (config.storePath.getD e.databasePath))
  let (id, _) ← o.installation
  Run.say (installationText id ++ "\n" ++ statsText stats ++ "\n")
  Run.say (collectorText config.collector (CredentialGate.isAuthenticated (← Run.gate)))

/-- The file that is imported, or the standard input. A directory can be opened, but not read. -/
def imported (file : Option String) : Run Source := do
  let m ← get
  match file with
  | none => return { content := m.input }
  | some path =>
    let place := m.files.locate (← Run.path path)
    match m.files.readAt (← Run.expectOwn ("failed to open " ++ path) place) with
    | .ok content => return { content }
    | .error fault => return { content := [], fault := some fault }

/-- Imports events. Attempts to upload them are triggered if the collector can be used. -/
def importEvents (config : Config) (file : Option String) (noAutoSync : Bool) : Run Unit := do
  let o ← OpenStore.ofConfig config
  let collector : Option Client ←
    if noAutoSync || ! config.collector.autoSync || ! config.collector.isReady then pure none
    else some <$> clientFor config
  let ingestor : Ingestor := { threshold := collector.map fun _ => config.collector.batchSize }
  let (id, o) ← o.installation
  let (summary, target) := ingestor.importSource id (← imported file) { store := o.store }
  let o ← o.keep target.store
  let summary ← Run.expectFile "import failed" summary
  Run.say (importText summary)
  match collector, target.scheduler.takeHandle with
  | some collector, (some i, scheduler) =>
    let site : Site FileGate := { gate := ← Run.gate, store := o.store }
    let b ← Run.ask (Background.runTask collector.sendBatch
      { coordinator := coordinatorFor config, site, scheduler } i)
    Run.change fun _ => ((), b.site.gate.files)
    let _ ← o.keep b.site.store
    match b.scheduler.report? i with
    | some report => Run.say (reportText report)
    | none => return
  | _, _ => return

/-- Uploads pending events, one batch of them or all. -/
def uploadPending (config : Config) (all : Bool) : Run Unit := do
  let o ← OpenStore.ofConfig config
  let client ← clientFor config
  let site : Site FileGate := { gate := ← Run.gate, store := o.store }
  let (drained, site) ← Run.ask
    ((drain (attempt (coordinatorFor config) client) (if all then allBatches else 1)).run site)
  Run.change fun _ => ((), site.gate.files)
  let _ ← o.keep site.store
  Run.say (drainText drained)
  let pending ← Run.expectStore "failed to count pending events" site.store.countPending
  Run.say ("Pending:   " ++ toString pending ++ "\n")
  match drained.last.failure? with
  | some failure => throw { headline := "sync failed: " ++ failure.message }
  | none => return

/-- Prints the newest records. -/
def showRecent (config : Config) (limit : Nat) : Run Unit := do
  let o ← OpenStore.ofConfig config
  let records ← Run.expectStore "failed to read recent events" (o.store.recent limit)
  Run.say (if records.isEmpty then "No events recorded.\n"
    else String.join (records.map recordLine))

/-- Writes what the collector holds of the user into a file. -/
def downloadData (config : Config) (output : String) : Run Unit := do
  let o ← OpenStore.ofConfig config
  let client ← clientFor config
  let (content, gate) ← Run.ask (Account.exportData client (← Run.gate))
  Run.change fun _ => ((), gate.files)
  let content ← Run.expect "export failed" content
  let path ← Run.path output
  let written ← Run.change fun files => files.writeFile path content
  o.close
  Run.expectOwn ("failed to write " ++ output) written
  Run.say ("Wrote " ++ toString content.length ++ " bytes to " ++ output ++ "\n")

/-- Erases what the collector holds of the user, and the store. -/
def eraseData (config : Config) (confirmed : Bool) : Run Unit := do
  if ! confirmed then throw { headline := "refusing to erase without --yes" }
  let o ← OpenStore.ofConfig config
  let client ← clientFor config
  let (erased, gate, store) ← Run.ask (Account.erase client (← Run.gate) o.store)
  Run.change fun _ => ((), gate.files)
  let _ ← o.keep store
  Run.expect "erase failed" erased
  Run.say "Erased all data on the collector and in the local store.\n"

/-- Stores the token, forgets it, or tells whether there is one. -/
def manageToken (command : TokenCommand) : Run Unit := do
  let path := (← get).environment.tokenPath
  let gate ← Run.gate
  match command with
  | .set text =>
    if Text.isBlankText text then throw { headline := "token must not be empty" }
    let stored ← Run.change fun _ =>
      let (r, gate) := gate.store text
      (r, gate.files)
    Run.expectFile "failed to store session token" stored
    Run.say ("Session token stored at " ++ path ++ "\n")
  | .clear =>
    let cleared ← Run.change fun _ =>
      let (r, gate) := gate.clear
      (r, gate.files)
    Run.expectFile "failed to remove session token" cleared
    Run.say "Session token cleared.\n"
  | .status =>
    Run.say (if CredentialGate.isAuthenticated gate then
      "Authenticated (token at " ++ path ++ ")\n" else "Not authenticated.\n")

/-! ### Watching -/

/-- A watch: everything pending is uploaded again and again. -/
structure Watch where
  client : Client
  coordinator : Coordinator
  opened : OpenStore
  stats : SyncStats := {}

namespace Watch

/-- The seconds between two rounds. -/
def pause (interval : Nat) : Nat := max interval 1

/-- The start of a watch. -/
def start (config : Config) (interval : Nat) : Run Watch := do
  let opened ← OpenStore.ofConfig config
  let client ← clientFor config
  Run.say ("Watch mode active (sync every " ++ toString (pause interval) ++
    "s). Press Ctrl+C to stop.\n\n")
  return { client, coordinator := coordinatorFor config, opened }

/-- One round: attempts until one does not succeed. -/
def round (w : Watch) : Run Watch := do
  let site : Site FileGate := { gate := ← Run.gate, store := w.opened.store, stats := w.stats }
  let (drained, site) ← Run.ask ((drain (attempt w.coordinator w.client) allBatches).run site)
  Run.change fun _ => ((), site.gate.files)
  let opened ← w.opened.keep site.store
  if 0 < drained.delivered ∨ drained.last.failure?.isSome then
    Run.say ("[" ++ (← get).clock ++ "] " ++ drainText drained)
  return { w with opened, stats := site.stats }

/-- Rounds after each other. -/
def rounds : Nat → Watch → Run Watch
  | 0, w => return w
  | n + 1, w => do rounds n (← w.round)

/-- The end of a watch that was interrupted. -/
def stop (w : Watch) : Run Unit := do
  Run.complain "\nShutting down...\n"
  Run.say ("Watch mode stopped. " ++ toString w.stats.eventsDelivered ++
    " event(s) delivered in " ++ toString w.stats.batchesDelivered ++ " batch(es), " ++
    toString w.stats.failures ++ " failed attempt(s).\n")

end Watch

/-! ### All commands -/

/-- Runs a command with a configuration. -/
def perform (config : Config) : Command → Run Unit
  | .status => showStatus config
  | .ingest file noAutoSync => importEvents config file noAutoSync
  | .sync _ true interval => do
    let w ← Watch.start config interval
    let w ← Watch.rounds (← get).rounds w
    w.stop
  | .sync all false _ => uploadPending config all
  | .recent limit => showRecent config limit
  | .exportData output => downloadData config output
  | .erase confirmed => eraseData config confirmed
  | .token command => manageToken command

/-- Runs a command. -/
def run (command : Command) : Run Unit := do
  let config ← prepare
  command.perform config

/-- What is printed about arguments that are no command. -/
def usageText : String :=
  "Usage: netcache <COMMAND>\n\nFor more information, try '--help'.\n"

namespace Machine

/-- The exit code of a computation and the machine after it. A failure is printed. -/
def complete {α : Type} (run : Run α) (m : Machine) : Conversation (Except UInt32 α × Machine) := do
  match ← run.run.run m with
  | (.ok a, m) => return (.ok a, m)
  | (.error failure, m) =>
    return (.error 1, { m with complaints := m.complaints ++ failure.text })

/-- The exit code of the program and the machine after it, for arguments. -/
def execute (args : List String) (m : Machine) : Conversation (UInt32 × Machine) := do
  match parse args with
  | .ok command =>
    match ← complete command.run m with
    | (.ok (), m) => return (0, m)
    | (.error code, m) => return (code, m)
  | .error .usage => return (2, { m with complaints := m.complaints ++ usageText })
  | .error (.help topic) => return (0, { m with output := m.output ++ topic.text })
  | .error .version => return (0, { m with output := m.output ++ versionText })

end Machine

end Outbox.Command
