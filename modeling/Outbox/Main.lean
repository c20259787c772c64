import Outbox.Command.Run
import Outbox.Http.Wire
import Outbox.Store.Archive
import Outbox.Store.Installation
import Std.Async.DNS
import Std.Async.Signal
import Std.Async.TCP
import Std.Time

/-!
# The program

The outer layer of the program: it takes the files that a command may touch from the disk, lets the
command run on them, carries its requests to the network, and writes back what has changed.
-/

namespace Outbox.Program

open Command (Machine Run Watch)
open Http (Conversation Reply Request)

/-! ### The disk -/

/-- The path of a place. -/
def pathOf (place : Place) : String := "/" ++ "/".intercalate place

/-- Whether there is a directory at a path. -/
def isDirectory (path : String) : IO Bool := do
  try
    let _ ← IO.FS.realPath (path ++ "/.")
    return true
  catch _ => return false

/-- The files with what is at one place on the disk. -/
def takePlace (files : Files) (place : Place) : IO Files := do
  if ← isDirectory (pathOf place) then
    return (files.change (files.root.makeDirectory place)).2
  try
    let content := (← IO.FS.readBinFile (pathOf place)).toList
    match Database.ofArchive? content with
    | some database => return (files.writeDatabase place database).2
    | none => return (files.writeAt place content).2
  catch _ => return files

/-- The files with what is at a place on the disk and on the way to it. -/
def take (files : Files) (place : Place) : IO Files :=
  (List.range (place.length + 1)).foldlM (fun files n => takePlace files (place.take n)) files

/-- The bytes of a file. -/
def bytesOf? : Node → Option Text.Bytes
  | .file content => some content
  | .database database => some database.archive
  | .directory _ => none

/-- Writes what has changed at a place to the disk. -/
def put (before after : Files) (place : Place) : IO Unit := do
  let bytes (files : Files) : Option Text.Bytes := (files.get place).toOption.bind bytesOf?
  match after.get place with
  | .ok (.directory _) => IO.FS.createDirAll (pathOf place)
  | .ok node =>
    let content := (bytesOf? node).getD []
    if bytes before ≠ some content then
      IO.FS.createDirAll (pathOf place.dropLast)
      IO.FS.writeBinFile (pathOf place) ⟨content.toArray⟩
  | .error _ => if (bytes before).isSome then IO.FS.removeFile (pathOf place)

/-! ### The network -/

/-- All bytes that come over a connection until it ends. -/
partial def receive (socket : Std.Async.TCP.Socket.Client) (received : ByteArray) :
    Std.Async.Async ByteArray := do
  match ← socket.recv? 65536 with
  | some bytes => receive socket (received ++ bytes)
  | none => return received

/-- Carries a request to its server. Only connections without encryption are made. -/
def exchange (request : Request) : IO Reply := do
  if request.url.secure then return .nothing
  try
    let port := UInt16.ofNat request.url.portNumber
    let host := String.ofList (request.url.host.toList.filter fun c => c ≠ '[' ∧ c ≠ ']')
    let received ← Std.Async.Async.block do
      let addresses ← Std.Async.DNS.getAddrInfo host ""
      match addresses[0]? with
      | none => return ByteArray.empty
      | some address =>
        let socket ← Std.Async.TCP.Socket.Client.mk
        socket.connect (match address with
          | .v4 address => .v4 ⟨address, port⟩
          | .v6 address => .v6 ⟨address, port⟩)
        socket.send ⟨request.bytes.toArray⟩
        receive socket .empty
    return .ofBytes received.toList
  catch _ => return .nothing

/-- Runs a computation that makes requests. -/
def converse {α : Type} : Conversation α → IO α
  | .done a => return a
  | .ask request next => do
    let reply ← exchange request
    converse (next reply)

/-! ### Commands -/

/-- The value of a variable of the environment; one that is no text counts as missing. -/
def variableOf? (name : String) : IO (Option String) := IO.getEnv name

/-- The directories that the environment names. -/
def environment : IO Environment := do
  return {
    home := (← variableOf? "HOME").getD "."
    configHome := ← variableOf? "XDG_CONFIG_HOME"
    dataHome := ← variableOf? "XDG_DATA_HOME"
    stateHome := ← variableOf? "XDG_STATE_HOME" }

/-- All bytes of the standard input. -/
partial def readInput (stream : IO.FS.Stream) (received : ByteArray) : IO ByteArray := do
  let bytes ← stream.read 65536
  if bytes.isEmpty then return received else readInput stream (received ++ bytes)

/-- The time now. -/
def now : IO (Option CivilTime) := do
  let now ← Std.Time.Timestamp.now
  return CivilTime.ofMillis? now.toMillisecondsSinceUnixEpoch.val

/-- The time of day, as a machine shows it. -/
def clock : IO String := return ((← now).map (·.clockText)).getD ""

/-- The date of today. -/
def today : IO String := return ((← now).map (·.dateText)).getD ""

/-- The places that a command may touch, beside the store and the log files. -/
def placesOf (e : Environment) (directory : Place) (command : Option Command) : List Place :=
  let paths := [e.configPath, e.stateDirectory, e.tokenPath] ++
    (match command with
      | some (.ingest (some path) _) => [path]
      | some (.exportData path) => [path]
      | _ => [])
  paths.flatMap fun text => Path.way ⟨directory, text⟩

/-- The places of the store, of the directories on the way to it and of the files beside it, if the
configuration can be used. -/
def storePlaces (e : Environment) (directory : Place) (files : Files) : List Place :=
  match Config.load files ⟨directory, e.configPath⟩ with
  | .error _ => []
  | .ok config =>
    let path : Path := ⟨directory, config.storePath.getD e.databasePath⟩
    path.way.dropLast ++
      (match Store.Address.ofPath path with
        | .error _ => []
        | .ok a =>
          let place := a.path.way.getLast?.getD []
          if a.isPassing then []
          else a.path.way ++ ["-journal", "-wal", "-shm"].map (Store.beside place))

/-- The places of the log files in a directory, in the order of their names and so of their dates,
and that of today's log file. -/
def logPlaces (directory : Place) (today : String) : IO (List Place) := do
  let names ← try
      pure ((← (← IO.FS.realPath (pathOf directory)).readDir).toList.map fun e => e.fileName)
    catch _ => pure []
  let logs := (names.filter Logging.isFileName).mergeSort fun a b => decide (a ≤ b)
  return (logs ++ [Logging.fileName today]).map fun name => directory ++ [name]

/-- The machine for a command, and the places that it may touch. -/
def start (command : Option Command) : IO (Machine × List Place) := do
  let e ← environment
  let directory := (Path.mk [] (toString (← IO.currentDir))).names
  let places := placesOf e directory command
  let files ← places.foldlM take {}
  let stores := storePlaces e directory files
  let state := (Path.way ⟨directory, e.stateDirectory⟩).getLast?.getD []
  let logs ← logPlaces state (← today)
  let files ← (stores ++ logs).foldlM take files
  let input ← match command with
    | some (.ingest none _) => readInput (← IO.getStdin) .empty
    | _ => pure .empty
  let installation := installationName (← IO.getRandomBytes 16).toList
  return ({ environment := e, workingDirectory := directory, files, installation
            input := input.toList, clock := ← clock, today := ← today },
    places ++ stores ++ logs)

/-- Writes to the disk and prints what a machine has done since it was in another state. -/
def finish (places : List Place) (before after : Machine) : IO Machine := do
  for place in places do put before.files after.files place
  let token := after.files.locate ⟨after.workingDirectory, after.environment.tokenPath⟩
  if let .ok token := token then
    if (after.files.readAt token).isOk then
      IO.setAccessRights (pathOf token) { user := { read := true, write := true } }
  IO.print after.output
  (← IO.getStdout).flush
  IO.eprint after.complaints
  return { after with output := "", complaints := "" }

/-- Runs a part of a command on a machine. -/
def perform {α : Type} (places : List Place) (run : Run α) (m : Machine) :
    IO (Except UInt32 α × Machine) := do
  let (result, after) ← converse (m.complete run)
  return (result, ← finish places m after)

/-- The rounds of a watch, until the signal to stop comes. -/
partial def watch (places : List Place) (interval : Nat) (signal : Std.Async.AsyncTask Int)
    (w : Watch) (m : Machine) : IO UInt32 := do
  let files ← places.foldlM take {}
  match ← perform places w.round { m with files, clock := ← clock } with
  | (.error code, _) => return code
  | (.ok w, m) =>
    let mut slices := 5 * Watch.pause interval
    while 0 < slices ∧ ! (← IO.hasFinished signal) do
      IO.sleep 200
      slices := slices - 1
    if ← IO.hasFinished signal then
      let (result, _) ← perform places w.stop m
      return match result with
        | .ok () => 0
        | .error code => code
    else watch places interval signal w m

/-- Watches until the program is interrupted. -/
def startWatch (interval : Nat) (places : List Place) (m : Machine) : IO UInt32 := do
  let waiter ← Std.Async.Signal.Waiter.mk .sigint false
  let signal ← waiter.wait
  let opening : Run Watch := do
    let config ← Command.prepare
    Watch.start config interval
  match ← perform places opening m with
  | (.error code, _) => return code
  | (.ok w, m) => watch places interval signal w m

end Outbox.Program

open Outbox Outbox.Program in
/-- The program. -/
def main (args : List String) : IO UInt32 := do
  let command := (Command.parse args).toOption
  let (m, places) ← match command with
    | some _ => start command
    | none => pure ({ environment := ← environment }, [])
  match command with
  | some (.sync _ true interval) => startWatch interval places m
  | _ =>
    let (code, after) ← converse (m.execute args)
    let _ ← finish places m after
    return code
