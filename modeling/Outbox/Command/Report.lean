import Outbox.Config.Basic
import Outbox.Event.Basic
import Outbox.Ingest.Lines
import Outbox.Sync.Coordinator

/-!
# Printed reports

What the commands print, and how failures are printed.
-/

namespace Outbox.Command

/-- A text with blanks after it up to a width in characters. -/
def padRight (width : Nat) (s : String) : String :=
  s ++ String.ofList (List.replicate (width - s.length) ' ')

/-- The line for a record. -/
def recordLine (r : Record) : String :=
  let e := r.event
  let started := (e.startedAt?.map CivilTime.plainText).getD "-"
  let target := (e.domain <|> e.targetIp).getD "-"
  let port := (e.targetPort.map fun p => ":" ++ toString p.toNat).getD ""
  toString r.id ++ "  " ++ started ++ "  " ++ padRight 9 r.state.word ++ "  " ++
    padRight 6 e.protocol ++ "  " ++ target ++ port ++ "  " ++ e.appName.getD "unknown" ++
    " (" ++ toString e.appUid.toInt ++ ")  " ++ toString e.duration.toInt ++ "ms  tx " ++
    toString e.bytesSent.toInt ++ " / rx " ++ toString e.bytesReceived.toInt ++ "\n"

/-- The report of one attempt. -/
def reportText : SyncReport → String
  | .noData => "Nothing to sync.\n"
  | .success delivered => "Synced " ++ toString delivered ++ " event(s).\n"
  | .failed failure => "Sync failed: " ++ failure.message ++ "\n"

/-- The report of a series of attempts. -/
def drainText (d : DrainReport) : String :=
  (if 0 < d.batches then
    "Synced " ++ toString d.delivered ++ " event(s) in " ++ toString d.batches ++ " batch(es).\n"
  else "") ++
    (match d.last with
      | .success _ => ""
      | .noData => if 0 < d.batches then "" else reportText .noData
      | .failed failure => reportText (.failed failure))

/-- One line for each line of an import that has failed. -/
def failureLines (failures : List (Nat × String)) : String :=
  String.join (failures.map fun f => "  line " ++ toString f.1 ++ ": " ++ f.2 ++ "\n")

/-- The report of an import. -/
def importText (s : ImportSummary) : String :=
  "Inserted " ++ toString s.inserted ++ " event(s)\n" ++
    (if s.failed.isEmpty then ""
    else "\nSkipped " ++ toString s.failed.length ++ " malformed line(s):\n" ++
      failureLines (s.failed.map fun f => (f.1, f.2.message))) ++
    (if s.refused.isEmpty then ""
    else "\nFailed to store " ++ toString s.refused.length ++ " event(s):\n" ++
      failureLines (s.refused.map fun f => (f.1, f.2.message)))

/-- The first part of the status: where things are. -/
def placesText (configPath databasePath : String) : String :=
  "Config:          " ++ configPath ++ "\n" ++
    "Database:        " ++ databasePath ++ "\n"

/-- The line of the status with the name of the installation. -/
def installationText (id : String) : String := "Installation:    " ++ id ++ "\n"

/-- The second part of the status: how many records there are. -/
def statsText (s : StoreStats) : String :=
  "Events:          " ++ toString s.total ++ "\n" ++
    "  Pending:       " ++ toString s.pending ++ "\n" ++
    "  Delivered:     " ++ toString s.delivered ++ "\n"

/-- The third part of the status: how the collector is used. -/
def collectorText (c : CollectorSettings) (authenticated : Bool) : String :=
  "Collector:       " ++ (if c.enabled then "enabled" else "disabled") ++ "\n" ++
    (match c.serverUrl with
      | some url => "Server URL:      " ++ url ++ "\n"
      | none => "") ++
    "Batch size:      " ++ toString c.batchSize ++ "\n" ++
    "Timeout:         " ++ toString c.timeout ++ "s\n" ++
    "Auto sync:       " ++ (if c.autoSync then "true" else "false") ++ "\n" ++
    "Authenticated:   " ++ (if authenticated then "yes" else "no") ++ "\n"

/-! ### Failures -/

/-- The failure of a command: what it was doing, and the causes, each the cause of the one before. -/
structure Failure where
  headline : String
  causes : List String := []
  /-- The last cause goes on with details that are not told here. -/
  unfinished : Bool := false
  deriving DecidableEq, Repr

namespace Failure

/-- The messages of an error and of its causes. -/
def causesOf : Error → List String
  | .store (.database fault) =>
    [(Error.store (.database fault)).message, fault.message] ++ fault.detail?.toList
  | .file fault => [(Error.file fault).message, fault.message]
  | e => [e.message]

/-- The failure to do something because of an error. -/
def ofError (headline : String) (e : Error) : Failure :=
  ⟨headline, causesOf e, e = .config .malformed⟩

/-- A cause with its lines set in. -/
def indented (first others cause : String) : String :=
  let lines := (Text.splitOn '\n' cause.toList).map String.ofList
  first ++ ("\n" ++ others).intercalate lines

/-- A failure as it is printed. -/
def text (f : Failure) : String :=
  let shown : List String :=
    match f.causes with
    | [] => []
    | [cause] => [indented "    " "    " cause]
    | causes => causes.zipIdx.map fun (cause, i) =>
      indented ("    " ++ toString i ++ ": ") "       " cause
  "Error: " ++ f.headline ++
    (if shown.isEmpty then "" else "\n\nCaused by:\n" ++ "\n".intercalate shown) ++
    (if f.unfinished then "" else "\n")

end Failure

end Outbox.Command
