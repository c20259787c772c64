import Outbox.Credential.FileGate
import Outbox.Error
import Outbox.Http.Exchange
import Outbox.Ingest.Lines
import Outbox.Store.Tamper

/-!
# What happens in a rehearsal

A rehearsal runs a whole outbox through a list of steps, with a collector that follows a script.
Some steps can also happen while a batch is on its way.
-/

namespace Outbox.Rehearsal

/-- A gate of any kind. -/
inductive Gate where
  | memory (gate : MemoryGate)
  | file (gate : FileGate)
  | closed (gate : ClosedGate)

namespace Gate

instance : CredentialGate Gate where
  current
    | .memory g => CredentialGate.current g
    | .file g => CredentialGate.current g
    | .closed g => CredentialGate.current g
  isAuthenticated
    | .memory g => CredentialGate.isAuthenticated g
    | .file g => CredentialGate.isAuthenticated g
    | .closed g => CredentialGate.isAuthenticated g
  invalidate
    | .memory g => .memory (CredentialGate.invalidate g)
    | .file g => .file (CredentialGate.invalidate g)
    | .closed g => .closed (CredentialGate.invalidate g)

/-- The gate with another credential, where it can have one. -/
def login (g : Gate) (token : String) : Gate :=
  match g with
  | .memory g => .memory (g.set ⟨token⟩)
  | .file g => .file (g.store token).2
  | .closed g => .closed g

end Gate

/-- A step on the store, the gate or the last known position. -/
inductive Action where
  | append (event : Event) (count : Option Nat)
  | record (event : Event) (count : Option Nat)
  | select (limit : Nat)
  | recent (limit : Nat)
  | get (id : RecordId)
  | mark (ids : List RecordId)
  | erase
  | migrate
  | countPending
  | countTotal
  | schemaVersion
  | stats
  | installationId
  | importBytes (content : Text.Bytes) (user : String)
  | setLocation (point : GeoPoint)
  | clearLocation
  | tamper (change : Tampering)
  | login (token : String)
  | invalidate
  | credential

/-- How the scripted collector ends a send. -/
inductive Verdict where
  | outcome (outcome : Outcome)
  /-- It breaks down. -/
  | breakDown
  deriving Repr

/-- What the scripted collector does with a send: things happen while it is on its way, and it ends
somehow. -/
structure Entry where
  verdict : Verdict := .outcome .delivered
  during : List Action := []

/-- A step of a rehearsal. -/
inductive Step where
  | act (action : Action)
  | reopen
  | script (entries : List Entry)
  | runOnce
  | drain (max : Nat)
  | syncStats
  | batchLimit
  | sentIds
  | sent (index : Nat)
  | trigger
  | hold
  | release
  | settle
  | abort
  | waitIdle
  | schedulerStats
  | replies (replies : List Http.Reply)
  | requests
  | baseUrl
  | sendBatch (limit : Nat) (token : String)
  | exportData
  | eraseData

/-- What a step tells. -/
inductive Result where
  | nothing
  | flag (value : Bool)
  | number (value : Int)
  | text (value : String)
  /-- The first and the last number of records that were made, and how many there are. -/
  | range (first last : Option RecordId) (count : Nat)
  | records (records : List Record)
  | record (record : Option Record)
  | stats (stats : StoreStats)
  | installation (id : String) (stable : Bool)
  | summary (summary : ImportSummary)
  | location (point : Option GeoPoint)
  | credential (authenticated : Bool) (credential : Option Credential)
  | report (report : Option SyncReport)
  | drained (report : DrainReport)
  | syncStats (stats : SyncStats)
  | batchIds (ids : List (List RecordId))
  | sent (attempt : Option Attempt)
  | settled (inFlight : Bool) (calls : Nat)
  | schedulerStats (scheduled skipped : Nat) (inFlight : Bool)
  | requests (requests : List Http.Request)
  | outcome (events : Nat) (outcome : Outcome)
  | exported (content : Text.Bytes)
  | failed (error : Error)
  /-- The step makes no sense in the state of the rehearsal. -/
  | senseless (reason : String)

end Outbox.Rehearsal
