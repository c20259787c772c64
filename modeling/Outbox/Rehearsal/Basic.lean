import Outbox.Account
import Outbox.Rehearsal.Action
import Outbox.Store.Open

/-!
# Rehearsals

The state of a rehearsal and the effect of its steps. An attempt in the background makes no
progress by itself, only when a step lets it.
-/

namespace Outbox.Rehearsal

/-- How a rehearsal begins. -/
structure Setup where
  /-- The files that are there; without a file for it, the store is in memory. -/
  files : Files := {}
  storeFile : Option Path := none
  migrate : Bool := true
  gate : Gate := .memory {}
  coordinator : Coordinator := {}
  ingestor : Ingestor := {}
  /-- The settings of the collector, unless it is scripted. -/
  collector : Option CollectorSettings := none
  /-- The name that the installation gets. -/
  installation : String

/-- A rehearsal. -/
structure State where
  setup : Setup
  files : Files
  /-- Where the store is kept, if it is in a file. -/
  storePlace : Option Place := none
  background : Background Gate
  location : LastLocation := {}
  client : Option Client := none
  /-- What the scripted collector does next. -/
  script : List Entry := []
  /-- What the scripted collector was sent. -/
  sent : List Attempt := []
  /-- Sends wait before they end. -/
  holding : Bool := false
  /-- How the send ends that is waiting. -/
  held : Option Verdict := none
  /-- What the collector on the network replies next. -/
  replies : List Http.Reply := []
  /-- What the collector on the network was asked. -/
  requests : List Http.Request := []

namespace Setup

/-- The store, brought to the current schema unless that is not wanted, and the files after it was
opened. -/
def openStore (setup : Setup) (files : Files) : Except Error (Store.Opened × Files) := do
  let (opened, files) ← match setup.storeFile with
    | none => pure ({ store := .inMemory }, files)
    | some path =>
      match Store.openAt files path with
      | (.error e, _) => .error e
      | (.ok opened, files) => pure (opened, files)
  if setup.migrate then
    match opened.store.migrate with
    | (.error e, _) => .error (.store e)
    | (.ok (), store) => return ({ opened with store }, files)
  else return (opened, files)

/-- The start of a rehearsal. -/
def start (setup : Setup) : Except Error State := do
  let (opened, files) ← setup.openStore setup.files
  let client ← match setup.collector with
    | none => pure none
    | some settings =>
      match Client.ofSettings settings with
      | .error e => .error (.config e)
      | .ok client => pure (some client)
  return {
    setup, files, client
    storePlace := opened.place
    background := {
      coordinator := setup.coordinator, site := { gate := setup.gate, store := opened.store } } }

end Setup

namespace State

/-- The store. -/
def store (s : State) : Store := s.background.site.store

/-- The rehearsal with another store. -/
def withStore (s : State) (store : Store) : State :=
  { s with background := { s.background with site := { s.background.site with store } } }

/-- The gate. -/
def gate (s : State) : Gate := s.background.site.gate

/-- The rehearsal with another gate. -/
def withGate (s : State) (gate : Gate) : State :=
  { s with background := { s.background with site := { s.background.site with gate } } }

/-- The rehearsal with another scheduler. -/
def withScheduler (s : State) (scheduler : Scheduler) : State :=
  { s with background := { s.background with scheduler } }

/-- The result of an operation on the store that tells something. -/
def told {α : Type} (show_ : α → Result) : Except StoreFault α → Result
  | .ok a => show_ a
  | .error e => .failed (.store e)

/-- The result of an operation that changes the store. -/
def changed {α : Type} (s : State) (show_ : α → Result) (r : Except StoreFault α × Store) :
    Result × State :=
  (told show_ r.1, s.withStore r.2)

/-- The `i`-th event of a series that begins with `e`. -/
def variant (e : Event) (i : Nat) : Event :=
  let n := Int64.ofNat i
  { e with
    bytesSent := e.bytesSent + n, startTime := e.startTime + n, endTime := e.endTime + n }

/-- Appends an event. -/
def append (s : State) (e : Event) : Except StoreFault RecordId × State :=
  let (r, store) := s.store.append e
  (r, s.withStore store)

/-- Records an event. -/
def record (s : State) (e : Event) : Except StoreFault RecordId × State :=
  let (r, target) := s.setup.ingestor.record e
    { store := s.store, scheduler := s.background.scheduler, location := s.location }
  (r, (s.withStore target.store).withScheduler target.scheduler)

/-- Puts the events from the `i`-th on, `count` of them, into the store. -/
def series (put : State → Event → Except StoreFault RecordId × State) (e : Event) :
    Nat → Nat → Option RecordId → Option RecordId → State → Result × State
  | i, 0, first, last, s => (.range first last i, s)
  | i, count + 1, first, _, s =>
    match put s (variant e i) with
    | (.error fault, s) => (.failed (.store fault), s)
    | (.ok id, s) => series put e (i + 1) count (first <|> some id) (some id) s

/-- Puts one event or a series of events into the store. -/
def putAll (put : State → Event → Except StoreFault RecordId × State) (e : Event)
    (count : Option Nat) (s : State) : Result × State :=
  match count with
  | some count => series put e 0 count none none s
  | none =>
    let (r, s) := put s e
    (told .number r, s)

/-- The name of the installation, asked for twice. -/
def installation (s : State) : Result × State :=
  match s.store.installationId s.setup.installation with
  | (.error e, store) => (.failed (.store e), s.withStore store)
  | (.ok id, store) =>
    match store.installationId s.setup.installation with
    | (.error e, store) => (.failed (.store e), s.withStore store)
    | (.ok again, store) => (.installation id (id = again), s.withStore store)

/-- Imports a file of events. -/
def importBytes (s : State) (content : Text.Bytes) (user : String) : Result × State :=
  let (r, target) := s.setup.ingestor.importSource user { content }
    { store := s.store, scheduler := s.background.scheduler, location := s.location }
  let s := (s.withStore target.store).withScheduler target.scheduler
  match r with
  | .error e => (.failed (.file e), s)
  | .ok summary => (.summary summary, s)

/-- The effect of an action. -/
def act (s : State) : Action → Result × State
  | .append e count => putAll append e count s
  | .record e count => putAll record e count s
  | .select limit => (told .records (s.store.selectPending limit), s)
  | .recent limit => (told .records (s.store.recent limit), s)
  | .get id => (told .record (s.store.get? id), s)
  | .mark ids => s.changed (fun n : Nat => .number n) (s.store.markDelivered ids)
  | .erase => s.changed (fun _ => .nothing) s.store.eraseAll
  | .migrate => s.changed (fun _ => .nothing) s.store.migrate
  | .countPending => (told (fun n : Nat => .number n) s.store.countPending, s)
  | .countTotal => (told (fun n : Nat => .number n) s.store.countTotal, s)
  | .schemaVersion => (told .number s.store.schemaVersion, s)
  | .stats => (told .stats s.store.stats, s)
  | .installationId => s.installation
  | .importBytes content user => s.importBytes content user
  | .setLocation point =>
    let location := s.location.update point
    (.location location.point, { s with location })
  | .clearLocation => (.nothing, { s with location := s.location.clear })
  | .tamper change => s.changed (fun _ => .nothing) (s.store.tamper change)
  | .login token => (.nothing, s.withGate (s.gate.login token))
  | .invalidate => (.nothing, s.withGate (CredentialGate.invalidate s.gate))
  | .credential =>
    (.credential (CredentialGate.isAuthenticated s.gate) (CredentialGate.current s.gate), s)

/-- One reply of the collector on the network. Without one left, and for a request that goes
somewhere else, nothing comes back. -/
def serve (origin : String) (request : Http.Request) (s : State) : Http.Reply × State :=
  if request.url.origin ≠ origin then (.nothing, s)
  else
    let s := { s with requests := s.requests ++ [request] }
    match s.replies with
    | [] => (.nothing, s)
    | reply :: replies => (reply, { s with replies })

/-- Carries a batch to the collector, and tells how that ends. -/
def send (origin : String) (s : State) (attempt : Attempt) : Verdict × State :=
  match s.client with
  | some client =>
    let (outcome, s) := (client.sendBatch attempt.batch attempt.credential).run (serve origin) s
    (.outcome outcome, s)
  | none =>
    let s := { s with sent := s.sent ++ [attempt] }
    match s.script with
    | [] => (.outcome .delivered, s)
    | entry :: script =>
      let s := entry.during.foldl (fun s action => (s.act action).2) { s with script }
      (entry.verdict, s)

/-- One attempt from its beginning to its end, or nothing if the collector breaks down. -/
def runOnce (origin : String) (s : State) : Option SyncReport × State :=
  let counted (r : SyncReport) (s : State) : Option SyncReport × State :=
    let b := s.background
    (some r, { s with background := { b with
      site := { b.site with stats := b.site.stats.count r } } })
  match s.background.coordinator.begin s.gate s.store with
  | .error r => counted r s
  | .ok attempt =>
    match s.send origin attempt with
    | (.breakDown, s) => (none, s)
    | (.outcome outcome, s) =>
      let (r, gate, store) := attempt.finish outcome s.gate s.store
      counted r ((s.withGate gate).withStore store)

/-- Lets the attempt in the background go on until it has ended or its send waits. -/
def settle (origin : String) (s : State) : State :=
  let ended (verdict : Verdict) (i : Nat) (s : State) : State :=
    match verdict with
    | .outcome outcome => { s with background := s.background.finish i outcome }
    | .breakDown => { s with background := s.background.breakDown i }
  match s.background.scheduler.running? with
  | none => s
  | some i =>
    match s.held with
    | some verdict =>
      let cancelled := (s.background.scheduler.tasks[i]?.map (·.cancelled)).getD false
      if s.holding && ! cancelled then s else ended verdict i { s with held := none }
    | none =>
      let s : State := { s with background := s.background.begin i }
      match s.background.scheduler.tasks[i]? with
      | some ⟨.sending attempt, _⟩ =>
        let (verdict, s) := s.send origin attempt
        if s.holding then { s with held := some verdict } else ended verdict i s
      | _ => s

/-- What is told after the attempt in the background was let go on. -/
def settled (s : State) : Result :=
  .settled s.background.scheduler.inFlight s.sent.length

/-- Closes everything and opens it again. What the scripted collector has seen and has still to do
stays, and so does the gate. -/
def reopen (s : State) : Except Error State := do
  let closed : Store.Opened := { store := s.store, place := s.storePlace }
  let (opened, files) ← s.setup.openStore (closed.close s.files)
  return { s with
    files
    storePlace := opened.place
    background := {
      coordinator := s.setup.coordinator, site := { gate := s.gate, store := opened.store } }
    location := {}
    held := none }

/-- Uploads the oldest pending records without marking them. -/
def sendBatch (origin : String) (s : State) (limit : Nat) (token : String) : Result × State :=
  match s.store.selectPending limit, s.client with
  | .error e, _ => (.failed (.store e), s)
  | .ok _, none => (.senseless "no collector on the network", s)
  | .ok records, some client =>
    let batch := Batch.assemble .standard records
    let (outcome, s) := (client.sendBatch batch ⟨token⟩).run (serve origin) s
    (.outcome batch.size outcome, s)

/-- The result of a call for the data of the user. -/
def called {α : Type} (show_ : α → Result) : Except Error α → Result
  | .ok a => show_ a
  | .error e => .failed e

/-- The effect of a step. `origin` is where the collector on the network is. A step that cannot go
on ends the rehearsal. What has to wait for an answer is refused while sends are held, and leaves
everything as it was: nobody could let the sends go on meanwhile. -/
def step (origin : String) (s : State) : Step → Except Error (Result × State)
  | .act action => .ok (s.act action)
  | .reopen => do
    let s ← s.reopen
    return (.nothing, s)
  | .script entries => .ok (.nothing, { s with script := s.script ++ entries })
  | .runOnce =>
    if s.holding then .ok (.senseless "transport is held", s)
    else
      let (r, s) := s.runOnce origin
      .ok (.report r, s)
  | .drain max =>
    if s.holding then .ok (.senseless "transport is held", s)
    else
      let attempt : StateM State SyncReport := fun s =>
        let (r, s) := s.runOnce origin
        (r.getD .noData, s)
      let (r, s) := (Outbox.drain attempt max).run s
      .ok (.drained r, s)
  | .syncStats => .ok (.syncStats s.background.site.stats, s)
  | .batchLimit => .ok (.number s.background.coordinator.limit, s)
  | .sentIds => .ok (.batchIds (s.sent.map fun a => a.batch.ids), s)
  | .sent index => .ok (.sent s.sent[index]?, s)
  | .trigger =>
    let (started, scheduler) := s.background.scheduler.trigger
    .ok (.flag started, s.withScheduler scheduler)
  | .hold => .ok (.nothing, { s with holding := true })
  | .release => .ok (.nothing, { s with holding := false })
  | .settle =>
    let s := s.settle origin
    .ok (s.settled, s)
  | .abort =>
    let s := (s.withScheduler s.background.scheduler.abort).settle origin
    .ok (s.settled, s)
  | .waitIdle =>
    if s.holding then .ok (.senseless "transport is held", s)
    else
      let (handle, scheduler) := s.background.scheduler.takeHandle
      match handle with
      | none => .ok (.report none, s)
      | some i =>
        let s := (s.withScheduler scheduler).settle origin
        .ok (.report (s.background.scheduler.report? i), s)
  | .schedulerStats =>
    let b := s.background.scheduler
    .ok (.schedulerStats b.scheduled b.skipped b.inFlight, s)
  | .replies replies => .ok (.nothing, { s with replies := s.replies ++ replies })
  | .requests => .ok (.requests s.requests, { s with requests := [] })
  | .baseUrl =>
    .ok (match s.client with
      | some client => .text client.baseUrl
      | none => .nothing, s)
  | .sendBatch limit token => .ok (s.sendBatch origin limit token)
  | .exportData =>
    match s.client with
    | none => .ok (.senseless "no collector on the network", s)
    | some client =>
      let ((r, gate), s) := (Account.exportData client s.gate).run (serve origin) s
      .ok (called .exported r, s.withGate gate)
  | .eraseData =>
    match s.client with
    | none => .ok (.senseless "no collector on the network", s)
    | some client =>
      let ((r, gate, store), s) :=
        (Account.erase client s.gate s.store).run (serve origin) s
      .ok (called (fun _ => .nothing) r, (s.withGate gate).withStore store)

/-- What each of the steps tells, with the counts of the store after it. -/
def run (origin : String) (s : State) : List Step → Except Error (List (Result × Option StoreStats))
  | [] => .ok []
  | step :: steps => do
    let (result, s) ← s.step origin step
    let rest ← run origin s steps
    return (result, s.store.stats.toOption) :: rest

end State

end Outbox.Rehearsal
