import Outbox.Proofs.Command.Furnished
import Outbox.Proofs.Credential.Gates

/-!
# What `sync` tells

The exit code, the counts and the number of pending records that the command prints, against what
its attempts have done to the store and what the collector has answered (`sync_truthful`).
-/

namespace Outbox.Command

open Http (Conversation Reply Request)

/-- What the command has told is true of its attempts. -/
structure Truthful (all : Bool) (before after : Store) (reports : List SyncReport)
    (exchanges : List (Request × Reply)) (code : UInt32) (printed : String) : Prop where
  succeeds : code = 0 ↔ ∀ failure, reports.getLast? ≠ some (.failed failure)
  fails : code ≠ 0 → code = 1
  /-- Where all records were to be sent, none is left, unless there were more of them than the
  command makes attempts. -/
  drained : all = true → code = 0 → (∀ n, before.countTotal = .ok n → n ≤ allBatches) →
    after.countPending = .ok 0
  /-- The first line is there only after a successful attempt, and the last one tells what is
  left. -/
  printed : ∃ notes : String,
    printed =
      (if (reports.filterMap delivered?).length = 0 then "" else
        "Synced " ++ toString (before.rowsTurned after) ++ " event(s) in " ++
          toString (reports.filterMap delivered?).length ++ " batch(es).\n") ++
      notes ++ pendingText after ∧
    (notes = "" ∨ notes = "Nothing to sync.\n" ∨ ∃ failure,
      reports.getLast? = some (.failed failure) ∧
        notes = "Sync failed: " ++ failure.message ++ "\n")
  /-- The successful attempts have been acknowledged one by one. An acknowledgement beside theirs is
  that of the last attempt, whose batch the store has failed to deliver. -/
  acknowledged : ∃ acknowledged later, exchanges = acknowledged ++ later ∧
    acknowledged.length = (reports.filterMap delivered?).length ∧
    (∀ x ∈ acknowledged, Http.Acknowledged x) ∧ later.length ≤ 1 ∧
    ∀ x ∈ later, Http.Acknowledged x ↔
      ∃ reason, reports.getLast? = some (.failed (.storage reason))

/-- What is printed of a series are its counts, if a batch was delivered, and how it has ended. -/
theorem drainText_eq (d : DrainReport) :
    ∃ notes, drainText d =
      (if d.batches = 0 then "" else
        "Synced " ++ toString d.delivered ++ " event(s) in " ++ toString d.batches ++
          " batch(es).\n") ++ notes ∧
      (notes = "" ∨ notes = "Nothing to sync.\n" ∨ ∃ failure,
        d.last = .failed failure ∧ notes = "Sync failed: " ++ failure.message ++ "\n") := by
  have first : (if 0 < d.batches then "Synced " ++ toString d.delivered ++ " event(s) in " ++
        toString d.batches ++ " batch(es).\n" else "") =
      if d.batches = 0 then "" else "Synced " ++ toString d.delivered ++ " event(s) in " ++
        toString d.batches ++ " batch(es).\n" := by
    rcases Nat.eq_zero_or_pos d.batches with none | some
    · simp [none]
    · rw [if_pos some, if_neg (Nat.ne_of_gt some)]
  unfold drainText
  rw [first]
  refine ⟨_, rfl, ?_⟩
  cases d.last with
  | success n => exact .inl rfl
  | noData =>
    by_cases some : 0 < d.batches
    · exact .inl (if_pos some)
    · exact .inr (.inl (if_neg some))
  | failed failure => exact .inr (.inr ⟨failure, rfl, rfl⟩)

variable {σ : Type} {config : Config} {o : OpenStore} {client : Client} {m m' : Machine}

/-- The command `sync` tells the truth about its attempts, and keeps what they have left. -/
theorem sync_truthful (serve : Request → σ → Reply × σ) (server : σ) {args : List String}
    {all : Bool} {interval : Nat} (parsed : parse args = .ok (.sync all false interval))
    (begins : Begins m config o client m') (own : o.store.Ascending) :
    let run := (Machine.execute args m).run serve server
    let exchanges := (Machine.execute args m).exchanges serve server
    ∃ reports site server' printed,
      Uploads (coordinatorFor config) client serve ((if all then allBatches else 1) - 1)
        ⟨m'.gate, o.store, {}⟩ server reports exchanges site server' ∧
      run.1.2.output = m'.output ++ printed ∧
      Truthful all o.store site.store reports exchanges run.1.1 printed ∧
      run.1.2.files = ({ o.opened with store := site.store } : Store.Opened).close site.gate.files ∧
      (Store.ofDatabase site.store.close).countPending = site.store.countPending := by
  intro run exchanges
  obtain ⟨reports, asked, site, server', last, uploads, hl, hr, hx⟩ :=
    go_uploads (coordinatorFor config) client serve ⟨m'.gate, o.store, {}⟩ server 0 0
      ((if all then allBatches else 1) - 1)
  obtain ⟨ids, done, length, most⟩ := uploads.delivers own
  have turned : (reports.filterMap delivered?).sum = o.store.rowsTurned site.store :=
    length.symm.trans (done.rowsTurned own).symm
  rw [turned] at hr
  -- the program ends as its series of attempts has ended
  have result : run = (ended (m'.synced o ⟨(reports.filterMap delivered?).length,
      o.store.rowsTurned site.store, last⟩ site), server') := by
    simp only [run, execute_sync parsed begins, Conversation.run_bind, Conversation.run_pure, drain,
      hr, Nat.zero_add]
  have sent : exchanges = asked := by
    simp only [exchanges, execute_sync parsed begins, Conversation.exchanges_bind,
      Conversation.exchanges_pure, List.append_nil, drain, hx]
  have well : (∀ failure, last ≠ .failed failure) ↔
      ∀ failure, reports.getLast? ≠ some (.failed failure) := by simp [hl]
  have code : (ended (m'.synced o ⟨(reports.filterMap delivered?).length,
      o.store.rowsTurned site.store, last⟩ site)).1 = 0 ↔
        ∀ failure, reports.getLast? ≠ some (.failed failure) := by
    rw [(ended_code _).1, ← well]
    refine uploadResult_ok.trans (and_iff_right_of_imp fun h => ?_)
    exact uploads.counted own (well.mp h)
  obtain ⟨m₁, m₂, -, opened, -⟩ := begins
  obtain ⟨settled, usable⟩ := ofConfig_settled opened
  rw [result, sent]
  refine ⟨reports, site, server', drainText ⟨(reports.filterMap delivered?).length,
    o.store.rowsTurned site.store, last⟩ ++ pendingText site.store, uploads, ?_, ?_, ended_files _, ?_⟩
  · rw [ended_output]
    exact String.append_assoc
  · constructor
    case succeeds => exact code
    case fails => exact (ended_code _).2
    case drained =>
      rintro rfl zero enough
      exact uploads.drained own (code.mp zero) enough
    case printed =>
      obtain ⟨notes, text, kind⟩ := drainText_eq
        ⟨(reports.filterMap delivered?).length, o.store.rowsTurned site.store, last⟩
      exact ⟨notes, by rw [text], by simpa [hl] using kind⟩
    case acknowledged => exact uploads.acknowledged
  · exact Store.countPending_close (done.beside.1.trans settled) (done.beside.2.trans usable)

/-! ### A record that is acknowledged and not saved -/

theorem parse_sync : parse ["sync"] = .ok (.sync false false 60) := by decide

/-- A database with a pending record that a rule keeps as it is. -/
def guarded : Database where
  version := Database.currentVersion
  events := .table {
    rows := [Row.ofEvent 1 default], sequence := 1, guards := { update := some ⟨1, "kept"⟩ } }
  settings := some none

/-- The configuration of a collector nearby, as it is written. -/
def nearbyText : String := "[collector]\nenabled=true\nserver_url=\"http://[::1]\""

/-- The configuration of a collector nearby. -/
def nearbyConfig : Config := { collector := { enabled := true, serverUrl := some "http://[::1]" } }

/-- The client for this collector. -/
def nearbyClient : Client := ⟨"http://[::1]"⟩

/-- A machine with this configuration and this database. -/
def guardedMachine : Machine := furnished nearbyText "t" guarded

/-- The machine after a command has begun. -/
def guardedBegun : Machine := { guardedMachine with complaints := Logging.complaints "info" }

/-- The answer that a batch was received. -/
def receipt : Reply := .answer ⟨200, by decide⟩ [] true

theorem guarded_begins :
    Begins guardedMachine nearbyConfig (furnishedStore guarded) nearbyClient guardedBegun := by
  have spelled : Config.ofText nearbyText = .ok nearbyConfig := by decide
  exact furnished_begins spelled rfl (by decide) rfl rfl rfl

theorem guarded_ascending : (furnishedStore guarded).store.Ascending := by
  rintro t ⟨⟩
  exact List.pairwise_singleton _ _

theorem sync_truthful_guarded :
    Begins guardedMachine nearbyConfig (furnishedStore guarded) nearbyClient guardedBegun ∧
    ∃ (reports : List SyncReport) (after : Store) (printed : String),
      ((Machine.execute ["sync"] guardedMachine).told receipt).1.2.output = printed ∧
      Truthful false (.ofDatabase guarded) after reports
        ((Machine.execute ["sync"] guardedMachine).exchanges (fun _ _ => (receipt, ())) ())
        ((Machine.execute ["sync"] guardedMachine).told receipt).1.1 printed := by
  obtain ⟨reports, site, -, printed, -, output, truthful, -⟩ :=
    sync_truthful (fun _ _ => (receipt, ())) () parse_sync guarded_begins guarded_ascending
  exact ⟨guarded_begins, reports, site.store, printed, output.trans String.empty_append, truthful⟩

/-- What the attempts of the command work on. -/
def guardedSite : Site FileGate := ⟨guardedBegun.gate, (furnishedStore guarded).store, {}⟩

theorem guarded_begin : ∃ a,
    (coordinatorFor nearbyConfig).begin guardedSite.gate guardedSite.store = .ok a ∧
      a.credential = ⟨"t"⟩ ∧ a.batch.ids = [1] := by
  have held : FileGate.credentialOf? "t" = some ⟨"t"⟩ :=
    FileGate.credentialOf?_of_trimmed (by decide) rfl
  obtain ⟨r, waiting, id⟩ : ∃ r, (furnishedStore guarded).store.selectPending
      (coordinatorFor nearbyConfig).limit = .ok [r] ∧ r.id = 1 := ⟨_, rfl, rfl⟩
  unfold Coordinator.begin guardedSite guardedBegun guardedMachine
  rw [furnished_usable, held, waiting]
  exact ⟨_, rfl, rfl, congrArg (fun id => [id]) id⟩

theorem nearby_sendBatch (batch : Batch) : ∃ request,
    (nearbyClient.sendBatch batch ⟨"t"⟩).told receipt = (.delivered, [request]) := by
  obtain ⟨url, address, requestable⟩ : ∃ url,
      Http.Url.ofText? (nearbyClient.baseUrl ++ Client.batchPath) = some url ∧
        url.isRequestable = true := by
    have some : (Http.Url.ofText? (nearbyClient.baseUrl ++ Client.batchPath)).any
      Http.Url.isRequestable = true := by decide
    simpa [Option.any_eq_true] using some
  have sendable : Credential.isSendable ⟨"t"⟩ = true := by decide
  unfold Client.sendBatch Client.call Client.request
  rw [sendable, address]
  simp only [requestable, if_true]
  exact ⟨_, rfl⟩

/-- The collector has acknowledged a batch, which the store then fails to save: no batch is counted
and no line tells of it. -/
theorem sync_unsaved :
    let told := (Machine.execute ["sync"] guardedMachine).told receipt
    told.2.length = 1 ∧ told.1.1 = 1 ∧ told.1.2.output =
      "Sync failed: local store failed: database error: kept\nPending:   1\n" := by
  intro told
  obtain ⟨a, begun, credential, ids⟩ := guarded_begin
  obtain ⟨request, sent⟩ := nearby_sendBatch a.batch
  rw [← credential] at sent
  have refused : a.finish .delivered guardedSite.gate guardedSite.store =
      (.failed (.storage "database error: kept"), guardedSite.gate, guardedSite.store) := by
    simp only [Attempt.finish, ids]
    rfl
  have attempted := attempt_told begun sent
  simp only [refused] at attempted
  have result : told = (ended (guardedBegun.synced (furnishedStore guarded)
      ⟨0, 0, .failed (.storage "database error: kept")⟩
      { guardedSite with
        stats := guardedSite.stats.count (.failed (.storage "database error: kept")) }), [request]) := by
    simp only [told]
    rw [execute_sync parse_sync guarded_begins, Conversation.told_map]
    exact congrArg (fun r => (ended (guardedBegun.synced _ r.1.1 r.1.2), r.2))
      (drain_told _ attempted)
  rw [result]
  refine ⟨rfl, rfl, ?_⟩
  rw [ended_output]
  decide +kernel

end Outbox.Command
