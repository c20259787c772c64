import Outbox.Proofs.Store.History
import Outbox.Proofs.Sync.Attempt
import Outbox.Proofs.Sync.Exits

/-!
# What leaves the device

A series of attempts on two stores whose pending records differ only in what stays on the device
sends the same bytes and reports the same, whatever the collector answers. Of the user, the domain
and the target address it sends nothing but their digests.
-/

namespace Outbox

open CredentialGate

/-! ### What an upload tells of an event -/

/-- The event without what stays on the device: the source, the request, and where it was more
exactly than two decimals say. -/
def Event.disclosed (e : Event) : Event :=
  { e with
    sourceIp := none
    sourcePort := none
    http := none
    location := e.location.bind GeoPoint.rounded? }

/-- The event with digests in the place of the user, the domain and the target. -/
def Anonymizer.hide (a : Anonymizer) (e : Event) : Event :=
  { e with
    userId := a.digest e.userId
    domain := e.domain.map a.digest
    targetIp := e.targetIp.map a.digest }

/-- What is told of an event whose names and position were replaced already. -/
def Event.told (e : Event) : AnonymizedEvent where
  userHash := e.userId
  appName := e.appName
  appUid := e.appUid
  protocol := e.protocol
  domainHash := e.domain
  targetIpHash := e.targetIp
  targetPort := e.targetPort
  bytesSent := e.bytesSent
  bytesReceived := e.bytesReceived
  packetsSent := e.packetsSent
  packetsReceived := e.packetsReceived
  startTime := e.startTime
  endTime := e.endTime
  duration := e.duration
  latitude := e.location.map (·.latitude)
  longitude := e.location.map (·.longitude)

/-- What is told of a record is read off from what it discloses, after the digests were taken. -/
theorem Anonymizer.transform_eq (a : Anonymizer) (r : Record) :
    a.transform r = (a.hide r.event.disclosed).told := rfl

/-! ### Stores that tell the same -/

/-- Stores with logs that are as the operations leave them, and of whose pending records the
anonymizer tells the same. -/
structure Alike (a : Anonymizer) (s s' : Store) (l l' : Log) : Prop where
  holds : s.Holds l
  holds' : s'.Holds l'
  guards : s.live.events.guards = {}
  guards' : s'.live.events.guards = {}
  medium : s.readOnly = s'.readOnly
  told : l.pending.map (fun r => a.transform r.kept) = l'.pending.map fun r => a.transform r.kept

namespace Alike

variable {s s' : Store} {l l' : Log} {c : Coordinator}

theorem events_eq (h : Alike c.anonymizer s s' l l') :
    (c.batchOf l).events = (c.batchOf l').events := by
  rw [Coordinator.batchOf_events, Coordinator.batchOf_events, List.map_take, List.map_take, h.told]

theorem pending_eq_nil (h : Alike c.anonymizer s s' l l') : l.pending = [] ↔ l'.pending = [] := by
  have hl := List.map_eq_nil_iff (f := fun r => c.anonymizer.transform r.kept) (l := l.pending)
  rw [← hl, h.told, List.map_eq_nil_iff]

theorem ids_ne_nil (c : Coordinator) (h : l.pending ≠ []) : (c.batchOf l).ids ≠ [] := by
  have := c.limit_pos
  rw [Coordinator.batchOf_ids]
  simp [h]
  omega

variable {γ : Type} [CredentialGate γ]

/-- The commits of both batches end in the same way, and leave stores that tell the same. -/
theorem finish (h : Alike c.anonymizer s s' l l') (waiting : l.pending ≠ [])
    (credential : Credential) (outcome : Outcome) (gate : γ) :
    ∃ report gate' t t' m m',
      Attempt.finish ⟨c.batchOf l, credential⟩ outcome gate s = (report, gate', t) ∧
      Attempt.finish ⟨c.batchOf l', credential⟩ outcome gate s' = (report, gate', t') ∧
      Alike c.anonymizer t t' m m' := by
  have waiting' : l'.pending ≠ [] := fun empty => waiting (h.pending_eq_nil.mpr empty)
  have ids := ids_ne_nil c waiting
  have ids' := ids_ne_nil c waiting'
  cases outcome with
  | delivered =>
    cases hw : s.readOnly with
    | true =>
      have hw' : s'.readOnly = true := h.medium ▸ hw
      refine ⟨.failed (.storage (StoreFault.database .readOnly).message), gate, s, s', l, l', ?_,
        ?_, h⟩
      · simp only [Attempt.finish, Store.markDelivered_readOnly h.holds h.guards hw ids]
      · simp only [Attempt.finish, Store.markDelivered_readOnly h.holds' h.guards' hw' ids']
    | false =>
      have hw' : s'.readOnly = false := h.medium ▸ hw
      obtain ⟨t, ht, hold⟩ := Store.markDelivered_writable h.holds ⟨h.guards, hw⟩ (c.batchOf l).ids
      obtain ⟨t', ht', hold'⟩ :=
        Store.markDelivered_writable h.holds' ⟨h.guards', hw'⟩ (c.batchOf l').ids
      have beside := s.markDelivered_beside (c.batchOf l).ids
      have beside' := s'.markDelivered_beside (c.batchOf l').ids
      rw [ht] at beside
      rw [ht'] at beside'
      refine ⟨.success (c.batchOf l).size, gate, t, t', _, _, ?_, ?_, hold, hold',
        beside.guards.trans h.guards, beside'.guards.trans h.guards', ?_, ?_⟩
      · simp only [Attempt.finish, ht]
      · -- the report counts the events of the batch, not its numbers
        simp only [Attempt.finish, ht', Batch.size, h.events_eq]
      · rw [beside.readOnly, beside'.readOnly, h.medium]
      · rw [c.pending_commit, c.pending_commit, List.map_drop, List.map_drop, h.told]
  | unauthorized => exact ⟨_, _, s, s', l, l', rfl, rfl, h⟩
  | rejected status => exact ⟨_, _, s, s', l, l', rfl, rfl, h⟩
  | unreachable reason => exact ⟨_, _, s, s', l, l', rfl, rfl, h⟩
  | invalidCredential reason => exact ⟨_, _, s, s', l, l', rfl, rfl, h⟩

end Alike

/-! ### Series of attempts side by side -/

section Series

variable {σ τ : Type} {R : σ → σ → Prop}

/-- Two results with the same value and the same world outside, and with related states. -/
def Agree {α : Type} (R : σ → σ → Prop) (p q : (α × σ) × τ) : Prop :=
  p.1.1 = q.1.1 ∧ p.2 = q.2 ∧ R p.1.2 q.1.2

variable {attempt : StateT σ (StateM τ) SyncReport}

theorem drain_go_agree (h : ∀ x y w, R x y → Agree R (attempt x w) (attempt y w))
    (rest batches delivered : Nat) {x y : σ} (hxy : R x y) (w : τ) :
    Agree R (drain.go attempt batches delivered rest x w)
      (drain.go attempt batches delivered rest y w) := by
  induction rest generalizing batches delivered x y w with
  | zero =>
    have one := h x y w hxy
    simp only [drain.go, bind, StateT.bind]
    rcases hx : attempt x w with ⟨⟨report, x'⟩, w'⟩
    rcases hy : attempt y w with ⟨⟨report', y'⟩, w''⟩
    rw [hx, hy] at one
    obtain ⟨rfl, rfl, related⟩ := one
    cases report <;> exact ⟨rfl, rfl, related⟩
  | succ rest ih =>
    have one := h x y w hxy
    simp only [drain.go, bind, StateT.bind]
    rcases hx : attempt x w with ⟨⟨report, x'⟩, w'⟩
    rcases hy : attempt y w with ⟨⟨report', y'⟩, w''⟩
    rw [hx, hy] at one
    obtain ⟨rfl, rfl, related⟩ := one
    cases report with
    | success n => exact ih (batches + 1) (delivered + n) related w'
    | _ => exact ⟨rfl, rfl, related⟩

/-- Attempts that agree make series that agree. -/
theorem drain_agree (h : ∀ x y w, R x y → Agree R (attempt x w) (attempt y w)) (max : Nat)
    {x y : σ} (hxy : R x y) (w : τ) : Agree R (drain attempt max x w) (drain attempt max y w) :=
  drain_go_agree h (max - 1) 0 0 hxy w

end Series

/-! ### Uploads -/

section Uploads

variable {γ ω : Type} [CredentialGate γ]

/-- A transport that hands the bytes of a body and a credential to the world outside, and notes them
down. The world answers, and it may change the gate. -/
def uploading (world : Text.Bytes → Credential → StateM (γ × ω) Outcome) (batch : Batch)
    (credential : Credential) :
    StateT (Site γ) (StateM (ω × List (Text.Bytes × Credential))) Outcome :=
  fun site (w, sent) =>
    let body := Text.encode batch.bodyText
    let (outcome, gate, w) := world body credential (site.gate, w)
    ((outcome, { site with gate }), w, sent ++ [(body, credential)])

/-- The report of a series of attempts, what has become of the world, and what was sent to it. -/
def uploads (world : Text.Bytes → Credential → StateM (γ × ω) Outcome) (c : Coordinator)
    (max : Nat) (gate : γ) (w : ω) (s : Store) :
    DrainReport × ω × List (Text.Bytes × Credential) :=
  let ((report, _), after) := drain (c.runOnce (uploading world)) max { gate, store := s } (w, [])
  (report, after)

/-- Sites with one gate, one count of attempts, and stores that tell the same. -/
def SitesAlike (a : Anonymizer) (x y : Site γ) : Prop :=
  x.gate = y.gate ∧ x.stats = y.stats ∧ ∃ l l', Alike a x.store y.store l l'

variable {world : Text.Bytes → Credential → StateM (γ × ω) Outcome} {c : Coordinator}

/-- An attempt sends the same from sites that are alike. -/
theorem runOnce_agree {x y : Site γ} (h : SitesAlike c.anonymizer x y)
    (w : ω × List (Text.Bytes × Credential)) :
    Agree (SitesAlike c.anonymizer) (c.runOnce (uploading world) x w)
      (c.runOnce (uploading world) y w) := by
  obtain ⟨gate, s, stats⟩ := x
  obtain ⟨gate', s', stats'⟩ := y
  obtain ⟨hgate, hstats, l, l', alike⟩ := h
  simp only at hgate hstats alike
  subst hgate hstats
  rw [c.runOnce_eq, c.runOnce_eq, Coordinator.begin_eq alike.holds,
    Coordinator.begin_eq alike.holds']
  cases usable gate with
  | none => exact ⟨rfl, rfl, rfl, rfl, l, l', alike⟩
  | some credential =>
    by_cases empty : l.pending = []
    · simp only [if_pos empty, if_pos (alike.pending_eq_nil.mp empty)]
      exact ⟨rfl, rfl, rfl, rfl, l, l', alike⟩
    · simp only [if_neg empty, if_neg fun h => empty (alike.pending_eq_nil.mpr h)]
      have body : (c.batchOf l').bodyText = (c.batchOf l).bodyText := by
        rw [Batch.bodyText, Batch.body, ← alike.events_eq]
        rfl
      simp only [uploading, body]
      rcases world (Text.encode (c.batchOf l).bodyText) credential (gate, w.1) with
        ⟨outcome, gate₁, w₁⟩
      obtain ⟨report, gate₂, t, t', m, m', hf, hf', still⟩ :=
        alike.finish empty credential outcome gate₁
      simp only [hf, hf']
      exact ⟨rfl, rfl, rfl, rfl, m, m', still⟩

/-- Series of attempts on stores that tell the same send the same, and report the same. -/
theorem uploads_eq {s s' : Store} {l l' : Log} (h : Alike c.anonymizer s s' l l') (max : Nat)
    (gate : γ) (w : ω) : uploads world c max gate w s = uploads world c max gate w s' := by
  have agree : Agree (SitesAlike c.anonymizer)
      (drain (c.runOnce (uploading world)) max { gate, store := s } (w, []))
      (drain (c.runOnce (uploading world)) max { gate, store := s' } (w, [])) := by
    refine drain_agree (fun _ _ w h => runOnce_agree h w) max ?_ (w, [])
    exact ⟨rfl, rfl, l, l', h⟩
  exact Prod.ext agree.1 agree.2.1

theorem pending_of_contents {s : Store} {l : Log} (h : s.Holds l) {records : List Record}
    (hr : s.contents = .ok records) :
    records.filter Record.isPending = l.pending.map Record.kept := by
  rw [Store.contents_eq h] at hr
  cases hr
  rw [List.filter_map, Log.pending]
  rfl

/-- A store as its operations leave it: it holds a log, and nothing watches its table. -/
structure Store.Regular (s : Store) : Prop where
  holds : ∃ l, s.Holds l
  guards : s.live.events.guards = {}

theorem Store.Reached.regular {h : List Store.Entry} {t : Store} (hr : Store.Reached h t) :
    t.Regular := by
  obtain ⟨l, hl⟩ := hr.traced
  exact ⟨⟨l, hl.holds⟩, hl.guards⟩

/-- Two stores of which the pending records disclose the same, in the same order, are told apart by
nothing that a series of attempts sends or reports, with whatever salt, limits, gate and answers.
For one salt it is enough that they disclose the same after the digests were taken. -/
theorem drain_noninterference {s s' : Store} (h : s.Regular) (h' : s'.Regular)
    (medium : s.readOnly = s'.readOnly) {records records' : List Record}
    (hr : s.contents = .ok records) (hr' : s'.contents = .ok records') :
    ((records.filter Record.isPending).map (fun r => r.event.disclosed) =
        (records'.filter Record.isPending).map (fun r => r.event.disclosed) →
      ∀ (world : Text.Bytes → Credential → StateM (γ × ω) Outcome) (c : Coordinator) (max : Nat)
        (gate : γ) (w : ω), uploads world c max gate w s = uploads world c max gate w s') ∧
    ∀ c : Coordinator,
      (records.filter Record.isPending).map (fun r => c.anonymizer.hide r.event.disclosed) =
        (records'.filter Record.isPending).map (fun r => c.anonymizer.hide r.event.disclosed) →
      ∀ (world : Text.Bytes → Credential → StateM (γ × ω) Outcome) (max : Nat) (gate : γ) (w : ω),
        uploads world c max gate w s = uploads world c max gate w s' := by
  obtain ⟨l, hold⟩ := h.holds
  obtain ⟨l', hold'⟩ := h'.holds
  rw [pending_of_contents hold hr, pending_of_contents hold' hr']
  have digests : ∀ c : Coordinator,
      (l.pending.map Record.kept).map (fun r => c.anonymizer.hide r.event.disclosed) =
        (l'.pending.map Record.kept).map (fun r => c.anonymizer.hide r.event.disclosed) →
      ∀ (world : Text.Bytes → Credential → StateM (γ × ω) Outcome) (max : Nat) (gate : γ) (w : ω),
        uploads world c max gate w s = uploads world c max gate w s' := by
    intro c same world max gate w
    have told : l.pending.map (fun r => c.anonymizer.transform r.kept) =
        l'.pending.map fun r => c.anonymizer.transform r.kept := by
      simp only [Anonymizer.transform_eq]
      simpa only [List.map_map, Function.comp_def] using congrArg (List.map Event.told) same
    exact uploads_eq ⟨hold, hold', h.guards, h'.guards, medium, told⟩ max gate w
  refine ⟨fun same world c => digests c ?_ world, digests⟩
  have hidden := congrArg (List.map c.anonymizer.hide) same
  simp only [List.map_map] at hidden ⊢
  exact hidden

/-- An event with a position. -/
def nearby : Event :=
  { appUid := 10001, protocol := "TCP", startTime := 1000, endTime := 1500
    userId := "user", domain := some "example.com", sourceIp := some "10.0.0.1"
    location := some ⟨⟨0x404a428f5c28f5c3⟩, ⟨0x402acf5c28f5c28f⟩⟩ }

/-- The same event, from another address, some metres away, and with a request. -/
def elsewhere : Event :=
  { nearby with
    sourceIp := some "192.168.7.20"
    sourcePort := some 50000
    http := some ⟨"GET", "/private", none⟩
    location := some ⟨⟨0x404a429c779a6b51⟩, ⟨0x402acf5c28f5c28f⟩⟩ }

/-- A store with one event, and one with the other event after a delivered one send the same: one
batch, after which nothing is left. -/
theorem drain_noninterference_elsewhere :
    uploads (fun _ _ => pure .delivered) {} 3 (⟨some ⟨"token"⟩⟩ : MemoryGate) ()
        (Store.inMemory.migrate.2.after [.append nearby]) =
      uploads (fun _ _ => pure .delivered) {} 3 (⟨some ⟨"token"⟩⟩ : MemoryGate) ()
        (Store.inMemory.migrate.2.after
          [.append default, .markDelivered [1], .append elsewhere]) ∧
    (uploads (fun _ _ => pure .delivered) {} 3 (⟨some ⟨"token"⟩⟩ : MemoryGate) ()
      (Store.inMemory.migrate.2.after [.append nearby])).1 = ⟨1, 1, .noData⟩ := by
  have one : (Store.inMemory.migrate.2.after [.append nearby]).Regular :=
    Store.Reached.regular ⟨Store.inMemory, _, _, by decide, rfl, rfl, rfl⟩
  have other : (Store.inMemory.migrate.2.after
      [.append default, .markDelivered [1], .append elsewhere]).Regular :=
    Store.Reached.regular ⟨Store.inMemory, _, _, by decide, rfl, rfl, rfl⟩
  have contents : (Store.inMemory.migrate.2.after [.append nearby]).contents =
      .ok [⟨1, .pending, nearby⟩] := rfl
  have contents' : (Store.inMemory.migrate.2.after
      [.append default, .markDelivered [1], .append elsewhere]).contents =
      .ok [⟨1, .delivered, default⟩, ⟨2, .pending, elsewhere⟩] := rfl
  have same : [nearby.disclosed] = [elsewhere.disclosed] := by decide +kernel
  refine ⟨?_, rfl⟩
  exact (drain_noninterference one other rfl contents contents').1 same _ _ _ _ _

end Uploads

end Outbox
