import Outbox.Proofs.Store.Queries
import Outbox.Proofs.Sync.Attempt

/-!
# How an attempt ends

An attempt on any store, with any gate and any transport: when it sends its batch, what it reports,
and what it leaves behind (`Exited`). The transport may do to the store and the gate whatever it
likes while the batch is on its way; what the attempt itself changes is told on top of that.
-/

namespace Outbox

/-! ### Deliveries in any table -/

namespace Row

variable {r : Row}

@[simp] theorem deliver_id : r.deliver.id = r.id := rfl

@[simp] theorem deliver_isPending : r.deliver.isPending = false := rfl

end Row

namespace Table

variable {t u : Table} {id other : RecordId} {ids : List RecordId} {n : Nat}

/-- A row of this number is there, and pending. -/
def waits (t : Table) (id : RecordId) : Bool := t.rows.any fun r => r.id = id && r.isPending

theorem waits_iff : t.waits id = true ↔ ∃ r ∈ t.rows, r.id = id ∧ r.isPending = true := by
  simp [waits]

/-- The table with those of the given rows delivered that are pending. -/
def delivered (t : Table) (ids : List RecordId) : Table :=
  { t with rows := t.rows.map fun r => if r.id ∈ ids ∧ t.waits r.id then r.deliver else r }

theorem delivered_of_not_waits (h : ∀ id ∈ ids, t.waits id = false) : t.delivered ids = t := by
  have same : ∀ r ∈ t.rows, (if r.id ∈ ids ∧ t.waits r.id then r.deliver else r) = r := by
    intro r _
    refine if_neg fun hr => ?_
    rw [h r.id hr.1] at hr
    cases hr.2
  unfold delivered
  rw [List.map_congr_left same, List.map_id']

/-- A row that was delivered does not wait any more; the others do as before. -/
theorem waits_delivered :
    (t.delivered [id]).waits other = true ↔ t.waits other = true ∧ other ≠ id := by
  rw [waits_iff]
  constructor
  · rintro ⟨r, hr, rfl, hp⟩
    obtain ⟨q, hq, rfl⟩ := List.mem_map.mp hr
    split at hp
    · rw [Row.deliver_isPending] at hp
      cases hp
    · next out =>
      rw [if_neg out]
      have waiting : t.waits q.id = true := waits_iff.mpr ⟨q, hq, rfl, hp⟩
      exact ⟨waiting, fun hid => out ⟨List.mem_singleton.mpr hid, waiting⟩⟩
  · rintro ⟨hw, hne⟩
    obtain ⟨r, hr, rfl, hp⟩ := waits_iff.mp hw
    refine ⟨r, List.mem_map.mpr ⟨r, hr, if_neg ?_⟩, rfl, hp⟩
    exact fun hid => hne (List.mem_singleton.mp hid.1)

theorem delivered_cons (t : Table) (id : RecordId) (ids : List RecordId) :
    (t.delivered [id]).delivered ids = t.delivered (id :: ids) := by
  have rows : ((t.delivered [id]).delivered ids).rows = (t.delivered (id :: ids)).rows := by
    refine List.map_map.trans (List.map_congr_left fun r _ => ?_)
    simp only [Function.comp_apply, waits_delivered, List.mem_cons]
    -- the first delivery has changed the rows of its own number only
    by_cases hw : t.waits r.id = true
    · by_cases hid : r.id = id
      · simp [hid, hid ▸ hw]
      · simp [hid, hw]
    · simp [hw]
  exact congrArg (fun rows => { t with rows }) rows

theorem deliver_eq (h : t.deliver id = .ok (n, u)) : u = t.delivered [id] := by
  unfold deliver at h
  split at h
  · next hw =>
    split at h
    · cases h
    · cases h
      have rows : (t.rows.map fun r => if r.id = id then r.deliver else r) =
          (t.delivered [id]).rows := by
        refine List.map_congr_left fun r _ => ?_
        by_cases hid : r.id = id
        · rw [if_pos hid, if_pos ⟨List.mem_singleton.mpr hid, hid ▸ hw⟩]
        · rw [if_neg hid, if_neg fun h => hid (List.mem_singleton.mp h.1)]
      exact congrArg (fun rows => { t with rows }) rows
  · next hw =>
    cases h
    refine (delivered_of_not_waits fun id' hid => ?_).symm
    rw [List.mem_singleton.mp hid]
    exact Bool.eq_false_iff.mpr hw

theorem deliverAll_eq (h : t.deliverAll ids = .ok (n, u)) : u = t.delivered ids := by
  induction ids generalizing t n with
  | nil =>
    cases h
    exact (delivered_of_not_waits (by simp)).symm
  | cons id ids ih =>
    obtain ⟨⟨k, v⟩, hv, h⟩ := bind_eq_ok.mp h
    obtain ⟨⟨m, w⟩, hw, h⟩ := bind_eq_ok.mp h
    cases h
    rw [ih hw, deliver_eq hv, delivered_cons]

end Table

theorem Events.full_eq_ok {events : Events} {t : Table} :
    events.full = .ok t ↔ events = .table t := by
  cases events <;> simp [full]

namespace Store

variable {s : Store}

/-- The store with another table of events. -/
def withTable (s : Store) (t : Table) : Store :=
  { s with live := { s.live with events := .table t } }

/-- A delivery in any store fails and changes nothing, or delivers those of the given rows of its
table that are pending. -/
theorem markDelivered_result (s : Store) {ids : List RecordId} (h : ids ≠ []) :
    (∃ fault, s.markDelivered ids = (.error fault, s)) ∨
      ∃ n t, s.live.events = .table t ∧
        s.markDelivered ids = (.ok n, s.withTable (t.delivered ids)) := by
  unfold markDelivered
  rw [if_neg (by simpa using h)]
  rcases s.write_result _ with ⟨fault, hw, -⟩ | ⟨n, d, hd, hw⟩
  · exact .inl ⟨fault, hw⟩
  · split at hd
    · cases hd
    · obtain ⟨⟨k, events⟩, he, hd⟩ := map_eq_ok.mp hd
      cases hd
      cases ht : s.live.events with
      | table t =>
        rw [ht] at he
        obtain ⟨⟨m, u⟩, hu, he⟩ := map_eq_ok.mp he
        cases he
        refine .inr ⟨n, t, rfl, ?_⟩
        rw [← Table.deliverAll_eq hu]
        exact hw
      | _ =>
        rw [ht] at he
        cases he

/-- An erasure of any store fails and changes nothing, or it clears the events. -/
theorem eraseAll_result (s : Store) :
    (∃ fault, s.eraseAll = (.error fault, s)) ∨
      ∃ events, s.poisoned = false ∧ s.live.events.clear = .ok events ∧
        s.eraseAll = (.ok (), { s with live := { s.live with events } }) := by
  unfold eraseAll
  rcases s.write_result fun d => d.events.clear.map fun events => ((), { d with events }) with
    ⟨fault, hw, -⟩ | ⟨_, d, hd, hw⟩
  · exact .inl ⟨fault, hw⟩
  · obtain ⟨events, hc, he⟩ := map_eq_ok.mp hd
    cases he
    refine .inr ⟨events, ?_, hc, hw⟩
    cases poisoned : s.poisoned with
    | false => rfl
    | true => simp [write, poisoned] at hw

theorem read_eq_ok {α : Type} {f : Database → Except DatabaseFault α} {a : α} :
    s.read f = .ok a ↔ s.poisoned = false ∧ f s.live = .ok a := by
  unfold read
  cases s.poisoned with
  | true => simp
  | false => cases f s.live <;> simp

/-- What is selected are the first pending rows of a table. -/
theorem selectPending_table {limit : Nat} {records : List Record}
    (h : s.selectPending limit = .ok records) (hl : 0 < limit) :
    ∃ t, s.live.events = .table t ∧ s.countPending = .ok t.pendingCount ∧
      recordsOf ((t.rows.filter Row.isPending).take limit) = .ok records := by
  unfold selectPending at h
  rw [if_neg (Nat.ne_of_gt hl)] at h
  obtain ⟨usable, h⟩ := read_eq_ok.mp h
  obtain ⟨t, ht, h⟩ := bind_eq_ok.mp h
  have events : s.live.events = .table t := Events.full_eq_ok.mp ht
  exact ⟨t, events, read_eq_ok.mpr ⟨usable, by rw [events]; rfl⟩, h⟩

/-- As much is selected as is pending, up to the limit. -/
theorem selectPending_length {limit : Nat} {records : List Record}
    (h : s.selectPending limit = .ok records) (hl : 0 < limit) :
    ∃ n, s.countPending = .ok n ∧ records.length = min limit n := by
  obtain ⟨t, -, counted, read⟩ := selectPending_table h hl
  refine ⟨t.pendingCount, counted, ?_⟩
  rw [length_of_mapM read, List.length_take, Table.pendingCount, List.countP_eq_length_filter]

/-- Nothing is pending where nothing was selected. -/
theorem countPending_of_selected_nil {limit : Nat} (h : s.selectPending limit = .ok [])
    (hl : 0 < limit) : s.countPending = .ok 0 := by
  obtain ⟨n, hn, none⟩ := selectPending_length h hl
  obtain rfl : n = 0 := by
    rw [List.length_nil] at none
    omega
  exact hn

end Store

/-! ### A whole attempt -/

open CredentialGate

variable {γ : Type} [CredentialGate γ]

section Attempts

variable (carry : Batch → Credential → StateM (Site γ) Outcome)

/-- The transport, with its calls noted down. -/
def noting (batch : Batch) (credential : Credential) :
    StateT (Site γ) (StateM (List (Batch × Credential))) Outcome :=
  fun site calls => (carry batch credential site, calls ++ [(batch, credential)])

/-- The outcome of what was sent, and what the site is like then. -/
def arrival (site : Site γ) : Option (Batch × Credential) → Option Outcome × Site γ
  | none => (none, site)
  | some (batch, credential) =>
    let (outcome, site) := carry batch credential site
    (some outcome, site)

/-- How an attempt with the transport `carry` ends: what it has sent, its report, and the site that
it leaves. -/
structure Exited (c : Coordinator) (site : Site γ) (sent : Option (Batch × Credential))
    (report : SyncReport) (site' : Site γ) : Prop where
  /-- It takes a credential, a store that can be read and a pending record to send something. -/
  sends : sent.isSome ↔ Authenticated site.gate ∧
    (∃ records, site.store.selectPending c.limit = .ok records) ∧
    ∃ n, site.store.countPending = .ok n ∧ 0 < n
  /-- The batch is that of the selected records, and the credential that of the gate. -/
  content : ∀ batch credential, sent = some (batch, credential) →
    current site.gate = some credential ∧ ∃ records,
      site.store.selectPending c.limit = .ok records ∧ batch = .assemble c.anonymizer records
  unauthenticated : report = .failed .unauthenticated ↔ ¬ Authenticated site.gate
  /-- A store that cannot be read is no store without data. -/
  noData : report = .noData ↔ Authenticated site.gate ∧
    (∃ records, site.store.selectPending c.limit = .ok records) ∧ site.store.countPending = .ok 0
  /-- Either the selection or the commit has failed. -/
  storage : ∀ reason, report = .failed (.storage reason) ↔
    (Authenticated site.gate ∧ ∃ fault, site.store.selectPending c.limit = .error fault ∧
      fault.message = reason) ∨
    ∃ batch credential fault, sent = some (batch, credential) ∧
      (arrival carry site sent).1 = some .delivered ∧
      ((arrival carry site sent).2.store.markDelivered batch.ids).1 = .error fault ∧
      fault.message = reason
  unauthorized : report = .failed .unauthorized ↔
    (arrival carry site sent).1 = some .unauthorized
  rejected : ∀ status, report = .failed (.rejected status) ↔
    (arrival carry site sent).1 = some (.rejected status)
  unreachable : ∀ reason, report = .failed (.unreachable reason) ↔
    (arrival carry site sent).1 = some (.unreachable reason)
  invalidCredential : ∀ reason, report = .failed (.invalidCredential reason) ↔
    (arrival carry site sent).1 = some (.invalidCredential reason)
  success : ∀ n, report = .success n ↔ ∃ batch credential k, sent = some (batch, credential) ∧
    (arrival carry site sent).1 = some .delivered ∧
    ((arrival carry site sent).2.store.markDelivered batch.ids).1 = .ok k ∧ n = batch.size
  /-- A success delivers the records of the batch that are there and pending, and nothing else. -/
  delivers : ∀ n batch credential, report = .success n → sent = some (batch, credential) →
    ∃ t, (arrival carry site sent).2.store.live.events = .table t ∧
      site'.store = (arrival carry site sent).2.store.withTable (t.delivered batch.ids)
  untouched : (∀ n, report ≠ .success n) → site'.store = (arrival carry site sent).2.store
  gate : site'.gate = if (arrival carry site sent).1 = some .unauthorized
    then invalidate (arrival carry site sent).2.gate else (arrival carry site sent).2.gate
  stats : site'.stats = (arrival carry site sent).2.stats.count report

variable {carry} {c : Coordinator} {site : Site γ}

theorem exited_of_begin_error {report : SyncReport}
    (h : c.begin site.gate site.store = .error report) :
    Exited carry c site none report { site with stats := site.stats.count report } := by
  rcases Coordinator.begin_error h with ⟨out, rfl⟩ | ⟨auth, ⟨fault, hs, rfl⟩ | ⟨hs, rfl⟩⟩
  · constructor <;> simp [arrival, out]
  · constructor <;> simp [arrival, auth, hs]
  · have hn := Store.countPending_of_selected_nil hs c.limit_pos
    constructor <;> simp [arrival, auth, hs, hn]

theorem exited_of_begin_ok {a : Attempt} (h : c.begin site.gate site.store = .ok a) {site₁ : Site γ}
    {outcome : Outcome} (hc : carry a.batch a.credential site = (outcome, site₁))
    {report : SyncReport} {gate : γ} {store : Store}
    (hf : a.finish outcome site₁.gate site₁.store = (report, gate, store)) :
    Exited carry c site (some (a.batch, a.credential)) report
      { gate, store, stats := site₁.stats.count report } := by
  obtain ⟨hu, records, nonempty, hs, hb⟩ := Coordinator.begin_ok h
  have auth : Authenticated site.gate := authenticated_iff.mpr ⟨_, hu⟩
  have arr : arrival carry site (some (a.batch, a.credential)) = (some outcome, site₁) := by
    rw [arrival, hc]
  obtain ⟨n, hn, hlen⟩ := Store.selectPending_length hs c.limit_pos
  have pos : 0 < n := by
    have := List.length_pos_iff.mpr nonempty
    omega
  have ids := Coordinator.begin_ids h
  have content : ∀ batch credential, some (a.batch, a.credential) = some (batch, credential) →
      current site.gate = some credential ∧ ∃ records,
        site.store.selectPending c.limit = .ok records ∧
          batch = .assemble c.anonymizer records := by
    rintro _ _ ⟨⟩
    exact ⟨(usable_eq_some.mp hu).2, records, hs, hb⟩
  cases outcome with
  | delivered =>
    rcases site₁.store.markDelivered_result ids with ⟨fault, hm⟩ | ⟨k, t, ht, hm⟩
    · simp only [Attempt.finish, hm, Prod.mk.injEq] at hf
      obtain ⟨rfl, rfl, rfl⟩ := hf
      constructor
      case content => exact content
      all_goals simp [arr, auth, hs, hn, pos, Nat.ne_of_gt pos, hm]
    · simp only [Attempt.finish, hm, Prod.mk.injEq] at hf
      obtain ⟨rfl, rfl, rfl⟩ := hf
      constructor
      case content => exact content
      case success => simp [arr, hm, eq_comm]
      all_goals simp [arr, auth, hs, hn, pos, Nat.ne_of_gt pos, hm, ht]
  | _ =>
    simp only [Attempt.finish, Prod.mk.injEq] at hf
    obtain ⟨rfl, rfl, rfl⟩ := hf
    constructor
    case content => exact content
    all_goals simp [arr, auth, hs, hn, pos, Nat.ne_of_gt pos]

/-- An attempt sends at most one batch, and ends as its stages say. -/
theorem runOnce_exited (carry : Batch → Credential → StateM (Site γ) Outcome) (c : Coordinator)
    (site : Site γ) (calls : List (Batch × Credential)) :
    ∃ sent report site', c.runOnce (noting carry) site calls =
        ((report, site'), calls ++ sent.toList) ∧ Exited carry c site sent report site' := by
  rw [c.runOnce_eq]
  cases h : c.begin site.gate site.store with
  | error report =>
    refine ⟨none, report, _, ?_, exited_of_begin_error h⟩
    rw [Option.toList_none, List.append_nil]
  | ok a =>
    rcases hc : carry a.batch a.credential site with ⟨outcome, site₁⟩
    rcases hf : a.finish outcome site₁.gate site₁.store with ⟨report, gate, store⟩
    refine ⟨some (a.batch, a.credential), report, _, ?_, exited_of_begin_ok h hc hf⟩
    simp only [noting, hc, hf, Option.toList_some]

/-- A store without its table is no store without data. -/
example : (Coordinator.runOnce {} (noting fun _ _ => pure .delivered)
    { gate := (⟨some ⟨"token"⟩⟩ : MemoryGate), store := .inMemory } []).1.1 =
      .failed (.storage "database error: no such table: connection_events") := rfl

end Attempts

end Outbox
