import Outbox.Command.Run
import Outbox.Proofs.Collector.Answers
import Outbox.Proofs.Sync.Draining

/-!
# Attempts over the network

Attempts that talk to a collector of whatever kind: what one of them asks, what it takes the reply
for, and which rows it delivers.
-/

namespace Outbox

open Http (Conversation Reply Request Status)
open CredentialGate

/-! ### Selected rows -/

theorem ids_of_recordsOf {rows : List Row} {records : List Record}
    (h : Store.recordsOf rows = .ok records) : records.map (·.id) = rows.map (·.id) :=
  map_of_mapM (fun _ _ hr => Row.toRecord_id hr) h

/-- An attempt begins with the first pending rows. -/
theorem Coordinator.begin_rows {γ : Type} [CredentialGate γ] {c : Coordinator} {gate : γ}
    {s : Store} {a : Attempt} (h : c.begin gate s = .ok a) :
    ∃ t, s.live.events = .table t ∧ s.countPending = .ok t.pendingCount ∧
      a.batch.ids = ((t.rows.filter Row.isPending).take c.limit).map (·.id) ∧
      a.batch.size = a.batch.ids.length := by
  obtain ⟨-, records, -, hs, batch⟩ := begin_ok h
  obtain ⟨t, ht, counted, read⟩ := Store.selectPending_table hs c.limit_pos
  have sent : a.batch.ids = records.map (·.id) := by
    rw [batch]
    rfl
  exact ⟨t, ht, counted, sent.trans (ids_of_recordsOf read), by simp [batch, Batch.size, Batch.assemble]⟩

/-! ### Rows that are delivered -/

namespace Table

variable {t : Table} {ids : List RecordId}

/-- The rows are in the order of their numbers, and no number is that of two rows. -/
def Ascending (t : Table) : Prop := t.rows.Pairwise fun a b => a.id < b.id

/-- How many rows are pending in the first table and delivered in the second. -/
def turned (t u : Table) : Nat :=
  t.rows.countP fun r => r.isPending && u.rows.any fun q => decide (q.id = r.id) && !q.isPending

theorem Ascending.eq_of_id (h : t.Ascending) {q r : Row} (hq : q ∈ t.rows) (hr : r ∈ t.rows)
    (same : q.id = r.id) : q = r := by
  have nodup : (t.rows.map (·.id)).Nodup :=
    List.pairwise_map.mpr (List.Pairwise.imp (fun h => Int.ne_of_lt h) h)
  exact List.inj_on_of_nodup_map nodup hq hr same

theorem Ascending.delivered (h : t.Ascending) (ids : List RecordId) :
    (t.delivered ids).Ascending := by
  refine List.pairwise_map.mpr (List.Pairwise.imp (fun {a b} hab => ?_) h)
  have kept : ∀ r : Row, (if r.id ∈ ids ∧ t.waits r.id then r.deliver else r).id = r.id := by
    intro r
    split <;> rfl
  rwa [kept, kept]

/-- Among the pending rows of a table are as many as there are numbers in a list without
repetition, of rows that wait. -/
theorem Ascending.countP_mem (h : t.Ascending) (nodup : ids.Nodup)
    (waiting : ∀ id ∈ ids, t.waits id = true) :
    (t.rows.countP fun r => r.isPending && decide (r.id ∈ ids)) = ids.length := by
  rw [List.countP_eq_length_filter, ← List.length_map (f := fun r : Row => r.id)]
  refine List.Perm.length_eq ((List.perm_ext_iff_of_nodup ?_ nodup).mpr fun id => ?_)
  · exact List.pairwise_map.mpr
      ((List.Pairwise.imp (fun h => Int.ne_of_lt h) h).sublist List.filter_sublist)
  · simp only [List.mem_map, List.mem_filter, Bool.and_eq_true, decide_eq_true_eq]
    constructor
    · rintro ⟨r, ⟨-, -, hid⟩, rfl⟩
      exact hid
    · intro hid
      obtain ⟨r, hr, rfl, pending⟩ := waits_iff.mp (waiting id hid)
      exact ⟨r, ⟨hr, pending, hid⟩, rfl⟩

/-- A row that was pending is pending after a delivery unless its number was among the given. -/
theorem isPending_delivered {r : Row} (hr : r ∈ t.rows) :
    (if r.id ∈ ids ∧ t.waits r.id then r.deliver else r).isPending =
      (r.isPending && !decide (r.id ∈ ids)) := by
  cases pending : r.isPending with
  | false =>
    split
    · rfl
    · simp [pending]
  | true =>
    have waiting : t.waits r.id = true := waits_iff.mpr ⟨r, hr, rfl, pending⟩
    by_cases hid : r.id ∈ ids <;> simp [hid, waiting, pending]

theorem Ascending.pendingCount_delivered (h : t.Ascending) (nodup : ids.Nodup)
    (waiting : ∀ id ∈ ids, t.waits id = true) :
    t.pendingCount = (t.delivered ids).pendingCount + ids.length := by
  have left : (t.delivered ids).pendingCount =
      t.rows.countP fun r => r.isPending && !decide (r.id ∈ ids) := by
    rw [pendingCount, Table.delivered, List.countP_map]
    refine List.countP_congr fun r hr => ?_
    rw [Function.comp_apply, isPending_delivered hr]
  rw [left, ← h.countP_mem nodup waiting, pendingCount]
  generalize t.rows = rows
  induction rows with
  | nil => rfl
  | cons r rows ih =>
    simp only [List.countP_cons, ih]
    cases r.isPending <;> by_cases hid : r.id ∈ ids <;> simp [hid] <;> omega

/-- As many rows turn as numbers were given. -/
theorem Ascending.turned_delivered (h : t.Ascending) (nodup : ids.Nodup)
    (waiting : ∀ id ∈ ids, t.waits id = true) : t.turned (t.delivered ids) = ids.length := by
  rw [← h.countP_mem nodup waiting, turned]
  refine List.countP_congr fun r hr => ?_
  simp only [Bool.and_eq_true, List.any_eq_true, decide_eq_true_eq, Bool.not_eq_true',
    and_congr_right_iff]
  intro pending
  constructor
  · rintro ⟨q, hq, same, done⟩
    obtain ⟨q', hq', rfl⟩ := List.mem_map.mp hq
    have kept : (if q'.id ∈ ids ∧ t.waits q'.id then q'.deliver else q').id = q'.id := by
      split <;> rfl
    obtain rfl := h.eq_of_id hq' hr (kept.symm.trans same)
    rw [isPending_delivered hr, pending] at done
    simpa using done
  · intro hid
    refine ⟨_, List.mem_map.mpr ⟨r, hr, rfl⟩, ?_, ?_⟩
    · split <;> rfl
    · rw [isPending_delivered hr, pending]
      simpa using hid

end Table

namespace Store

variable {s s' s'' : Store} {ids ids' : List RecordId}

/-- How many records are pending in the first store and delivered in the second. -/
def rowsTurned (s s' : Store) : Nat :=
  match s.live.events, s'.live.events with
  | .table t, .table u => t.turned u
  | _, _ => 0

/-- The records of these numbers, all of which were waiting, are delivered, and nothing else is
changed. -/
def Delivers (s s' : Store) (ids : List RecordId) : Prop :=
  (ids = [] ∧ s' = s) ∨ ∃ t, s.live.events = .table t ∧ s' = s.withTable (t.delivered ids) ∧
    ids.Nodup ∧ ∀ id ∈ ids, t.waits id = true

/-- The records of the store have numbers of their own. -/
def Ascending (s : Store) : Prop := ∀ t, s.live.events = .table t → t.Ascending

theorem Delivers.trans (h : s.Delivers s' ids) (h' : s'.Delivers s'' ids') :
    s.Delivers s'' (ids ++ ids') := by
  rcases h with ⟨rfl, rfl⟩ | ⟨t, ht, rfl, nodup, waiting⟩
  · exact h'
  · rcases h' with ⟨rfl, rfl⟩ | ⟨u, hu, rfl, nodup', waiting'⟩
    · rw [List.append_nil]
      exact .inr ⟨t, ht, rfl, nodup, waiting⟩
    · cases hu
      have still : ∀ id ∈ ids', t.waits id = true ∧ id ∉ ids :=
        fun id hid => Table.waits_delivered_iff.mp (waiting' id hid)
      refine .inr ⟨t, ht, ?_, ?_, ?_⟩
      · rw [withTable_withTable, Table.delivered_append]
      · exact List.nodup_append.mpr ⟨nodup, nodup', fun id hid id' hid' same =>
          (still id' hid').2 (same ▸ hid)⟩
      · intro id hid
        rcases List.mem_append.mp hid with hid | hid
        · exact waiting id hid
        · exact (still id hid).1

theorem Delivers.ascending (h : s.Delivers s' ids) (asc : s.Ascending) : s'.Ascending := by
  rcases h with ⟨-, rfl⟩ | ⟨t, ht, rfl, -, -⟩
  · exact asc
  · rintro _ ⟨⟩
    exact (asc t ht).delivered ids

/-- A delivery leaves alone what is beside the live database. -/
theorem Delivers.beside (h : s.Delivers s' ids) :
    s'.saved = s.saved ∧ s'.poisoned = s.poisoned := by
  rcases h with ⟨-, rfl⟩ | ⟨t, -, rfl, -⟩ <;> exact ⟨rfl, rfl⟩

/-- As many records turn as are delivered. -/
theorem Delivers.rowsTurned (h : s.Delivers s' ids) (asc : s.Ascending) :
    s.rowsTurned s' = ids.length := by
  rcases h with ⟨rfl, rfl⟩ | ⟨t, ht, rfl, nodup, waiting⟩
  · unfold Store.rowsTurned
    cases ht : s'.live.events with
    | table t =>
      have none := (asc t ht).turned_delivered List.nodup_nil (by simp)
      rwa [Table.delivered_nil] at none
    | _ => rfl
  · have own := (asc t ht).turned_delivered nodup waiting
    simp only [Store.rowsTurned, ht]
    exact own

theorem countPending_withTable {n : Nat} {u : Table} (h : s.countPending = .ok n) :
    (s.withTable u).countPending = .ok u.pendingCount :=
  read_eq_ok.mpr ⟨(read_eq_ok.mp h).1, rfl⟩

/-- No more records are pending than there are. -/
theorem countPending_le_countTotal {n : Nat} (h : s.countPending = .ok n) :
    ∃ total, s.countTotal = .ok total ∧ n ≤ total := by
  obtain ⟨usable, counted⟩ := read_eq_ok.mp h
  cases events : s.live.events with
  | table t =>
    rw [events] at counted
    cases counted
    exact ⟨t.rows.length, read_eq_ok.mpr ⟨usable, by rw [events]; rfl⟩, List.countP_le_length⟩
  | view =>
    rw [events] at counted
    cases counted
    exact ⟨1, read_eq_ok.mpr ⟨usable, by rw [events]; rfl⟩, le_rfl⟩
  | _ =>
    rw [events] at counted
    cases counted

/-- What a delivery leaves pending. -/
theorem Delivers.countPending (h : s.Delivers s' ids) (asc : s.Ascending) {n : Nat}
    (hn : s.countPending = .ok n) :
    ∃ left, s'.countPending = .ok left ∧ n = left + ids.length := by
  rcases h with ⟨rfl, rfl⟩ | ⟨t, ht, rfl, nodup, waiting⟩
  · exact ⟨n, hn, rfl⟩
  · refine ⟨_, countPending_withTable hn, ?_⟩
    have counted := (read_eq_ok.mp hn).2
    rw [ht] at counted
    cases counted
    exact (asc t ht).pendingCount_delivered nodup waiting

/-- The first pending rows can be delivered. -/
theorem delivers_selected {t : Table} (asc : s.Ascending) (ht : s.live.events = .table t)
    (limit : Nat) :
    s.Delivers (s.withTable (t.delivered (((t.rows.filter Row.isPending).take limit).map (·.id))))
      (((t.rows.filter Row.isPending).take limit).map (·.id)) := by
  refine .inr ⟨t, ht, rfl, ?_, fun id hid => ?_⟩
  · exact List.pairwise_map.mpr ((List.Pairwise.imp (fun h => Int.ne_of_lt h) (asc t ht)).sublist
      ((List.take_sublist _ _).trans List.filter_sublist))
  · obtain ⟨r, hr, rfl⟩ := List.mem_map.mp hid
    obtain ⟨hr, pending⟩ := List.mem_filter.mp (List.mem_of_mem_take hr)
    exact Table.waits_iff.mpr ⟨r, hr, rfl, pending⟩

end Store

/-! ### One attempt -/

/-- No outcome of a batch is taken for a failure of the store. -/
theorem Outcome.failure?_ne_storage {outcome : Outcome} {reason : String} :
    outcome.failure? ≠ some (.storage reason) := by
  cases outcome <;> simp [failure?]

/-- An exchange in which the collector has acknowledged what it was sent. -/
def Http.Acknowledged (x : Request × Reply) : Prop := x.2.Says Status.isSuccess

namespace Command

variable {σ : Type} {c : Coordinator} {client : Client} {serve : Request → σ → Reply × σ}
  {site : Site FileGate} {server : σ}

/-- An attempt is its first step, what the collector is asked, and its second step. -/
theorem attempt_eq (c : Coordinator) (client : Client) (site : Site FileGate) :
    attempt c client site =
      match c.begin site.gate site.store with
      | .error report => pure (report, { site with stats := site.stats.count report })
      | .ok a => client.sendBatch a.batch a.credential >>= fun outcome =>
        let ended := a.finish outcome site.gate site.store
        pure (ended.1,
          { gate := ended.2.1, store := ended.2.2, stats := site.stats.count ended.1 }) := by
  rw [show attempt c client site = _ from c.runOnce_bind _ site]
  cases c.begin site.gate site.store with
  | error report => rfl
  | ok a =>
    show (client.sendBatch a.batch a.credential >>= fun outcome => pure (outcome, site)) >>= _ = _
    rw [bind_assoc]
    rfl

/-- An attempt whose batch is sent ends as the answer makes it end. -/
theorem attempt_told {a : Attempt} {outcome : Outcome} {reply : Reply} {requests : List Request}
    (begun : c.begin site.gate site.store = .ok a)
    (sent : (client.sendBatch a.batch a.credential).told reply = (outcome, requests)) :
    let ended := a.finish outcome site.gate site.store
    (attempt c client site).told reply = ((ended.1,
      { gate := ended.2.1, store := ended.2.2, stats := site.stats.count ended.1 }), requests) := by
  rw [attempt_eq, begun]
  dsimp only
  rw [Conversation.told_map, sent]

/-- An attempt that does not begin asks nothing, and is counted. -/
theorem attempt_refused {report : SyncReport}
    (refused : c.begin site.gate site.store = .error report) (client : Client)
    (serve : Request → σ → Reply × σ) (server : σ) :
    (attempt c client site).run serve server =
        ((report, { site with stats := site.stats.count report }), server) ∧
      (attempt c client site).exchanges serve server = [] := by
  simp only [attempt_eq, refused, Conversation.run_pure, Conversation.exchanges_pure, and_self]

/-- An attempt that begins asks for its batch to be taken, and ends as it was answered. -/
theorem attempt_begun {a : Attempt} (begun : c.begin site.gate site.store = .ok a)
    (client : Client) (serve : Request → σ → Reply × σ) (server : σ) :
    let run := (attempt c client site).run serve server
    let sent := client.sendBatch a.batch a.credential
    let ended := a.finish (sent.run serve server).1 site.gate site.store
    run.1.1 = ended.1 ∧ run.1.2.store = ended.2.2 ∧
      (attempt c client site).exchanges serve server = sent.exchanges serve server := by
  simp only [attempt_eq, begun, Conversation.run_bind, Conversation.run_pure,
    Conversation.exchanges_bind, Conversation.exchanges_pure, List.append_nil, and_self]

/-- An attempt that does not begin does not succeed, and reports that there is no data only where
nothing is pending. -/
theorem report_of_refused {report : SyncReport}
    (refused : c.begin site.gate site.store = .error report) :
    (∀ n, report ≠ .success n) ∧ (report = .noData → site.store.countPending = .ok 0) := by
  rcases Coordinator.begin_error refused with ⟨-, rfl⟩ | ⟨-, ⟨fault, -, rfl⟩ | ⟨hs, rfl⟩⟩
  · exact ⟨by simp, by simp⟩
  · exact ⟨by simp, by simp⟩
  · exact ⟨by simp, fun _ => Store.countPending_of_selected_nil hs c.limit_pos⟩

/-- An attempt delivers the rows that it has sent, which the collector has acknowledged. Or it
leaves the store as it is, and what was acknowledged has only failed in the store. -/
theorem attempt_cases (c : Coordinator) (client : Client) (serve : Request → σ → Reply × σ)
    (site : Site FileGate) (server : σ) :
    let run := (attempt c client site).run serve server
    let exchanges := (attempt c client site).exchanges serve server
    (∃ t ids x, run.1.1 = .success ids.length ∧ ids ≠ [] ∧
      ids = ((t.rows.filter Row.isPending).take c.limit).map (·.id) ∧
      site.store.live.events = .table t ∧ site.store.countPending = .ok t.pendingCount ∧
      run.1.2.store = site.store.withTable (t.delivered ids) ∧
      exchanges = [x] ∧ Http.Acknowledged x) ∨
    (∀ n, run.1.1 ≠ .success n) ∧ run.1.2.store = site.store ∧
      (run.1.1 = .noData → site.store.countPending = .ok 0) ∧
      (exchanges = [] ∨ ∃ x, exchanges = [x] ∧
        (Http.Acknowledged x ↔ ∃ reason, run.1.1 = .failed (.storage reason))) := by
  intro run exchanges
  cases hb : c.begin site.gate site.store with
  | error report =>
    obtain ⟨result, silent⟩ := attempt_refused hb client serve server
    obtain ⟨unsuccessful, none⟩ := report_of_refused hb
    rw [show run = _ from result]
    exact .inr ⟨unsuccessful, rfl, none, .inl silent⟩
  | ok a =>
    obtain ⟨t, ht, counted, selected, size⟩ := Coordinator.begin_rows hb
    have some := Coordinator.begin_ids hb
    obtain ⟨report, left, asked⟩ := attempt_begun hb client serve server
    rw [show run.1.1 = _ from report, show run.1.2.store = _ from left,
      show exchanges = _ from asked]
    rcases client.sendBatch_run a.batch a.credential serve server with
      ⟨delivered, x, hx, yes⟩ | ⟨undelivered, heard⟩
    · rw [delivered]
      rcases site.store.markDelivered_result some with ⟨fault, hm⟩ | ⟨n, u, hu, hm⟩
      · refine .inr ?_
        simp only [Attempt.finish, hm]
        exact ⟨by simp, trivial, by simp, .inr ⟨x, hx, iff_of_true yes ⟨_, rfl⟩⟩⟩
      · cases ht.symm.trans hu
        refine .inl ⟨t, a.batch.ids, x, ?_, some, selected, ht, counted, ?_, hx, yes⟩
        · simp only [Attempt.finish, hm, size]
        · simp only [Attempt.finish, hm]
    · obtain ⟨failure, hf⟩ := (Outcome.failure?_cases _).resolve_left undelivered
      obtain ⟨gate, hfin⟩ := a.finish_failed hf site.gate site.store
      rw [hfin]
      refine .inr ⟨by simp, rfl, by simp, ?_⟩
      rcases heard with silent | ⟨x, hx, no⟩
      · exact .inl silent
      · refine .inr ⟨x, hx, iff_of_false no ?_⟩
        rintro ⟨reason, ⟨⟩⟩
        exact Outcome.failure?_ne_storage hf

section Made

variable {site₁ : Site FileGate} {server₁ : σ} {report : SyncReport} {n : Nat}

/-- A successful attempt delivers the rows that it has sent, all of which were waiting. -/
theorem delivers_of_success (asc : site.store.Ascending)
    (made : (attempt c client site).run serve server = ((.success n, site₁), server₁)) :
    ∃ ids, site.store.Delivers site₁.store ids ∧ ids.length = n ∧ 0 < n := by
  rcases attempt_cases c client serve site server with
    ⟨t, ids, x, success, some, selected, ht, -, left, -⟩ | ⟨unsuccessful, -⟩
  · rw [made] at success left
    cases success
    refine ⟨ids, ?_, rfl, List.length_pos_iff.mpr some⟩
    rw [left, selected]
    exact Store.delivers_selected asc ht c.limit
  · rw [made] at unsuccessful
    exact absurd rfl (unsuccessful n)

theorem acknowledged_of_success
    (made : (attempt c client site).run serve server = ((.success n, site₁), server₁)) :
    ∃ x, (attempt c client site).exchanges serve server = [x] ∧ Http.Acknowledged x := by
  rcases attempt_cases c client serve site server with
    ⟨t, ids, x, -, -, -, -, -, -, sent, yes⟩ | ⟨unsuccessful, -⟩
  · exact ⟨x, sent, yes⟩
  · rw [made] at unsuccessful
    exact absurd rfl (unsuccessful n)

theorem counted_of_success
    (made : (attempt c client site).run serve server = ((.success n, site₁), server₁)) :
    ∃ p, site.store.countPending = .ok p := by
  rcases attempt_cases c client serve site server with
    ⟨t, ids, x, -, -, -, -, counted, -⟩ | ⟨unsuccessful, -⟩
  · exact ⟨_, counted⟩
  · rw [made] at unsuccessful
    exact absurd rfl (unsuccessful n)

/-- Another attempt leaves the store as it is, and tells what has become of its batch. -/
theorem unchanged_of_unsuccessful (hr : ∀ n, report ≠ .success n)
    (made : (attempt c client site).run serve server = ((report, site₁), server₁)) :
    site₁.store = site.store ∧ (report = .noData → site.store.countPending = .ok 0) ∧
      ((attempt c client site).exchanges serve server = [] ∨
        ∃ x, (attempt c client site).exchanges serve server = [x] ∧
          (Http.Acknowledged x ↔ ∃ reason, report = .failed (.storage reason))) := by
  rcases attempt_cases c client serve site server with
    ⟨t, ids, x, success, -⟩ | ⟨-, same, empty, heard⟩
  · rw [made] at success
    exact absurd success (hr _)
  · rw [made] at same empty heard
    exact ⟨same, empty, heard⟩

end Made

/-! ### Attempts one after the other -/

/-- Attempts one after the other, each on the site and with the server that the one before has left,
until one does not succeed, or `rest` more after the first have succeeded: their reports, what was
exchanged, and the site and the server at the end. -/
inductive Uploads (c : Coordinator) (client : Client) (serve : Request → σ → Reply × σ) :
    Nat → Site FileGate → σ → List SyncReport → List (Request × Reply) → Site FileGate → σ → Prop
  | ended {rest : Nat} {site site' : Site FileGate} {server server' : σ} {report : SyncReport}
      (made : (attempt c client site).run serve server = ((report, site'), server'))
      (unsuccessful : ∀ n, report ≠ .success n) :
      Uploads c client serve rest site server [report]
        ((attempt c client site).exchanges serve server) site' server'
  | last {site site' : Site FileGate} {server server' : σ} {n : Nat}
      (made : (attempt c client site).run serve server = ((.success n, site'), server')) :
      Uploads c client serve 0 site server [.success n]
        ((attempt c client site).exchanges serve server) site' server'
  | next {rest n : Nat} {site site₁ site' : Site FileGate} {server server₁ server' : σ}
      {reports : List SyncReport} {exchanges : List (Request × Reply)}
      (made : (attempt c client site).run serve server = ((.success n, site₁), server₁))
      (more : Uploads c client serve rest site₁ server₁ reports exchanges site' server') :
      Uploads c client serve (rest + 1) site server (.success n :: reports)
        ((attempt c client site).exchanges serve server ++ exchanges) site' server'

/-- How many records an attempt has delivered, if it has succeeded. -/
def delivered? : SyncReport → Option Nat
  | .success n => some n
  | _ => none

theorem delivered?_unsuccessful {report : SyncReport} (h : ∀ n, report ≠ .success n) :
    delivered? report = none := by
  cases report with
  | success n => exact absurd rfl (h n)
  | _ => rfl

section Go

variable {site₁ : Site FileGate} {server₁ : σ} {report : SyncReport} {n : Nat}

theorem go_ended (made : (attempt c client site).run serve server = ((report, site₁), server₁))
    (hr : ∀ n, report ≠ .success n) (batches delivered rest : Nat) :
    let go := (drain.go (attempt c client) batches delivered rest).run site
    go.run serve server = ((⟨batches, delivered, report⟩, site₁), server₁) ∧
      go.exchanges serve server = (attempt c client site).exchanges serve server := by
  have first : (attempt c client).run site = attempt c client site := rfl
  rcases rest with _ | rest
  all_goals
    simp only [drain.go, StateT.run_bind, Conversation.run_bind, Conversation.exchanges_bind, first,
      made]
    cases report with
    | success n => exact absurd rfl (hr n)
    | _ => exact ⟨rfl, List.append_nil _⟩

/-- A series ends with its first attempt if that one fails. -/
theorem drain_told {failure : SyncFailure} {reply : Reply} {requests : List Request} (max : Nat)
    (failed : (attempt c client site).told reply = ((.failed failure, site₁), requests)) :
    ((drain (attempt c client) max).run site).told reply =
      ((⟨0, 0, .failed failure⟩, site₁), requests) := by
  obtain ⟨result, sent⟩ := Prod.ext_iff.mp failed
  have made : (attempt c client site).run (fun _ _ => (reply, ())) () =
      ((.failed failure, site₁), ()) := Prod.ext result rfl
  obtain ⟨run, asked⟩ := go_ended made (fun _ => nofun) 0 0 (max - 1)
  exact Prod.ext (Prod.ext_iff.mp run).1 ((congrArg (List.map Prod.fst) asked).trans sent)

theorem go_last (made : (attempt c client site).run serve server = ((.success n, site₁), server₁))
    (batches delivered : Nat) :
    let go := (drain.go (attempt c client) batches delivered 0).run site
    go.run serve server = ((⟨batches + 1, delivered + n, .success n⟩, site₁), server₁) ∧
      go.exchanges serve server = (attempt c client site).exchanges serve server := by
  have first : (attempt c client).run site = attempt c client site := rfl
  simp only [drain.go, StateT.run_bind, Conversation.run_bind, Conversation.exchanges_bind, first,
    made]
  exact ⟨rfl, List.append_nil _⟩

theorem go_next (made : (attempt c client site).run serve server = ((.success n, site₁), server₁))
    (batches delivered rest : Nat) :
    let go := (drain.go (attempt c client) batches delivered (rest + 1)).run site
    let later := (drain.go (attempt c client) (batches + 1) (delivered + n) rest).run site₁
    go.run serve server = later.run serve server₁ ∧
      go.exchanges serve server =
        (attempt c client site).exchanges serve server ++ later.exchanges serve server₁ := by
  have first : (attempt c client).run site = attempt c client site := rfl
  simp only [drain.go, StateT.run_bind, Conversation.run_bind, Conversation.exchanges_bind, first,
    made, and_self]

end Go

/-- A series of attempts makes them one after the other, and tells what they have reported. -/
theorem go_uploads (c : Coordinator) (client : Client) (serve : Request → σ → Reply × σ)
    (site : Site FileGate) (server : σ) (batches delivered rest : Nat) :
    ∃ reports exchanges site' server' last,
      Uploads c client serve rest site server reports exchanges site' server' ∧
      reports.getLast? = some last ∧
      let go := (drain.go (attempt c client) batches delivered rest).run site
      go.run serve server = ((⟨batches + (reports.filterMap delivered?).length,
        delivered + (reports.filterMap delivered?).sum, last⟩, site'), server') ∧
      go.exchanges serve server = exchanges := by
  rcases made : (attempt c client site).run serve server with ⟨⟨report, site₁⟩, server₁⟩
  by_cases success : ∃ n, report = .success n
  · obtain ⟨n, rfl⟩ := success
    cases rest with
    | zero =>
      refine ⟨_, _, _, _, _, .last made, rfl, ?_⟩
      simpa [delivered?] using go_last made batches delivered
    | succ rest =>
      obtain ⟨reports, exchanges, site', server', last, more, hl, hr, hx⟩ :=
        go_uploads c client serve site₁ server₁ (batches + 1) (delivered + n) rest
      obtain ⟨run, asked⟩ := go_next made batches delivered rest
      refine ⟨_, _, _, _, last, .next made more, ?_, ?_, ?_⟩
      · rw [List.getLast?_cons, hl, Option.getD_some]
      · rw [run, hr]
        simp only [delivered?, List.filterMap_cons, List.length_cons, List.sum_cons]
        rw [Nat.add_assoc, Nat.add_comm 1, Nat.add_assoc]
      · rw [asked, hx]
  · have unsuccessful : ∀ n, report ≠ .success n := fun n hn => success ⟨n, hn⟩
    refine ⟨_, _, _, _, _, .ended made unsuccessful, rfl, ?_⟩
    simpa [delivered?_unsuccessful unsuccessful] using
      go_ended made unsuccessful batches delivered rest

/-! ### What attempts come to -/

namespace Uploads

variable {rest : Nat} {site' : Site FileGate} {server' : σ} {reports : List SyncReport}
  {exchanges : List (Request × Reply)}

theorem ne_nil (h : Uploads c client serve rest site server reports exchanges site' server') :
    reports ≠ [] := by
  cases h <;> exact List.cons_ne_nil _ _

/-- A series ends as its later part does. -/
theorem getLast?_cons (h : Uploads c client serve rest site server reports exchanges site' server')
    (report : SyncReport) : (report :: reports).getLast? = reports.getLast? := by
  obtain ⟨last, hl⟩ := Option.isSome_iff_exists.mp (List.getLast?_isSome.mpr h.ne_nil)
  rw [List.getLast?_cons, hl, Option.getD_some]

/-- The successful attempts deliver as many records as they report, each at least one. -/
theorem delivers (h : Uploads c client serve rest site server reports exchanges site' server')
    (asc : site.store.Ascending) :
    ∃ ids, site.store.Delivers site'.store ids ∧
      ids.length = (reports.filterMap delivered?).sum ∧
      (reports.filterMap delivered?).length ≤ ids.length := by
  induction h with
  | ended made unsuccessful =>
    obtain ⟨same, -⟩ := unchanged_of_unsuccessful unsuccessful made
    exact ⟨[], .inl ⟨rfl, same⟩, by simp [delivered?_unsuccessful unsuccessful]⟩
  | last made =>
    obtain ⟨ids, done, length, pos⟩ := delivers_of_success asc made
    refine ⟨ids, done, by simp [delivered?, length], ?_⟩
    rw [length]
    exact pos
  | next made more ih =>
    obtain ⟨ids, done, length, pos⟩ := delivers_of_success asc made
    obtain ⟨ids', done', length', most⟩ := ih (done.ascending asc)
    refine ⟨ids ++ ids', done.trans done', ?_, ?_⟩
    · simp [delivered?, length, length']
    · simp only [delivered?, List.filterMap_cons, List.length_cons, List.length_append]
      omega

/-- There is one acknowledgement for each successful attempt. Another one has come at most for the
last attempt, if the store has failed to deliver its batch. -/
theorem acknowledged
    (h : Uploads c client serve rest site server reports exchanges site' server') :
    ∃ acknowledged later, exchanges = acknowledged ++ later ∧
      acknowledged.length = (reports.filterMap delivered?).length ∧
      (∀ x ∈ acknowledged, Http.Acknowledged x) ∧ later.length ≤ 1 ∧
      ∀ x ∈ later, Http.Acknowledged x ↔
        ∃ reason, reports.getLast? = some (.failed (.storage reason)) := by
  induction h with
  | ended made unsuccessful =>
    obtain ⟨-, -, silent | ⟨x, hx, yes⟩⟩ := unchanged_of_unsuccessful unsuccessful made
    · exact ⟨[], [], silent, by simp [delivered?_unsuccessful unsuccessful],
        List.forall_mem_nil _, by simp, List.forall_mem_nil _⟩
    · refine ⟨[], [x], hx, by simp [delivered?_unsuccessful unsuccessful],
        List.forall_mem_nil _, by simp, ?_⟩
      simpa using yes
  | last made =>
    obtain ⟨x, hx, yes⟩ := acknowledged_of_success made
    exact ⟨[x], [], by rw [hx, List.append_nil], rfl, by simpa using yes, by simp,
      List.forall_mem_nil _⟩
  | @next _ _ _ _ _ _ _ _ reports _ made more ih =>
    obtain ⟨x, hx, yes⟩ := acknowledged_of_success made
    obtain ⟨front, later, hl, length, all, one, last⟩ := ih
    refine ⟨x :: front, later, by rw [hx, hl, List.singleton_append, List.cons_append],
      by simp [delivered?, length], ?_, one, ?_⟩
    · exact fun y hy => (List.mem_cons.mp hy).elim (fun same => same ▸ yes) (all y)
    · rw [more.getLast?_cons]
      exact last

/-- Where the last attempt has found nothing, nothing is left. -/
theorem noData (h : Uploads c client serve rest site server reports exchanges site' server')
    (last : reports.getLast? = some .noData) : site'.store.countPending = .ok 0 := by
  induction h with
  | ended made unsuccessful =>
    obtain ⟨same, empty, -⟩ := unchanged_of_unsuccessful unsuccessful made
    rw [same]
    exact empty (by simpa using last)
  | last made => simp at last
  | next made more ih =>
    rw [more.getLast?_cons] at last
    exact ih last

/-- Where the last attempt has succeeded, there were as many as there could be, and the records can
still be counted. -/
theorem success {n : Nat}
    (h : Uploads c client serve rest site server reports exchanges site' server')
    (last : reports.getLast? = some (.success n)) :
    (reports.filterMap delivered?).length = rest + 1 ∧
      ∃ p, site.store.countPending = .ok p := by
  induction h with
  | ended made unsuccessful => exact absurd (by simpa using last) (unsuccessful n)
  | last made => exact ⟨rfl, counted_of_success made⟩
  | next made more ih =>
    rw [more.getLast?_cons] at last
    exact ⟨by simp [delivered?, (ih last).1], counted_of_success made⟩

/-- Where the last attempt has not failed, the records that are left can be counted. -/
theorem counted (h : Uploads c client serve rest site server reports exchanges site' server')
    (own : site.store.Ascending) (well : ∀ failure, reports.getLast? ≠ some (.failed failure)) :
    ∃ n, site'.store.countPending = .ok n := by
  obtain ⟨last, hl⟩ := Option.isSome_iff_exists.mp (List.getLast?_isSome.mpr h.ne_nil)
  cases last with
  | noData => exact ⟨0, h.noData hl⟩
  | success n =>
    obtain ⟨ids, done, -⟩ := h.delivers own
    obtain ⟨-, p, hp⟩ := h.success hl
    obtain ⟨left, counted, -⟩ := done.countPending own hp
    exact ⟨left, counted⟩
  | failed failure => exact absurd hl (well failure)

/-- Where the last attempt has not failed, and there could be as many attempts as records, none is
left. -/
theorem drained (h : Uploads c client serve rest site server reports exchanges site' server')
    (own : site.store.Ascending) (well : ∀ failure, reports.getLast? ≠ some (.failed failure))
    (enough : ∀ n, site.store.countTotal = .ok n → n ≤ rest + 1) :
    site'.store.countPending = .ok 0 := by
  obtain ⟨last, hl⟩ := Option.isSome_iff_exists.mp (List.getLast?_isSome.mpr h.ne_nil)
  cases last with
  | noData => exact h.noData hl
  | success n =>
    obtain ⟨ids, done, -, most⟩ := h.delivers own
    obtain ⟨all, p, hp⟩ := h.success hl
    obtain ⟨left, counted, sum⟩ := done.countPending own hp
    -- each of the attempts has delivered a record at least
    obtain ⟨total, ht, bound⟩ := Store.countPending_le_countTotal hp
    have := enough total ht
    obtain rfl : left = 0 := by omega
    exact counted
  | failed failure => exact absurd hl (well failure)

end Uploads

end Command

end Outbox
