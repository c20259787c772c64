import Mathlib.Data.ENat.Lattice
import Outbox.Proofs.Sync.Disclosure

/-!
# Series of attempts

What a series of attempts does to a store that nobody else works on, with a transport that answers
in whatever way: how many batches go through, what they hold, what is delivered, and why the series
ends (`drain_exact`). A series is a run of successful attempts, each of which takes the oldest
records that the one before has left, and its end (`Series`).
-/

namespace Outbox

open CredentialGate

/-! ### Deliveries one after the other -/

namespace Table

@[simp] theorem delivered_nil (t : Table) : t.delivered [] = t := delivered_of_not_waits (by simp)

theorem delivered_append (t : Table) (ids ids' : List RecordId) :
    (t.delivered ids).delivered ids' = t.delivered (ids ++ ids') := by
  induction ids generalizing t with
  | nil => rw [delivered_nil, List.nil_append]
  | cons id ids ih => rw [← delivered_cons, ih, delivered_cons, List.cons_append]

/-- Those wait after a delivery that have waited before, and were not among the given. -/
theorem waits_delivered_iff {t : Table} {ids : List RecordId} {other : RecordId} :
    (t.delivered ids).waits other = true ↔ t.waits other = true ∧ other ∉ ids := by
  induction ids generalizing t with
  | nil => simp
  | cons id ids ih => rw [← delivered_cons, ih, waits_delivered, List.mem_cons, not_or, and_assoc]

end Table

namespace Store

variable {s : Store} {t u : Table}

@[simp] theorem withTable_withTable (s : Store) (t u : Table) :
    (s.withTable t).withTable u = s.withTable u := rfl

theorem withTable_eq_self (h : s.live.events = .table t) : s.withTable t = s := by
  unfold withTable
  rw [← h]

end Store

/-! ### One attempt -/

/-- The failure of an attempt whose batch has this outcome. -/
def Outcome.failure? : Outcome → Option SyncFailure
  | .delivered => none
  | .unauthorized => some .unauthorized
  | .rejected status => some (.rejected status)
  | .unreachable reason => some (.unreachable reason)
  | .invalidCredential reason => some (.invalidCredential reason)

theorem Outcome.failure?_cases (outcome : Outcome) :
    outcome = .delivered ∨ ∃ failure, outcome.failure? = some failure := by
  cases outcome with
  | delivered => exact .inl rfl
  | _ => exact .inr ⟨_, rfl⟩

theorem Outcome.ne_delivered {outcome : Outcome} {failure : SyncFailure}
    (h : outcome.failure? = some failure) : outcome ≠ .delivered := by
  rintro rfl
  cases h

variable {γ : Type} [CredentialGate γ]

/-- Without an acknowledgement an attempt fails, and leaves the store as it is. -/
theorem Attempt.finish_failed {outcome : Outcome} {failure : SyncFailure}
    (h : outcome.failure? = some failure) (a : Attempt) (gate : γ) (store : Store) :
    ∃ gate', a.finish outcome gate store = (.failed failure, gate', store) := by
  cases outcome with
  | delivered => cases h
  | _ =>
    cases h
    exact ⟨_, rfl⟩

/-- The batch of the oldest of these records. -/
def Coordinator.batchFrom (c : Coordinator) (pending : List Record) : Batch :=
  .assemble c.anonymizer (pending.take c.limit)

theorem Coordinator.batchOf_eq (c : Coordinator) (l : Log) :
    c.batchOf l = c.batchFrom (l.pending.map Record.kept) := by
  rw [batchFrom, ← List.map_take]
  rfl

theorem Coordinator.size_batchFrom (c : Coordinator) (pending : List Record) :
    (c.batchFrom pending).size = min c.limit pending.length := by
  simp [batchFrom, Batch.assemble, Batch.size]

theorem Coordinator.ids_batchFrom (c : Coordinator) (pending : List Record) :
    (c.batchFrom pending).ids = (pending.take c.limit).map (·.id) := rfl

/-- A transport that gives one answer after the other, and notes down what it is sent. -/
def answering (answers : Nat → Outcome) (batch : Batch) (credential : Credential) :
    StateT (Site γ) (StateM (List (Batch × Credential))) Outcome :=
  fun site sent => ((answers sent.length, site), sent ++ [(batch, credential)])

section Attempts

variable {site : Site γ} {l : Log} {credential : Credential}

/-- An attempt with a credential finds nothing to send, or sends the oldest pending records and then
fails or delivers them, as it is answered. -/
theorem runOnce_answering (c : Coordinator) (answers : Nat → Outcome)
    (hold : site.store.Holds l) (ho : site.store.Writable)
    (hu : usable site.gate = some credential) (sent : List (Batch × Credential)) :
    (l.pending = [] ∧ ∃ stats, c.runOnce (answering answers) site sent =
      ((.noData, { site with stats }), sent)) ∨
    (l.pending ≠ [] ∧ ∃ failure gate stats, (answers sent.length).failure? = some failure ∧
      c.runOnce (answering answers) site sent =
        ((.failed failure, { site with gate, stats }), sent ++ [(c.batchOf l, credential)])) ∨
    (l.pending ≠ [] ∧ answers sent.length = .delivered ∧ ∃ t stats,
      site.store.live.events = .table t ∧
      c.runOnce (answering answers) site sent =
        ((.success (c.batchOf l).size,
          { site with store := site.store.withTable (t.delivered (c.batchOf l).ids), stats }),
          sent ++ [(c.batchOf l, credential)]) ∧
      (site.store.withTable (t.delivered (c.batchOf l).ids)).Holds
        (l.deliver (c.batchOf l).ids)) := by
  rw [c.runOnce_eq, Coordinator.begin_eq hold, hu]
  by_cases empty : l.pending = []
  · exact .inl ⟨empty, site.stats.count .noData, by simp only [if_pos empty]⟩
  · simp only [if_neg empty, answering]
    rcases (answers sent.length).failure?_cases with ha | ⟨failure, hf⟩
    · refine .inr (.inr ⟨empty, ha, ?_⟩)
      have ids := Alike.ids_ne_nil c empty
      obtain ⟨store, hm, hs⟩ := Store.markDelivered_writable hold ho (c.batchOf l).ids
      rcases site.store.markDelivered_result ids with ⟨fault, hm'⟩ | ⟨n, t, ht, hm'⟩
      · rw [hm'] at hm
        cases hm
      · obtain rfl : site.store.withTable (t.delivered (c.batchOf l).ids) = store :=
          congrArg Prod.snd (hm'.symm.trans hm)
        refine ⟨t, site.stats.count (.success (c.batchOf l).size), ht, ?_, hs⟩
        simp only [ha, Attempt.finish, hm]
    · obtain ⟨gate, hfin⟩ :=
        Attempt.finish_failed hf ⟨c.batchOf l, credential⟩ site.gate site.store
      refine .inr (.inl ⟨empty, failure, gate, site.stats.count (.failed failure), hf, ?_⟩)
      simp only [hfin]

end Attempts

/-! ### Many attempts -/

/-- A series of attempts, the first of which gets the answer number `i`: what it reports and the
batches that it sends, if these records are pending and at most `rest` attempts come after the first
one. -/
inductive Series (c : Coordinator) (answers : Nat → Outcome) :
    (i rest : Nat) → (pending : List Record) → DrainReport → List Batch → Prop
  | exhausted {i rest : Nat} : Series c answers i rest [] ⟨0, 0, .noData⟩ []
  | failed {i rest : Nat} {pending : List Record} {failure : SyncFailure} (waiting : pending ≠ [])
      (hf : (answers i).failure? = some failure) :
      Series c answers i rest pending ⟨0, 0, .failed failure⟩ [c.batchFrom pending]
  | last {i : Nat} {pending : List Record} (waiting : pending ≠ []) (ha : answers i = .delivered) :
      Series c answers i 0 pending
        ⟨1, (c.batchFrom pending).size, .success (c.batchFrom pending).size⟩ [c.batchFrom pending]
  | next {i rest : Nat} {pending : List Record} {r : DrainReport} {batches : List Batch}
      (waiting : pending ≠ []) (ha : answers i = .delivered)
      (h : Series c answers (i + 1) rest (pending.drop c.limit) r batches) :
      Series c answers i (rest + 1) pending
        ⟨r.batches + 1, (c.batchFrom pending).size + r.delivered, r.last⟩
        (c.batchFrom pending :: batches)

/-- The numbers of the oldest pending records. -/
def Log.oldest (l : Log) (n : Nat) : List RecordId := (l.pending.take n).map (·.id)

theorem Log.deliver_append (l : Log) (ids ids' : List RecordId) :
    (l.deliver ids).deliver ids' = l.deliver (ids ++ ids') := by
  induction ids generalizing l with
  | nil => rw [deliver_nil, List.nil_append]
  | cons id ids ih => rw [← deliver_cons, ih, deliver_cons, List.cons_append]

/-- The records that are the oldest after the commit of a batch follow those of the batch. -/
theorem Log.oldest_commit (l : Log) (c : Coordinator) (n : Nat) :
    (c.batchOf l).ids ++ (l.deliver (c.batchOf l).ids).oldest n = l.oldest (c.limit + n) := by
  rw [oldest, oldest, c.pending_commit, c.batchOf_ids, List.take_add, List.map_append]

theorem Store.Writable.withTable {s : Store} {t : Table} (ho : s.Writable)
    (ht : s.live.events = .table t) (ids : List RecordId) :
    (s.withTable (t.delivered ids)).Writable :=
  ⟨(ho.table ht : t.guards = {}), ho.writable⟩

section Go

variable {σ τ : Type} {attempt : StateT σ (StateM τ) SyncReport} {x x' : σ} {w w' : τ}

/-- An attempt without success ends a series. -/
theorem go_ended {report : SyncReport} (h : attempt x w = ((report, x'), w'))
    (hr : ∀ n, report ≠ .success n) (batches delivered rest : Nat) :
    drain.go attempt batches delivered rest x w = ((⟨batches, delivered, report⟩, x'), w') := by
  cases rest with
  | zero =>
    simp only [drain.go, bind, StateT.bind]
    rw [h]
    cases report with
    | success n => exact absurd rfl (hr n)
    | _ => rfl
  | succ rest =>
    simp only [drain.go, bind, StateT.bind]
    rw [h]
    cases report with
    | success n => exact absurd rfl (hr n)
    | _ => rfl

/-- The last attempt that a series may make ends it. -/
theorem go_last {n : Nat} (h : attempt x w = ((.success n, x'), w')) (batches delivered : Nat) :
    drain.go attempt batches delivered 0 x w =
      ((⟨batches + 1, delivered + n, .success n⟩, x'), w') := by
  simp only [drain.go, bind, StateT.bind]
  rw [h]
  rfl

/-- After a successful attempt the series goes on. -/
theorem go_next {n : Nat} (h : attempt x w = ((.success n, x'), w'))
    (batches delivered rest : Nat) :
    drain.go attempt batches delivered (rest + 1) x w =
      drain.go attempt (batches + 1) (delivered + n) rest x' w' := by
  simp only [drain.go, bind, StateT.bind]
  rw [h]

end Go

section Series

variable {c : Coordinator} {answers : Nat → Outcome} {site : Site γ} {l : Log}
  {credential : Credential}

/-- What comes of the attempts of a series, after some batches were sent: reports, the batches of a
series, and a store in which the records of its successful attempts are delivered. -/
def Follows (c : Coordinator) (answers : Nat → Outcome) (credential : Credential) (site : Site γ)
    (l : Log) (batches delivered rest : Nat) (sent : List (Batch × Credential))
    (result : (DrainReport × Site γ) × List (Batch × Credential)) : Prop :=
  ∃ r bs gate stats t, site.store.live.events = .table t ∧
    result =
      ((⟨batches + r.batches, delivered + r.delivered, r.last⟩,
        ⟨gate, site.store.withTable (t.delivered (l.oldest (r.batches * c.limit))), stats⟩),
        sent ++ bs.map fun b => (b, credential)) ∧
    Series c answers sent.length rest (l.pending.map Record.kept) r bs ∧
    (site.store.withTable (t.delivered (l.oldest (r.batches * c.limit)))).Holds
      (l.deliver (l.oldest (r.batches * c.limit)))

omit [CredentialGate γ] in
/-- A series that ends without a delivery leaves the store as it is. -/
theorem Follows.ended (hold : site.store.Holds l) {batches delivered rest : Nat}
    {sent : List (Batch × Credential)} {last : SyncReport} {bs : List Batch} {gate : γ}
    {stats : SyncStats}
    (h : Series c answers sent.length rest (l.pending.map Record.kept) ⟨0, 0, last⟩ bs) :
    Follows c answers credential site l batches delivered rest sent
      ((⟨batches, delivered, last⟩, { site with gate, stats }),
        sent ++ bs.map fun b => (b, credential)) := by
  obtain ⟨t, ht, -⟩ := hold.table
  have none : l.oldest (0 * c.limit) = [] := by simp [Log.oldest]
  refine ⟨_, bs, gate, stats, t, ht, ?_, h, ?_⟩
  · rw [none, Table.delivered_nil, Store.withTable_eq_self ht]
    rfl
  · rwa [none, Table.delivered_nil, Store.withTable_eq_self ht, Log.deliver_nil]

omit [CredentialGate γ] in
/-- A successful attempt, and what follows it, commits the batches one after the other. -/
theorem Follows.next {batches delivered rest : Nat} {sent : List (Batch × Credential)}
    {t : Table} {stats : SyncStats} (waiting : l.pending ≠ [])
    (ha : answers sent.length = .delivered) (ht : site.store.live.events = .table t)
    {result : (DrainReport × Site γ) × List (Batch × Credential)}
    (h : Follows c answers credential
      { site with store := site.store.withTable (t.delivered (c.batchOf l).ids), stats }
      (l.deliver (c.batchOf l).ids) (batches + 1) (delivered + (c.batchOf l).size) rest
      (sent ++ [(c.batchOf l, credential)]) result) :
    Follows c answers credential site l batches delivered (rest + 1) sent result := by
  obtain ⟨r, bs, gate, stats', u, hu, rfl, series, hs⟩ := h
  obtain rfl : t.delivered (c.batchOf l).ids = u := by
    injection hu
  have ids : (c.batchOf l).ids ++ (l.deliver (c.batchOf l).ids).oldest (r.batches * c.limit) =
      l.oldest ((r.batches + 1) * c.limit) := by
    rw [l.oldest_commit, Nat.add_mul, Nat.one_mul, Nat.add_comm]
  simp only [Store.withTable_withTable, Table.delivered_append, Log.deliver_append, ids] at hs ⊢
  rw [List.length_append, List.length_singleton, c.pending_commit, List.map_drop] at series
  have some : l.pending.map Record.kept ≠ [] := mt List.map_eq_nil_iff.mp waiting
  refine ⟨_, _, gate, stats', t, ht, ?_, .next some ha series, hs⟩
  rw [← c.batchOf_eq, List.map_cons, List.append_assoc, List.singleton_append, Nat.add_assoc,
    Nat.add_assoc, Nat.add_comm 1]

omit [CredentialGate γ] in
/-- The last attempt of a series commits its batch. -/
theorem Follows.last {batches delivered : Nat} {sent : List (Batch × Credential)}
    {t : Table} {stats : SyncStats} (waiting : l.pending ≠ [])
    (ha : answers sent.length = .delivered) (ht : site.store.live.events = .table t)
    (hs : (site.store.withTable (t.delivered (c.batchOf l).ids)).Holds
      (l.deliver (c.batchOf l).ids)) :
    Follows c answers credential site l batches delivered 0 sent
      ((⟨batches + 1, delivered + (c.batchOf l).size, .success (c.batchOf l).size⟩,
        { site with store := site.store.withTable (t.delivered (c.batchOf l).ids), stats }),
        sent ++ [(c.batchOf l, credential)]) := by
  have some : l.pending.map Record.kept ≠ [] := mt List.map_eq_nil_iff.mp waiting
  have ids : l.oldest (1 * c.limit) = (c.batchOf l).ids := by
    rw [Nat.one_mul, Log.oldest, c.batchOf_ids]
  refine ⟨_, _, site.gate, stats, t, ht, ?_, .last some ha, ?_⟩
  · rw [ids, c.batchOf_eq]
    rfl
  · rwa [ids]

/-- The attempts of a series, however many have come before. -/
theorem go_follows (c : Coordinator) (answers : Nat → Outcome) (site : Site γ) {l : Log}
    (hold : site.store.Holds l) (ho : site.store.Writable)
    (hu : usable site.gate = some credential) (batches delivered rest : Nat)
    (sent : List (Batch × Credential)) :
    Follows c answers credential site l batches delivered rest sent
      (drain.go (c.runOnce (answering answers)) batches delivered rest site sent) := by
  rcases runOnce_answering c answers hold ho hu sent with
    ⟨empty, stats, hr⟩ | ⟨waiting, failure, gate, stats, hf, hr⟩ |
      ⟨waiting, ha, t, stats, ht, hr, hs⟩
  · have exhausted : Series c answers sent.length rest (l.pending.map Record.kept)
        ⟨0, 0, .noData⟩ [] := by
      rw [empty]
      exact .exhausted
    rw [go_ended hr (by simp)]
    have ended : Follows c answers credential site l batches delivered rest sent
        ((⟨batches, delivered, .noData⟩, { site with stats }), sent ++ [].map _) :=
      .ended hold exhausted
    rwa [List.map_nil, List.append_nil] at ended
  · have failed : Series c answers sent.length rest (l.pending.map Record.kept)
        ⟨0, 0, .failed failure⟩ [c.batchOf l] := by
      rw [c.batchOf_eq]
      exact .failed (mt List.map_eq_nil_iff.mp waiting) hf
    rw [go_ended hr (by simp)]
    exact .ended hold failed
  · -- What follows starts from the store that this attempt has left.
    cases rest with
    | zero =>
      rw [go_last hr]
      exact .last waiting ha ht hs
    | succ rest =>
      rw [go_next hr]
      exact .next waiting ha ht
        (go_follows c answers ⟨site.gate, _, stats⟩ hs (ho.withTable ht _) hu _ _ rest _)

end Series

/-! ### What a series comes to -/

namespace Series

variable {c : Coordinator} {answers : Nat → Outcome} {i rest : Nat} {pending : List Record}
  {r : DrainReport} {batches : List Batch}

theorem delivered_eq (h : Series c answers i rest pending r batches) :
    r.delivered = min pending.length (r.batches * c.limit) := by
  induction h with
  | exhausted => simp
  | failed => simp
  | last => rw [c.size_batchFrom, Nat.one_mul, Nat.min_comm]
  | next _ _ _ ih =>
    rw [List.length_drop] at ih
    dsimp only
    rw [c.size_batchFrom, ih, Nat.add_mul, Nat.one_mul]
    omega

/-- Every counted batch was acknowledged. -/
theorem acknowledged (h : Series c answers i rest pending r batches) :
    ∀ j < r.batches, answers (i + j) = .delivered := by
  induction h with
  | exhausted => exact fun _ hj => absurd hj (Nat.not_lt_zero _)
  | failed => exact fun _ hj => absurd hj (Nat.not_lt_zero _)
  | last _ ha =>
    intro j hj
    obtain rfl : j = 0 := Nat.lt_one_iff.mp hj
    exact ha
  | next _ ha _ ih =>
    intro j hj
    cases j with
    | zero => exact ha
    | succ j =>
      rw [Nat.add_comm j, ← Nat.add_assoc]
      exact ih j (Nat.lt_of_succ_lt_succ hj)

/-- Every counted batch had a record. -/
theorem batches_mul_lt (h : Series c answers i rest pending r batches) :
    r.batches * c.limit < pending.length + c.limit := by
  have := c.limit_pos
  induction h with
  | exhausted => simpa
  | failed => simp only [Nat.zero_mul]; omega
  | last waiting =>
    have := List.length_pos_iff.mpr waiting
    simp only [Nat.one_mul]
    omega
  | @next _ _ _ r _ waiting _ _ ih =>
    have := List.length_pos_iff.mpr waiting
    rw [List.length_drop] at ih
    simp only [Nat.add_mul, Nat.one_mul]
    rcases Nat.eq_zero_or_pos r.batches with none | some
    · rw [none]
      omega
    · have := Nat.le_mul_of_pos_left c.limit some
      omega

/-- A series ends when it has made all its attempts, when nothing is left, or at a failure. -/
theorem ending (h : Series c answers i rest pending r batches) :
    (r.batches = rest + 1 ∧ batches.length = r.batches ∧
      ∃ b, batches.getLast? = some b ∧ r.last = .success b.size) ∨
    (r.batches ≤ rest ∧ pending.length ≤ r.batches * c.limit ∧ batches.length = r.batches ∧
      r.last = .noData) ∨
    (r.batches ≤ rest ∧ r.batches * c.limit < pending.length ∧
      batches.length = r.batches + 1 ∧
      ∃ failure, (answers (i + r.batches)).failure? = some failure ∧ r.last = .failed failure) := by
  induction h with
  | exhausted => exact .inr (.inl ⟨Nat.zero_le _, Nat.zero_le _, rfl, rfl⟩)
  | failed waiting hf =>
    refine .inr (.inr ⟨Nat.zero_le _, ?_, rfl, _, hf, rfl⟩)
    rw [Nat.zero_mul]
    exact List.length_pos_iff.mpr waiting
  | last => exact .inl ⟨rfl, rfl, _, rfl, rfl⟩
  | next _ _ _ ih =>
    simp only [List.length_drop, List.length_cons, Nat.add_mul, Nat.one_mul] at ih ⊢
    -- The series ends as its later part does, with one batch more.
    rcases ih with ⟨hb, hl, b, hlast, hr⟩ | ⟨hb, hp, hl, hr⟩ | ⟨hb, hp, hl, failure, hf, hr⟩
    · refine .inl ⟨by omega, by omega, b, ?_, hr⟩
      rw [List.getLast?_cons, hlast, Option.getD_some]
    · exact .inr (.inl ⟨by omega, by omega, by omega, hr⟩)
    · refine .inr (.inr ⟨by omega, by omega, by omega, failure, ?_, hr⟩)
      rwa [Nat.add_comm _ 1, ← Nat.add_assoc]

/-- The batches hold, one after the other, what is to be told of the oldest records. -/
theorem flatMap_eq {α : Type} {f : Batch → List α} {g : Record → α}
    (hf : ∀ records, f (c.batchFrom records) = (records.take c.limit).map g)
    (h : Series c answers i rest pending r batches) :
    batches.flatMap f = (pending.take (batches.length * c.limit)).map g := by
  induction h with
  | exhausted => simp
  | failed => simp [hf]
  | last => simp [hf]
  | next _ _ _ ih =>
    rw [List.flatMap_cons, hf, ih, ← List.map_append, ← List.take_add, List.length_cons,
      Nat.add_mul, Nat.one_mul, Nat.add_comm]

theorem size_batchFrom_pos (c : Coordinator) (waiting : pending ≠ []) :
    0 < (c.batchFrom pending).size ∧ (c.batchFrom pending).size ≤ c.limit := by
  have := List.length_pos_iff.mpr waiting
  have := c.limit_pos
  rw [c.size_batchFrom]
  omega

theorem size_mem (h : Series c answers i rest pending r batches) :
    ∀ b ∈ batches, 0 < b.size ∧ b.size ≤ c.limit := by
  induction h with
  | exhausted => exact fun _ hb => nomatch hb
  | failed waiting =>
    intro b hb
    rw [List.mem_singleton.mp hb]
    exact size_batchFrom_pos c waiting
  | last waiting =>
    intro b hb
    rw [List.mem_singleton.mp hb]
    exact size_batchFrom_pos c waiting
  | next waiting _ _ ih =>
    intro b hb
    rcases List.mem_cons.mp hb with rfl | hb
    · exact size_batchFrom_pos c waiting
    · exact ih b hb

theorem waiting (h : Series c answers i rest pending r batches) (some : batches ≠ []) :
    pending ≠ [] := by
  cases h with
  | exhausted => exact absurd rfl some
  | _ => assumption

/-- Only the last batch may be smaller than the limit. -/
theorem size_dropLast (h : Series c answers i rest pending r batches) :
    ∀ b ∈ batches.dropLast, b.size = c.limit := by
  induction h with
  | exhausted => exact fun _ hb => nomatch hb
  | failed => exact fun _ hb => nomatch hb
  | last => exact fun _ hb => nomatch hb
  | @next _ _ pending _ batches _ _ h ih =>
    intro b hb
    cases batches with
    | nil => cases hb
    | cons b' batches =>
      rcases List.mem_cons.mp hb with rfl | hb
      · -- A batch follows, so more records were pending than this one could take.
        have left := List.length_pos_iff.mpr (h.waiting (List.cons_ne_nil b' batches))
        rw [List.length_drop] at left
        rw [c.size_batchFrom]
        omega
      · exact ih b hb

end Series

/-! ### Draining -/

/-- How many batches it takes to send so many records. -/
def Coordinator.batchesFor (c : Coordinator) (records : Nat) : Nat :=
  (records + c.limit - 1) / c.limit

theorem Coordinator.le_batchesFor_iff {c : Coordinator} {n records : Nat} :
    n ≤ c.batchesFor records ↔ n * c.limit < records + c.limit := by
  have := c.limit_pos
  rw [batchesFor, Nat.le_div_iff_mul_le c.limit_pos]
  omega

theorem Coordinator.batchesFor_le_iff {c : Coordinator} {n records : Nat} :
    c.batchesFor records ≤ n ↔ records ≤ n * c.limit := by
  have := c.limit_pos
  rw [← Nat.lt_succ_iff, batchesFor, Nat.div_lt_iff_lt_mul c.limit_pos, Nat.succ_mul]
  omega

/-- The answers begin with `k` acknowledgements, and no more. -/
def Acknowledges (answers : Nat → Outcome) (k : ℕ∞) : Prop :=
  ∀ i : Nat, (i < k → answers i = .delivered) ∧ (i = k → answers i ≠ .delivered)

theorem Acknowledges.le {answers : Nat → Outcome} {k : ℕ∞} (h : Acknowledges answers k) {n : Nat}
    (hn : ∀ j < n, answers j = .delivered) : n ≤ k := by
  by_contra less
  obtain ⟨i, rfl⟩ := ENat.ne_top_iff_exists.mp (ne_top_of_lt (not_le.mp less))
  exact (h i).2 rfl (hn i (by exact_mod_cast not_le.mp less))

theorem Acknowledges.ge {answers : Nat → Outcome} {k : ℕ∞} (h : Acknowledges answers k) {n : Nat}
    (hn : answers n ≠ .delivered) : k ≤ n :=
  not_lt.mp fun less => hn ((h n).1 less)

/-- What comes of a series of at most `most` attempts, though at least one, on a store with these
records, if the answers begin with `k` acknowledgements. -/
structure Drained (c : Coordinator) (answers : Nat → Outcome) (k : ℕ∞) (most : Nat)
    (credential : Credential) (s : Store) (records : List Record) (report : DrainReport)
    (s' : Store) (sent : List (Batch × Credential)) : Prop where
  batches : (report.batches : ℕ∞) =
    min k (min (c.batchesFor (records.filter Record.isPending).length) (max 1 most))
  delivered : report.delivered =
    min (records.filter Record.isPending).length (report.batches * c.limit)
  /-- The records of so many batches are delivered, the oldest first. -/
  contents : s'.contents = .ok (records.map (Record.deliverIn
    (((records.filter Record.isPending).take (report.batches * c.limit)).map (·.id))))
  /-- Nothing else is changed in the store. -/
  store : ∃ t, s.live.events = .table t ∧ s' = s.withTable (t.delivered
    (((records.filter Record.isPending).take (report.batches * c.limit)).map (·.id)))
  credentials : ∀ x ∈ sent, x.2 = credential
  ids : sent.flatMap (·.1.ids) =
    ((records.filter Record.isPending).take (sent.length * c.limit)).map (·.id)
  ascending : (sent.flatMap (·.1.ids)).Pairwise (· < ·)
  events : sent.flatMap (·.1.events) =
    ((records.filter Record.isPending).take (sent.length * c.limit)).map c.anonymizer.transform
  sizes : ∀ x ∈ sent, 0 < x.1.size ∧ x.1.size ≤ c.limit
  full : ∀ x ∈ sent.dropLast, x.1.size = c.limit
  /-- All attempts were made. -/
  success : report.batches = max 1 most → sent.length = report.batches ∧
    ∃ x, sent.getLast? = some x ∧ report.last = .success x.1.size
  /-- Nothing was left. -/
  noData : report.batches ≠ max 1 most →
    report.batches = c.batchesFor (records.filter Record.isPending).length →
    sent.length = report.batches ∧ report.last = .noData
  /-- The first answer that is no acknowledgement is reported. -/
  failed : report.batches ≠ max 1 most →
    report.batches ≠ c.batchesFor (records.filter Record.isPending).length →
    k = report.batches ∧ sent.length = report.batches + 1 ∧
      ∃ failure, (answers report.batches).failure? = some failure ∧ report.last = .failed failure

section Drain

variable {c : Coordinator} {answers : Nat → Outcome} {k : ℕ∞} {most : Nat} {credential : Credential}
  {s : Store} {l : Log} {records : List Record} {r : DrainReport} {batches : List Batch}

theorem Record.kept_deliverIn (r : Record) (ids : List RecordId) :
    (r.deliverIn ids).kept = r.kept.deliverIn ids := by
  by_cases h : r.id ∈ ids
  · rw [deliverIn_of_mem h, deliverIn_of_mem (show r.kept.id ∈ ids from h)]
    rfl
  · rw [deliverIn_of_not_mem h, deliverIn_of_not_mem (show r.kept.id ∉ ids from h)]

theorem Log.oldest_eq (hold : s.Holds l) (hr : s.contents = .ok records) (n : Nat) :
    l.oldest n = ((records.filter Record.isPending).take n).map (·.id) := by
  rw [pending_of_contents hold hr, ← List.map_take, List.map_map]
  rfl

theorem Series.batches_le {rest : Nat} {pending : List Record}
    (h : Series c answers 0 rest pending r batches) (ha : Acknowledges answers k) :
    (r.batches : ℕ∞) ≤ k :=
  ha.le fun j hj => Nat.zero_add j ▸ h.acknowledged j hj

/-- A series counts as many batches as were acknowledged, as there was something to send for, and as
it might make, whichever is least. -/
theorem Series.batches_eq {rest : Nat} {pending : List Record}
    (h : Series c answers 0 rest pending r batches) (ha : Acknowledges answers k) :
    (r.batches : ℕ∞) = min k (min (c.batchesFor pending.length) (rest + 1 : Nat)) := by
  have acknowledged := h.batches_le ha
  have needed : (r.batches : ℕ∞) ≤ c.batchesFor pending.length :=
    Nat.cast_le.mpr (Coordinator.le_batchesFor_iff.mpr h.batches_mul_lt)
  rcases h.ending with ⟨hb, -⟩ | ⟨hb, hp, -⟩ | ⟨hb, -, -, failure, hf, -⟩
  · rw [← hb, min_eq_right needed, min_eq_right acknowledged]
  · have exhausted : c.batchesFor pending.length ≤ r.batches := Coordinator.batchesFor_le_iff.mpr hp
    have made : r.batches ≤ rest + 1 := by omega
    have : c.batchesFor pending.length = r.batches :=
      le_antisymm exhausted (Nat.cast_le.mp needed)
    rw [this, min_eq_left (Nat.cast_le.mpr made), min_eq_right acknowledged]
  · have made : r.batches ≤ rest + 1 := by omega
    rw [Nat.zero_add] at hf
    have refused : k = r.batches := le_antisymm (ha.ge (Outcome.ne_delivered hf)) acknowledged
    rw [refused, min_eq_left (le_min needed (Nat.cast_le.mpr made))]

/-- A series of attempts on a store that holds a log drains it. -/
theorem Series.drained (hold : s.Holds l) (hr : s.contents = .ok records)
    (ha : Acknowledges answers k)
    (h : Series c answers 0 (most - 1) (records.filter Record.isPending) r batches) {t : Table}
    (ht : s.live.events = .table t)
    (hs : (s.withTable (t.delivered (l.oldest (r.batches * c.limit)))).Holds
      (l.deliver (l.oldest (r.batches * c.limit)))) :
    Drained c answers k most credential s records r
      (s.withTable (t.delivered (l.oldest (r.batches * c.limit))))
      (batches.map fun b => (b, credential)) := by
  have all : most - 1 + 1 = max 1 most := by omega
  have pending := pending_of_contents hold hr
  have ids := h.flatMap_eq (f := Batch.ids) c.ids_batchFrom
  have ending := h.ending
  rw [Nat.zero_add, ← Coordinator.batchesFor_le_iff, ← not_le,
    ← Coordinator.batchesFor_le_iff] at ending
  constructor
  case batches =>
    rw [h.batches_eq ha, all]
    norm_cast
  case delivered => exact h.delivered_eq
  case contents =>
    rw [Store.contents_eq hold] at hr
    cases hr
    rw [Store.contents_eq hs, ← Log.oldest_eq hold (Store.contents_eq hold), Log.deliver,
      List.map_map, List.map_map]
    exact congrArg Except.ok (List.map_congr_left fun q _ => q.kept_deliverIn _)
  case store => exact ⟨t, ht, by rw [Log.oldest_eq hold hr]⟩
  case credentials => simp
  case ids => rw [List.flatMap_map, List.length_map, ids]
  case ascending =>
    rw [List.flatMap_map, ids, pending, ← List.map_take, List.map_map, List.pairwise_map]
    exact l.pending_ascending.sublist (List.take_sublist _ _)
  case events =>
    rw [List.flatMap_map, List.length_map]
    exact h.flatMap_eq fun _ => rfl
  case sizes => simpa using h.size_mem
  case full => simpa [← List.map_dropLast] using h.size_dropLast
  case success =>
    intro hb
    rcases ending with ⟨-, hl, b, hlast, hr⟩ | ⟨made, -⟩ | ⟨made, -⟩
    · exact ⟨by rw [List.length_map, hl], (b, credential), by simp [hlast], hr⟩
    · omega
    · omega
  case noData =>
    intro hb hn
    rcases ending with ⟨made, -⟩ | ⟨-, -, hl, hr⟩ | ⟨-, left, -⟩
    · omega
    · exact ⟨by rw [List.length_map, hl], hr⟩
    · omega
  case failed =>
    intro hb hn
    rcases ending with ⟨made, -⟩ | ⟨made, exhausted, -⟩ | ⟨made, left, hl, failure, hf, hr⟩
    · omega
    · have := Coordinator.le_batchesFor_iff.mpr h.batches_mul_lt
      omega
    · have refused := ha.ge (Outcome.ne_delivered hf)
      exact ⟨le_antisymm refused (h.batches_le ha), by rw [List.length_map, hl], failure, hf, hr⟩

/-- A store that can be written is drained of its oldest records, batch by batch, until the attempts
are used up, nothing is left, or a batch is not acknowledged. -/
theorem drain_exact {γ : Type} [CredentialGate γ] {gate : γ} (h : s.Regular)
    (writable : s.readOnly = false) (hr : s.contents = .ok records)
    (hu : usable gate = some credential) (ha : Acknowledges answers k) (c : Coordinator)
    (most : Nat) (stats : SyncStats) :
    ∃ report site sent,
      drain (c.runOnce (answering answers)) most ⟨gate, s, stats⟩ [] = ((report, site), sent) ∧
      Drained c answers k most credential s records report site.store sent := by
  obtain ⟨l, hold⟩ := h.holds
  obtain ⟨r, batches, gate', stats', t, ht, result, series, hs⟩ :=
    go_follows c answers ⟨gate, s, stats⟩ hold ⟨h.guards, writable⟩ hu 0 0 (most - 1) []
  rw [← pending_of_contents hold hr] at series
  simp only [Nat.zero_add, List.nil_append] at result
  exact ⟨_, _, _, result, series.drained hold hr ha ht hs⟩

/-- Answers of which the first one alone is an acknowledgement. -/
def onceDelivered : Nat → Outcome
  | 0 => .delivered
  | _ + 1 => .rejected 503

/-- A store to which three events were appended. -/
def threePending : Store :=
  Store.inMemory.migrate.2.after [.append default, .append default, .append default]

/-- Three events in batches of two: the second batch, which is not full, is refused. -/
theorem drain_exact_refused :
    ∃ report site sent,
      drain (Coordinator.runOnce { limit := 2 } (answering onceDelivered)) 5
        ⟨(⟨some ⟨"token"⟩⟩ : MemoryGate), threePending, {}⟩ [] = ((report, site), sent) ∧
      Drained { limit := 2 } onceDelivered 1 5 ⟨"token"⟩ threePending
        [⟨1, .pending, default⟩, ⟨2, .pending, default⟩, ⟨3, .pending, default⟩]
        report site.store sent ∧
      report = ⟨1, 2, .failed (.rejected 503)⟩ ∧ sent.map (·.1.ids) = [[1, 2], [3]] := by
  have regular : threePending.Regular :=
    Store.Reached.regular ⟨Store.inMemory, _, _, by decide, rfl, rfl, rfl⟩
  have contents : threePending.contents =
      .ok [⟨1, .pending, default⟩, ⟨2, .pending, default⟩, ⟨3, .pending, default⟩] := rfl
  have authenticated : usable (⟨some ⟨"token"⟩⟩ : MemoryGate) = some ⟨"token"⟩ := rfl
  have once : Acknowledges onceDelivered 1 := by
    intro i
    cases i with
    | zero => exact ⟨fun _ => rfl, fun h => absurd h (by decide)⟩
    | succ i => exact ⟨fun h => absurd h (by simp), fun _ => Outcome.noConfusion⟩
  obtain ⟨report, site, sent, result, drained⟩ :=
    drain_exact regular rfl contents authenticated once { limit := 2 } 5 {}
  refine ⟨report, site, sent, result, drained, ?_⟩
  have := congrArg (fun r => (r.1.1, r.2.map (·.1.ids))) result
  exact Prod.mk.inj this.symm

end Drain

end Outbox
