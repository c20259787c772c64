import Outbox.Proofs.Store.Refinement
import Outbox.Sync.Coordinator

/-!
# The steps of an attempt

An attempt has two steps, with the transport between them (`runOnce_eq`). On a store that holds a
log the first one takes a batch of the oldest pending records and changes nothing (`begin_cases`),
and the second one delivers the records of the batch or changes nothing (`finish_cases`).
-/

namespace Outbox

variable {γ : Type} [CredentialGate γ] {store : Store} {l : Log}

/-! ### On any store -/

open CredentialGate

section Any

variable {gate : γ} {c : Coordinator}

/-- The gate is authenticated, with a credential. -/
def Authenticated (gate : γ) : Prop := isAuthenticated gate = true ∧ (current gate).isSome

theorem usable_eq_some {credential : Credential} :
    usable gate = some credential ↔
      isAuthenticated gate = true ∧ current gate = some credential := by
  unfold usable
  split <;> simp_all

theorem authenticated_iff :
    Authenticated gate ↔ ∃ credential, usable gate = some credential := by
  simp [Authenticated, usable_eq_some, Option.isSome_iff_exists]

namespace Coordinator

/-- The first step ends an attempt without a credential, without a store that can be read, or
without a record to send. -/
theorem begin_error {report : SyncReport} (h : c.begin gate store = .error report) :
    (¬ Authenticated gate ∧ report = .failed .unauthenticated) ∨
      Authenticated gate ∧
        ((∃ fault, store.selectPending c.limit = .error fault ∧
            report = .failed (.storage fault.message)) ∨
          store.selectPending c.limit = .ok [] ∧ report = .noData) := by
  unfold Coordinator.begin at h
  rw [authenticated_iff]
  cases hu : usable gate with
  | none =>
    rw [hu] at h
    cases h
    exact .inl ⟨by simp, rfl⟩
  | some credential =>
    refine .inr ⟨⟨credential, rfl⟩, ?_⟩
    cases hs : store.selectPending c.limit with
    | error fault =>
      simp only [hu, hs] at h
      cases h
      exact .inl ⟨fault, rfl, rfl⟩
    | ok records =>
      cases records with
      | nil =>
        simp only [hu, hs] at h
        cases h
        exact .inr ⟨rfl, rfl⟩
      | cons r rs => simp [hu, hs] at h

/-- Otherwise an attempt begins, with the credential of the gate and the selected records. -/
theorem begin_ok {a : Attempt} (h : c.begin gate store = .ok a) :
    usable gate = some a.credential ∧ ∃ records, records ≠ [] ∧
      store.selectPending c.limit = .ok records ∧ a.batch = .assemble c.anonymizer records := by
  unfold Coordinator.begin at h
  cases hu : usable gate with
  | none => simp [hu] at h
  | some credential =>
    cases hs : store.selectPending c.limit with
    | error fault => simp [hu, hs] at h
    | ok records =>
      cases records with
      | nil => simp [hu, hs] at h
      | cons r rs =>
        simp only [hu, hs] at h
        cases h
        exact ⟨rfl, r :: rs, by simp, rfl, rfl⟩

/-- No attempt begins with an empty batch. -/
theorem begin_ids {a : Attempt} (h : c.begin gate store = .ok a) : a.batch.ids ≠ [] := by
  obtain ⟨-, records, nonempty, -, batch⟩ := begin_ok h
  rw [batch]
  simpa [Batch.assemble] using nonempty

/-- An attempt is its two steps, with the transport between them, and is counted at its end. -/
theorem runOnce_bind {m : Type → Type} [Monad m] [LawfulMonad m] (c : Coordinator)
    (send : Batch → Credential → StateT (Site γ) m Outcome) (site : Site γ) :
    c.runOnce send site =
      match c.begin site.gate site.store with
      | .error report => pure (report, { site with stats := site.stats.count report })
      | .ok a => send a.batch a.credential site >>= fun (outcome, site₁) =>
        let (report, gate, store) := a.finish outcome site₁.gate site₁.store
        pure (report, { gate, store, stats := site₁.stats.count report }) := by
  unfold Coordinator.runOnce
  simp only [bind, StateT.bind, get, getThe, MonadStateOf.get, StateT.get, pure_bind]
  cases c.begin site.gate site.store with
  | error report => exact pure_bind _ _
  | ok a => rfl

/-- The same with a transport that has a state of its own. -/
theorem runOnce_eq {σ : Type} (c : Coordinator)
    (send : Batch → Credential → StateT (Site γ) (StateM σ) Outcome) (site : Site γ) (s : σ) :
    c.runOnce send site s =
      match c.begin site.gate site.store with
      | .error report => ((report, { site with stats := site.stats.count report }), s)
      | .ok a =>
        let ((outcome, site₁), s₁) := send a.batch a.credential site s
        let (report, gate, store) := a.finish outcome site₁.gate site₁.store
        ((report, { gate, store, stats := site₁.stats.count report }), s₁) := by
  rw [runOnce_bind]
  cases c.begin site.gate site.store with
  | error report => rfl
  | ok a => rfl

end Coordinator

end Any

/-! ### On a store that holds a log -/

namespace Coordinator

variable {c : Coordinator}

/-- The batch that a coordinator takes from a log. -/
def batchOf (c : Coordinator) (l : Log) : Batch :=
  Batch.assemble c.anonymizer ((l.pending.take c.limit).map Record.kept)

theorem batchOf_ids (c : Coordinator) (l : Log) :
    (c.batchOf l).ids = (l.pending.take c.limit).map (·.id) := by
  simp only [batchOf, Batch.assemble, List.map_map]
  rfl

theorem batchOf_events (c : Coordinator) (l : Log) :
    (c.batchOf l).events = (l.pending.take c.limit).map fun r => c.anonymizer.transform r.kept := by
  simp only [batchOf, Batch.assemble, List.map_map]
  rfl

theorem mem_batchOf_ids {id : RecordId} :
    id ∈ (c.batchOf l).ids ↔ ∃ r ∈ l.pending.take c.limit, r.id = id := by
  rw [batchOf_ids, List.mem_map]

/-- Every number of a batch is that of a pending record. -/
theorem pending_of_mem_batchOf {id : RecordId} (h : id ∈ (c.batchOf l).ids) :
    ∃ r ∈ l.records, r.id = id ∧ r.state = .pending := by
  obtain ⟨r, hr, hid⟩ := mem_batchOf_ids.mp h
  obtain ⟨hr, hs⟩ := Log.mem_pending.mp (List.mem_of_mem_take hr)
  exact ⟨r, hr, hid, hs⟩

theorem le_last_of_mem_batchOf {id : RecordId} (h : id ∈ (c.batchOf l).ids) : id ≤ l.last := by
  obtain ⟨r, hr, rfl, _⟩ := pending_of_mem_batchOf h
  exact l.bounded r hr

/-- A batch tells of the record at each of its places. -/
theorem batchOf_at {id : RecordId} (h : id ∈ (c.batchOf l).ids) :
    ∃ r ∈ l.records, r.id = id ∧ ∃ i : Nat, (c.batchOf l).ids[i]? = some id ∧
      (c.batchOf l).events[i]? = some (c.anonymizer.transform r.kept) := by
  obtain ⟨r, hr, hid⟩ := mem_batchOf_ids.mp h
  obtain ⟨i, hi⟩ := List.mem_iff_getElem?.mp hr
  refine ⟨r, (Log.mem_pending.mp (List.mem_of_mem_take hr)).1, hid, i, ?_, ?_⟩
  · rw [batchOf_ids, List.getElem?_map, hi, Option.map_some, hid]
  · rw [batchOf_events, List.getElem?_map, hi, Option.map_some]

theorem batchOf_nodup (c : Coordinator) (l : Log) : (c.batchOf l).ids.Nodup := by
  have sorted : (l.pending.take c.limit).Pairwise fun a b => a.id < b.id :=
    l.pending_ascending.sublist (List.take_sublist _ _)
  rw [batchOf_ids]
  exact List.pairwise_map.mpr (sorted.imp fun h => Int.ne_of_lt h)

theorem size_batchOf (c : Coordinator) (l : Log) :
    (c.batchOf l).size = (c.batchOf l).ids.length := by
  rw [Batch.size, batchOf_ids, batchOf_events, List.length_map, List.length_map]

/-- After the commit of a batch the other pending records are left. -/
theorem pending_commit (c : Coordinator) (l : Log) :
    (l.deliver (c.batchOf l).ids).pending = l.pending.drop c.limit := by
  rw [Log.pending_deliver, batchOf_ids, filter_not_mem_take l.pending_ascending]

/-- The first step takes a batch of the log if there is a credential and something is pending. -/
theorem begin_eq (h : store.Holds l) (c : Coordinator) (gate : γ) :
    c.begin gate store =
      match CredentialGate.usable gate with
      | none => .error (.failed .unauthenticated)
      | some credential =>
        if l.pending = [] then .error .noData else .ok ⟨c.batchOf l, credential⟩ := by
  unfold Coordinator.begin
  rw [Store.selectPending_eq h]
  cases CredentialGate.usable gate with
  | none => rfl
  | some credential =>
    unfold batchOf
    cases hp : l.pending with
    | nil => simp
    | cons r rs =>
      obtain ⟨n, hn⟩ := Nat.exists_eq_succ_of_ne_zero (Nat.ne_of_gt c.limit_pos)
      simp [hn]

/-- The first step ends the attempt without success, or begins it with a batch of the log and the
credential of the gate. -/
theorem begin_cases (h : store.Holds l) (c : Coordinator) (gate : γ) :
    (∃ report, c.begin gate store = .error report ∧ ∀ n, report ≠ .success n) ∨
      ∃ credential, CredentialGate.usable gate = some credential ∧
        c.begin gate store = .ok ⟨c.batchOf l, credential⟩ := by
  rw [begin_eq h]
  cases CredentialGate.usable gate with
  | none => exact .inl ⟨_, rfl, by simp⟩
  | some credential =>
    by_cases hp : l.pending = []
    · exact .inl ⟨.noData, by simp [hp], by simp⟩
    · exact .inr ⟨credential, rfl, by simp [hp]⟩

end Coordinator

namespace Attempt

/-- The second step commits an acknowledged batch, or fails and leaves the store as it is. -/
theorem finish_cases (h : store.Holds l) (a : Attempt) (outcome : Outcome) (gate : γ) :
    (outcome = .delivered ∧ ∃ store', a.finish outcome gate store =
        (.success a.batch.size, gate, store') ∧ store'.Holds (l.deliver a.batch.ids)) ∨
      ∃ failure gate', a.finish outcome gate store = (.failed failure, gate', store) := by
  unfold finish
  cases outcome with
  | delivered =>
    rcases Store.markDelivered_cases h a.batch.ids with ⟨fault, hm⟩ | ⟨store', hm, hold⟩
    · exact .inr ⟨.storage fault.message, gate, by rw [hm]⟩
    · exact .inl ⟨rfl, store', by rw [hm], hold⟩
  | unauthorized => exact .inr ⟨_, _, rfl⟩
  | rejected status => exact .inr ⟨_, _, rfl⟩
  | unreachable reason => exact .inr ⟨_, _, rfl⟩
  | invalidCredential reason => exact .inr ⟨_, _, rfl⟩

end Attempt

end Outbox
