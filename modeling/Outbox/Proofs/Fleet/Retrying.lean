import Outbox.Proofs.Fleet.Retention
import Outbox.Proofs.Store.Delivery
import Outbox.Proofs.Store.Gains
import Outbox.Store.Tamper

/-!
# Retries

A batch that was not acknowledged is sent again. As long as nothing is committed or erased, records
are only added, behind those that there are and under larger numbers, so that the next batch begins
with the one that has failed (`retry_stable`).
-/

namespace Outbox

namespace Store

variable {s s' : Store} {records records' added : List Record} {rows rows' : List Row} {limit : Nat}

theorem recordsOf_append (h : recordsOf rows = .ok records) (h' : recordsOf rows' = .ok records') :
    recordsOf (rows ++ rows') = .ok (records ++ records') := by
  unfold recordsOf at h h' ⊢
  rw [List.mapM_append, h, h']
  rfl

/-- The table of a store that has gained records. -/
theorem Gains.table (h : s.Gains s' added) {t : Table} (ht : s.live.events = .table t) :
    s'.poisoned = s.poisoned ∧ ∃ u, s'.live.events = .table u ∧
      u.rows = t.rows ++ added.map Row.ofRecord := by
  have rows := h.rows
  have before : s.rows = t.rows := rows_of_table ht
  rcases h.others with rfl | ⟨t', u, -, rfl, -⟩
  · exact ⟨rfl, t, ht, by rw [← before, ← rows]⟩
  · have after : (s.withTable u).rows = u.rows := rfl
    exact ⟨rfl, u, rfl, by rw [← before, ← rows, after]⟩

/-- What was selected is selected again in a store that has gained records, before any of these. -/
theorem Gains.selectPending (h : s.Gains s' added) (hl : 0 < limit)
    (hs : s.selectPending limit = .ok records) :
    ∃ more, s'.selectPending limit = .ok (records ++ more) ∧
      (records.length = limit → more = []) := by
  unfold Store.selectPending at hs ⊢
  rw [if_neg (Nat.ne_of_gt hl)] at hs ⊢
  obtain ⟨usable, hs⟩ := read_eq_ok.mp hs
  obtain ⟨t, ht, hr⟩ := bind_eq_ok.mp hs
  obtain ⟨same, u, hu, rows⟩ := h.table (Events.full_eq_ok.mp ht)
  have waiting : (added.map Row.ofRecord).filter Row.isPending = added.map Row.ofRecord := by
    refine List.filter_eq_self.mpr fun r hr => ?_
    obtain ⟨record, hrecord, rfl⟩ := List.mem_map.mp hr
    rw [Row.isPending_ofRecord, Record.isPending_iff]
    exact h.pending record hrecord
  have pending : u.rows.filter Row.isPending =
      t.rows.filter Row.isPending ++ added.map Row.ofRecord := by
    rw [rows, List.filter_append, waiting]
  -- room for new records is left only where the old ones do not fill the selection
  refine ⟨(added.take (limit - (t.rows.filter Row.isPending).length)).map Record.kept, ?_, ?_⟩
  · refine read_eq_ok.mpr ⟨same.trans usable, bind_eq_ok.mpr ⟨u, by rw [hu]; rfl, ?_⟩⟩
    rw [pending, List.take_append, ← List.map_take]
    exact recordsOf_append hr (recordsOf_map _)
  · intro full
    have length := length_of_mapM hr
    rw [full, List.length_take] at length
    have none : limit - (t.rows.filter Row.isPending).length = 0 := by omega
    rw [none]
    rfl

end Store

variable {γ : Type} [CredentialGate γ]

/-- An attempt that reports no success leaves the store as it is. -/
theorem Attempt.finish_store {a : Attempt} {outcome : Outcome} {gate : γ} {store : Store}
    (h : ∀ n, (a.finish outcome gate store).1 ≠ .success n) :
    (a.finish outcome gate store).2.2 = store := by
  cases outcome with
  | delivered =>
    rcases hm : store.markDelivered a.batch.ids with ⟨fault | n, store'⟩
    · have same := Store.markDelivered_error hm
      simp only [finish, hm, same]
    · simp only [finish, hm] at h
      exact absurd rfl (h _)
  | _ => rfl

namespace Fleet

variable {f : Fleet} {s : Store} {added : List Record} {move : Move γ} {moves : List (Move γ)}

/-- Moves by which events come, and attempts begin, fail and are dropped: none of them erases or
opens the store anew, and none commits a batch. -/
structure Quiet (f : Fleet) (moves : List (Move γ)) : Prop where
  keeps : .erase ∉ moves
  stays : ∀ readOnly, .reopen readOnly ∉ moves
  fails : f.committed moves = []

theorem begin_store (f : Fleet) (k : Nat) (gate : γ) :
    (f.step (.begin k gate)).store = f.store := by
  simp only [step]
  split
  · rfl
  · split <;> rfl

theorem finish_store {i : Nat} {outcome : Outcome} {gate : γ}
    (h : f.commit? (.finish i outcome gate) = none) :
    (f.step (.finish i outcome gate)).store = f.store := by
  cases hi : f.flights[i]? with
  | none => simp only [step, hi]
  | some flight =>
    simp only [commit?, hi] at h
    have unsuccessful : ∀ n, (flight.attempt.finish outcome gate f.store).1 ≠ .success n := by
      intro n hn
      rw [hn] at h
      cases h
    simp only [step, hi]
    exact Attempt.finish_store unsuccessful

theorem committed_append (f : Fleet) (moves moves' : List (Move γ)) :
    f.committed (moves ++ moves') = f.committed moves ++ (f.run moves).committed moves' := by
  induction moves generalizing f with
  | nil => rfl
  | cons move moves ih =>
    rw [List.cons_append, committed, ih, committed, List.append_assoc]
    rfl

theorem Quiet.append {moves' : List (Move γ)} (h : f.Quiet moves)
    (h' : (f.run moves).Quiet moves') : f.Quiet (moves ++ moves') where
  keeps := by
    rw [List.mem_append, not_or]
    exact ⟨h.keeps, h'.keeps⟩
  stays := by
    intro readOnly
    rw [List.mem_append, not_or]
    exact ⟨h.stays readOnly, h'.stays readOnly⟩
  fails := by rw [committed_append, h.fails, h'.fails, List.append_nil]

/-- A move without a commit or an erasure adds records, or undoes the open transaction. -/
theorem step_gains (h : s.Gains f.store added) (keeps : .erase ≠ move)
    (stays : ∀ readOnly, .reopen readOnly ≠ move) (fails : f.commit? move = none) :
    (∃ added', s.Gains (f.step move).store added') ∨
      (f.store.saved ≠ none ∧ (f.step move).store.saved = none) := by
  cases move with
  | begin k gate =>
    rw [begin_store]
    exact .inl ⟨added, h⟩
  | finish i outcome gate =>
    rw [finish_store fails]
    exact .inl ⟨added, h⟩
  | drop i => exact .inl ⟨added, h⟩
  | append e =>
    rcases f.store.append_result e with ⟨fault, ha⟩ | ⟨opened, ha⟩ | ⟨id, t, u, ht, hi, ha⟩
    · simp only [step, ha]
      exact .inl ⟨added, h⟩
    · simp only [step, ha]
      exact .inr ⟨opened, rfl⟩
    · simp only [step, ha]
      exact .inl ⟨_, h.insert ht hi⟩
  | erase => exact absurd rfl keeps
  | reopen readOnly => exact absurd rfl (stays readOnly)

/-- Quiet moves add records, or undo the open transaction on the way. -/
theorem run_gains (h : s.Gains f.store added) (quiet : f.Quiet moves) :
    (∃ added', s.Gains (f.run moves).store added') ∨
      (f.store.saved ≠ none ∧ (f.run moves).store.saved = none) := by
  induction moves generalizing f s added with
  | nil => exact .inl ⟨added, h⟩
  | cons move moves ih =>
    obtain ⟨keeps, keeps'⟩ := List.ne_and_not_mem_of_not_mem_cons quiet.keeps
    have stays readOnly := List.ne_and_not_mem_of_not_mem_cons (quiet.stays readOnly)
    obtain ⟨fails, fails'⟩ := List.append_eq_nil_iff.mp quiet.fails
    have rest : (f.step move).Quiet moves := ⟨keeps', fun readOnly => (stays readOnly).2, fails'⟩
    have first := step_gains h keeps (fun readOnly => (stays readOnly).1)
      (Option.toList_eq_nil_iff.mp fails)
    have final : (f.run (move :: moves)).store = ((f.step move).run moves).store := rfl
    rw [final]
    rcases first with ⟨added', h'⟩ | ⟨opened, closed⟩
    · rcases ih h' rest with done | ⟨opened, closed⟩
      · exact .inl done
      · -- records that were added have left the transaction as it was
        rw [h'.saved, ← h.saved] at opened
        exact .inr ⟨opened, closed⟩
    · rcases ih (.refl _) rest with ⟨added', h'⟩ | ⟨again, -⟩
      · exact .inr ⟨opened, h'.saved.trans closed⟩
      · exact absurd closed again

end Fleet

/-- The events of a batch as they stand in the body of the request, one by one. -/
def Batch.encoded (b : Batch) : List Text.Bytes :=
  b.events.map fun e => Text.encode (String.ofList e.print)

/-- The batch of more records begins with the batch of the first ones. -/
theorem Batch.assemble_append (anonymizer : Anonymizer) (records more : List Record) :
    (assemble anonymizer records).ids <+: (assemble anonymizer (records ++ more)).ids ∧
    (assemble anonymizer records).encoded <+: (assemble anonymizer (records ++ more)).encoded := by
  simp only [assemble, encoded, List.map_append]
  exact ⟨List.prefix_append _ _, List.prefix_append _ _⟩

namespace Coordinator

variable {c : Coordinator} {a : Attempt} {gate gate' : γ} {s s' : Store} {added : List Record}

/-- An attempt on a store that has gained records takes the batch of before first, and nothing
beside it if that one was full. -/
theorem begin_again (begun : c.begin gate s = .ok a) (h : s.Gains s' added)
    {credential : Credential} (usable : CredentialGate.usable gate' = some credential) :
    ∃ a', c.begin gate' s' = .ok a' ∧ a'.credential = credential ∧
      a.batch.ids <+: a'.batch.ids ∧ a.batch.encoded <+: a'.batch.encoded ∧
      (a.batch.size = c.limit →
        Text.encode a'.batch.bodyText = Text.encode a.batch.bodyText) := by
  obtain ⟨-, records, nonempty, hs, batch⟩ := begin_ok begun
  obtain ⟨more, hs', full⟩ := h.selectPending c.limit_pos hs
  have begun' : c.begin gate' s' = .ok ⟨.assemble c.anonymizer (records ++ more), credential⟩ := by
    unfold Coordinator.begin
    rw [usable, hs']
    cases records with
    | nil => exact absurd rfl nonempty
    | cons r rs => rfl
  obtain ⟨ids, events⟩ := Batch.assemble_append c.anonymizer records more
  rw [batch]
  refine ⟨_, begun', rfl, ids, events, fun size => ?_⟩
  have length : records.length = c.limit := by simpa [Batch.size, Batch.assemble] using size
  simp only [full length, List.append_nil]

end Coordinator

namespace Fleet

variable {f : Fleet} {c : Coordinator} {a : Attempt} {gate : γ} {during later : List (Move γ)}

/-- An attempt whose batch is not acknowledged fails and leaves the store. If nothing has committed
a batch or erased the records since it began, and no append has undone a transaction that was open
on the store, then the next attempt with a credential sends the numbers and the events of the failed
batch again, before any others, and if the failed batch was full, the same body. -/
theorem retry_stable (begun : c.begin gate f.store = .ok a) (meanwhile : f.Quiet during)
    {outcome : Outcome} (refused : outcome ≠ .delivered) (gate₁ : γ)
    (afterwards : (f.run during).Quiet later)
    (settled : ((f.run during).run later).store.saved = f.store.saved) :
    (∃ failure gate₂, a.finish outcome gate₁ (f.run during).store =
      (.failed failure, gate₂, (f.run during).store)) ∧
    ∀ (gate' : γ) credential, CredentialGate.usable gate' = some credential →
      ∃ a', c.begin gate' ((f.run during).run later).store = .ok a' ∧
        a'.credential = credential ∧
        a.batch.ids <+: a'.batch.ids ∧ a.batch.encoded <+: a'.batch.encoded ∧
        (a.batch.size = c.limit →
          Text.encode a'.batch.bodyText = Text.encode a.batch.bodyText) := by
  constructor
  · obtain ⟨failure, hf⟩ := outcome.failure?_cases.resolve_left refused
    obtain ⟨gate₂, ended⟩ := a.finish_failed hf gate₁ (f.run during).store
    exact ⟨failure, gate₂, ended⟩
  · intro gate' credential usable
    have whole : (f.run during).run later = f.run (during ++ later) := List.foldl_append.symm
    rw [whole] at settled ⊢
    rcases run_gains (.refl f.store) (meanwhile.append afterwards) with
      ⟨added, gains⟩ | ⟨opened, closed⟩
    · exact Coordinator.begin_again begun gains usable
    · rw [settled] at closed
      exact absurd closed opened

/-- A coordinator on a store with one event. -/
def oneWaiting : Fleet := start (Store.inMemory.migrate.2.append default).2 [default]

/-- While a batch is on its way an event comes, and another attempt begins and is refused. -/
def refusedMeanwhile : List (Move MemoryGate) :=
  [.append default, .begin 0 ⟨some ⟨"old"⟩⟩, .finish 0 .unauthorized ⟨some ⟨"old"⟩⟩]

/-- An attempt with room for two records is refused after `refusedMeanwhile`. With a new credential
the same record is sent again, and with it one that has come since. -/
theorem retry_stable_unauthorized :
    let c : Coordinator := { limit := 2 }
    ∃ a a', c.begin (⟨some ⟨"old"⟩⟩ : MemoryGate) oneWaiting.store = .ok a ∧ a.batch.ids = [1] ∧
      c.begin (⟨some ⟨"new"⟩⟩ : MemoryGate)
        ((oneWaiting.run refusedMeanwhile).run [(.append default : Move MemoryGate)]).store =
          .ok a' ∧
      a'.batch.ids = [1, 2] ∧ a.batch.encoded <+: a'.batch.encoded := by
  intro c
  have meanwhile : oneWaiting.Quiet refusedMeanwhile :=
    ⟨by simp [refusedMeanwhile], by simp [refusedMeanwhile], rfl⟩
  have afterwards : (oneWaiting.run refusedMeanwhile).Quiet [(.append default : Move MemoryGate)] :=
    ⟨by simp, by simp, rfl⟩
  have refused : Outcome.unauthorized ≠ .delivered := by decide
  obtain ⟨a, begun, ids⟩ : ∃ a, c.begin (⟨some ⟨"old"⟩⟩ : MemoryGate) oneWaiting.store = .ok a ∧
      a.batch.ids = [1] := ⟨_, rfl, rfl⟩
  obtain ⟨-, next⟩ := retry_stable begun meanwhile refused ⟨some ⟨"old"⟩⟩ afterwards rfl
  obtain ⟨a', again, -, -, events, -⟩ := next (⟨some ⟨"new"⟩⟩ : MemoryGate) ⟨"new"⟩ rfl
  refine ⟨a, a', begun, ids, again, ?_, events⟩
  cases again
  rfl

/-- A store with an open transaction in which the record of before was erased and another one has
come, and with no number left. -/
def replacedInside : Store :=
  let emptied := ((Store.inMemory.migrate.2.append default).2.tamper .begin).2.eraseAll.2
  ((emptied.append default).2.tamper (.setSequence Table.greatestId)).2

/-- An append that undoes the transaction brings back the record of before, and the next attempt
sends that one instead of the one that has failed. -/
theorem retry_undone :
    let f : Fleet := { store := replacedInside, members := [] }
    let gate : MemoryGate := ⟨some ⟨"token"⟩⟩
    f.Quiet [(.append default : Move MemoryGate)] ∧
      ∃ a a', Coordinator.begin {} gate f.store = .ok a ∧
        a.finish (.rejected 500) gate f.store = (.failed (.rejected 500), gate, f.store) ∧
        Coordinator.begin {} gate (f.run [(.append default : Move MemoryGate)]).store = .ok a' ∧
        a.batch.ids = [2] ∧ a'.batch.ids = [1] ∧ ¬ a.batch.ids <+: a'.batch.ids := by
  intro f gate
  refine ⟨⟨by simp, by simp, rfl⟩, _, _, rfl, rfl, rfl, rfl, rfl, ?_⟩
  decide

end Fleet

end Outbox
