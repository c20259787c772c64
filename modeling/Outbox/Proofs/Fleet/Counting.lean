import Mathlib.Algebra.GroupWithZero.Nat
import Outbox.Proofs.Fleet.Invariant

/-!
# What the counts say

The reports, the counts of the members and the end of a series of attempts count the records of the
batches that were committed. They never count less than the records that turned from pending to
delivered, and they count the same exactly if every batch was committed while all its records were
still there and pending.
-/

namespace Outbox

/-- How many records a report counts as delivered. -/
def SyncReport.counted : SyncReport → Nat
  | .success n => n
  | _ => 0

/-- How many records reports count as delivered. -/
def countedIn (reports : List SyncReport) : Nat := (reports.map SyncReport.counted).sum

@[simp] theorem countedIn_append (rs ss : List SyncReport) :
    countedIn (rs ++ ss) = countedIn rs + countedIn ss := by
  simp [countedIn]

@[simp] theorem countedIn_singleton (r : SyncReport) : countedIn [r] = r.counted := by
  simp [countedIn]

/-- The counts of an attempt are those of its report. -/
theorem SyncStats.eventsDelivered_count (s : SyncStats) (report : SyncReport) :
    (s.count report).eventsDelivered = s.eventsDelivered + report.counted := by
  cases report with
  | noData => rfl
  | success n => rfl
  | failed failure => cases failure <;> rfl

/-! ### Records that turn -/

/-- How many records are pending before and delivered after. -/
def turned (before after : List Record) : Nat :=
  before.countP fun r => r.isPending && after.any fun s => decide (s.id = r.id) && !s.isPending

namespace Store

/-- How many records of a store have turned from pending to delivered in another state of it. -/
def turned (s s' : Store) : Nat :=
  match s.contents, s'.contents with
  | .ok before, .ok after => Outbox.turned before after
  | _, _ => 0

/-- The store has a pending record with this number. -/
def Pending (s : Store) (id : RecordId) : Prop :=
  ∃ records, s.contents = .ok records ∧ ∃ r ∈ records, r.id = id ∧ r.state = .pending

variable {s s' : Store} {l m : Log}

theorem Holds.pending_iff (h : s.Holds l) {id : RecordId} :
    s.Pending id ↔ ∃ r ∈ l.records, r.id = id ∧ r.state = .pending := by
  unfold Pending
  rw [contents_eq h]
  constructor
  · rintro ⟨records, hr, r, hmem, hid, hs⟩
    injection hr with hr
    rw [← hr] at hmem
    obtain ⟨q, hq, rfl⟩ := List.mem_map.mp hmem
    exact ⟨q, hq, hid, hs⟩
  · rintro ⟨r, hr, hid, hs⟩
    exact ⟨_, rfl, r.kept, List.mem_map_of_mem hr, hid, hs⟩

theorem turned_eq (h : s.Holds l) (h' : s'.Holds m) :
    s.turned s' = l.records.countP fun r =>
      r.isPending && m.records.any fun q => decide (q.id = r.id) && !q.isPending := by
  unfold turned
  rw [contents_eq h, contents_eq h']
  simp only [Outbox.turned, List.countP_map, List.any_map]
  rfl

/-- A delivery turns the records that have waited for it. -/
theorem turned_deliver {ids : List RecordId} (h : s.Holds l) (h' : s'.Holds (l.deliver ids)) :
    s.turned s' = l.waiting ids := by
  rw [turned_eq h h']
  refine List.countP_congr fun r hr => ?_
  rw [Record.waits_iff, Bool.and_eq_true, Record.isPending_iff, List.any_eq_true]
  refine and_congr_right fun hs => ⟨?_, fun hin => ?_⟩
  · rintro ⟨q, hq, hqs⟩
    obtain ⟨p, hp, rfl⟩ := List.mem_map.mp hq
    simp only [Record.deliverIn_id, Bool.and_eq_true, decide_eq_true_eq, Bool.not_eq_true',
      Record.not_isPending_iff] at hqs
    obtain rfl : p = r := l.eq_of_id_eq hp hr hqs.1
    -- it was pending, so that it can only have been delivered as one of the given ones
    refine Decidable.by_contra fun out => ?_
    rw [Record.deliverIn_of_not_mem out, hs] at hqs
    cases hqs.2
  · refine ⟨r.deliverIn ids, List.mem_map_of_mem hr, ?_⟩
    simp [Record.deliverIn_of_mem hin, Record.isPending]

/-- Nothing turns where everything delivered was there before. -/
theorem turned_eq_zero (h : s.Holds l) (h' : s'.Holds m)
    (old : ∀ r ∈ m.records, r.state = .delivered → r ∈ l.records) : s.turned s' = 0 := by
  rw [turned_eq h h', List.countP_eq_zero]
  intro r hr hturned
  simp only [Bool.and_eq_true, Record.isPending_iff, List.any_eq_true, decide_eq_true_eq,
    Bool.not_eq_true', Record.not_isPending_iff] at hturned
  obtain ⟨hs, q, hq, hid, hqs⟩ := hturned
  obtain rfl : q = r := l.eq_of_id_eq (old q hq hqs) hr hid
  rw [hs] at hqs
  cases hqs

end Store

namespace Fleet

variable {f f' : Fleet} {l l' : Log} {coordinators : List Coordinator} {b : Option Batch}

/-- How many records the counts of all members say to be delivered. -/
def counted (f : Fleet) : Nat := (f.members.map (·.stats.eventsDelivered)).sum

theorem counted_ended {k : Nat} {m : Member} (hm : f.members[k]? = some m) (report : SyncReport) :
    (f.ended k report).counted = f.counted + report.counted := by
  unfold counted ended
  generalize f.members = ms at hm
  induction ms generalizing k with
  | nil => simp at hm
  | cons n ms ih =>
    cases k with
    | zero =>
      simp only [List.modify_zero_cons, List.map_cons, List.sum_cons, Member.count,
        SyncStats.eventsDelivered_count]
      omega
    | succ k =>
      simp only [List.modify_succ_cons, List.map_cons, List.sum_cons]
      rw [ih (by simpa using hm)]
      omega

/-! ### One move -/

namespace Effect

/-- A move turns the records that have waited for the batch it commits. -/
theorem turned (h : Effect f l b f' l') (hold : f.store.Holds l) :
    f.store.turned f'.store = b.elim 0 fun b => l.waiting b.ids := by
  have still : f.store.turned f.store = 0 := Store.turned_eq_zero hold hold fun _ hr _ => hr
  cases h with
  | committed hi hs => exact Store.turned_deliver hold hs
  | appended e hid hs =>
    exact Store.turned_eq_zero hold hs fun _ hr hrs => Log.mem_of_mem_append hr hrs
  | erased hs => exact Store.turned_eq_zero hold hs fun _ hr => nomatch hr
  | reopened hs => exact Store.turned_eq_zero hold hs fun _ hr _ => hr
  | _ => exact still

/-- The reports after a move count the whole batch it commits. -/
theorem reports (h : Effect f l b f' l') :
    ∃ rs, f'.reports = f.reports ++ rs ∧ countedIn rs = b.elim 0 Batch.size := by
  cases h with
  | @refused k m report hm hr =>
    refine ⟨[report], rfl, ?_⟩
    cases report with
    | success n => exact absurd rfl (hr n)
    | _ => rfl
  | failed failure hi ha => exact ⟨[.failed failure], rfl, rfl⟩
  | @committed i flight store hi hs =>
    exact ⟨[.success flight.attempt.batch.size], rfl, by simp [SyncReport.counted]⟩
  | _ => exact ⟨[], (List.append_nil _).symm, rfl⟩

/-- So do the counts of the members. -/
theorem counted (h : Effect f l b f' l') (hsound : Sound coordinators f l) :
    f'.counted = f.counted + b.elim 0 Batch.size := by
  have member : ∀ {i : Nat} {flight : Flight}, f.flights[i]? = some flight →
      ∃ m, f.members[flight.member]? = some m := by
    intro i flight hi
    obtain ⟨c, past, hc, -⟩ := hsound.flights flight (List.mem_of_getElem? hi)
    rw [← hsound.members, List.getElem?_map, Option.map_eq_some_iff] at hc
    obtain ⟨m, hm, -⟩ := hc
    exact ⟨m, hm⟩
  cases h with
  | @refused k m report hm hr =>
    rw [counted_ended hm]
    cases report with
    | success n => exact absurd rfl (hr n)
    | _ => rfl
  | failed failure hi ha =>
    obtain ⟨m, hm⟩ := member hi
    refine counted_ended (m := m) ?_ _
    exact hm
  | committed hi hs =>
    obtain ⟨m, hm⟩ := member hi
    refine counted_ended (m := m) ?_ _
    exact hm
  | _ => rfl

/-- What is committed was taken from the log as it once was. -/
theorem selected {batch : Batch} (h : Effect f l (some batch) f' l')
    (hsound : Sound coordinators f l) :
    ∃ (c : Coordinator) (past : Log), batch = c.batchOf past := by
  obtain ⟨⟨flight, hf, rfl⟩, -⟩ := h.of_commit
  obtain ⟨c, past, -, -, hb⟩ := hsound.flights flight hf
  exact ⟨c, past, hb⟩

end Effect

/-! ### Runs -/

variable {γ : Type} [CredentialGate γ]

/-- How many records turn from pending to delivered in a run. -/
def turned (f : Fleet) : List (Move γ) → Nat
  | [] => 0
  | move :: moves => f.store.turned (f.step move).store + (f.step move).turned moves

/-- Whenever a batch is committed in a run, all its records are still there and pending. -/
def Whole (f : Fleet) : List (Move γ) → Prop
  | [] => True
  | move :: moves =>
    (∀ batch, f.commit? move = some batch → ∀ id ∈ batch.ids, f.store.Pending id) ∧
      (f.step move).Whole moves

/-- One move counts at least the records that it turns, and no more exactly if all records of the
batch it commits are pending. -/
theorem Effect.counts (h : Effect f l b f' l') (hsound : Sound coordinators f l) :
    f.store.turned f'.store ≤ b.elim 0 Batch.size ∧
      (b.elim 0 Batch.size = f.store.turned f'.store ↔
        ∀ batch, b = some batch → ∀ id ∈ batch.ids, f.store.Pending id) := by
  rw [h.turned hsound.holds]
  cases b with
  | none => simp
  | some batch =>
    obtain ⟨c, past, rfl⟩ := h.selected hsound
    have nodup := c.batchOf_nodup past
    have le := l.waiting_le nodup
    have eq := Log.waiting_eq_length_iff (l := l) nodup
    simp only [Option.elim_some, Option.some.injEq, forall_eq', c.size_batchOf past,
      hsound.holds.pending_iff]
    exact ⟨le, eq_comm.trans eq⟩

theorem run_counts (h : Sound coordinators f l) (moves : List (Move γ)) :
    ∃ rs, (f.run moves).reports = f.reports ++ rs ∧
      (f.run moves).counted = f.counted + countedIn rs ∧ f.turned moves ≤ countedIn rs ∧
      (countedIn rs = f.turned moves ↔ f.Whole moves) := by
  induction moves generalizing f l with
  | nil =>
    have whole : countedIn [] = f.turned ([] : List (Move γ)) ↔ f.Whole ([] : List (Move γ)) := by
      simp [countedIn, turned, Whole]
    exact ⟨[], (List.append_nil _).symm, rfl, Nat.le_refl 0, whole⟩
  | cons move moves ih =>
    obtain ⟨m, he⟩ := step_effect h.holds move
    obtain ⟨rs, hrs, hcounted, hle, hiff⟩ := ih (h.effect he)
    obtain ⟨new, hnew, hsize⟩ := he.reports
    obtain ⟨le, iff⟩ := he.counts h
    have total : countedIn (new ++ rs) = countedIn new + countedIn rs := countedIn_append new rs
    refine ⟨new ++ rs, ?_, ?_, ?_, ?_⟩
    · rw [← List.append_assoc, ← hnew]
      exact hrs
    · have one := he.counted h
      unfold run at hcounted ⊢
      rw [List.foldl_cons]
      omega
    · unfold turned
      omega
    · unfold turned Whole
      rw [← iff, ← hiff]
      omega

/-! ### Series of attempts -/

/-- An attempt whose report is noted down. -/
def noted {σ : Type} (attempt : StateM σ SyncReport) : StateM (σ × List SyncReport) SyncReport :=
  fun (s, rs) =>
    let (report, s) := attempt s
    (report, s, rs ++ [report])

theorem drain_go_counts {σ : Type} (attempt : StateM σ SyncReport) (rest batches delivered : Nat)
    (s : σ) (rs : List SyncReport) :
    ∃ new, (drain.go (noted attempt) batches delivered rest (s, rs)).2.2 = rs ++ new ∧
      (drain.go (noted attempt) batches delivered rest (s, rs)).1.delivered =
        delivered + countedIn new := by
  induction rest generalizing batches delivered s rs with
  | zero =>
    rcases h : attempt s with ⟨report, s'⟩
    refine ⟨[report], ?_⟩
    simp only [drain.go, noted, bind, StateT.bind, h]
    cases report with
    | success n => exact ⟨rfl, rfl⟩
    | _ => exact ⟨rfl, rfl⟩
  | succ rest ih =>
    rcases h : attempt s with ⟨report, s'⟩
    simp only [drain.go, noted, bind, StateT.bind, h]
    cases report with
    | success n =>
      obtain ⟨new, hnew, hd⟩ := ih (batches + 1) (delivered + n) s' (rs ++ [.success n])
      refine ⟨.success n :: new, ?_, ?_⟩
      · simpa using hnew
      · simpa [countedIn, SyncReport.counted, Nat.add_assoc] using hd
    | _ => exact ⟨[_], rfl, rfl⟩

/-- The end of a series of attempts counts what their reports count. -/
theorem drain_counts {σ : Type} (attempt : StateM σ SyncReport) (max : Nat) (s : σ) :
    (drain (noted attempt) max (s, [])).1.delivered =
      countedIn (drain (noted attempt) max (s, [])).2.2 := by
  obtain ⟨new, hnew, hd⟩ := drain_go_counts attempt (max - 1) 0 0 s []
  unfold drain
  rw [hd, hnew, List.nil_append, Nat.zero_add]

/-- The reports of a run count what the members count. This is never less than what has turned from
pending to delivered, and it is the same exactly if every batch was committed while all its records
were still there and pending. A series of attempts counts what its reports count. -/
theorem counts_exact (h : Reached γ coordinators f) (moves : List (Move γ)) :
    (∃ rs, (f.run moves).reports = f.reports ++ rs ∧
      (f.run moves).counted = f.counted + countedIn rs ∧ f.turned moves ≤ countedIn rs ∧
      (countedIn rs = f.turned moves ↔ f.Whole moves)) ∧
    ∀ (σ : Type) (attempt : StateM σ SyncReport) (max : Nat) (s : σ),
      (drain (noted attempt) max (s, [])).1.delivered =
        countedIn (drain (noted attempt) max (s, [])).2.2 := by
  obtain ⟨l, hl⟩ := h.sound
  exact ⟨run_counts hl moves, fun σ attempt max s => drain_counts attempt max s⟩

/-- The only record is erased while its batch is on its way. -/
def erasedUnderway : List (Move MemoryGate) :=
  [.append default, .begin 0 ⟨some ⟨"token"⟩⟩, .erase, .finish 0 .delivered ⟨some ⟨"token"⟩⟩]

/-- The counts are too large after `erasedUnderway`: one record is counted, and none was
delivered. -/
theorem counted_erasedUnderway :
    ((start Store.inMemory.migrate.2 [{}]).run erasedUnderway).counted = 1 ∧
      (start Store.inMemory.migrate.2 [{}]).turned erasedUnderway = 0 := by
  decide

/-- In `erasedUnderway` a batch is committed whose record is gone. -/
theorem counts_exact_erasedUnderway :
    ¬ ((start Store.inMemory.migrate.2 [{}]).run ([] : List (Move MemoryGate))).Whole
      erasedUnderway := by
  obtain ⟨⟨rs, -, counted, -, whole⟩, -⟩ :=
    counts_exact (reached_inMemory (γ := MemoryGate) [{}] []) erasedUnderway
  rw [← whole]
  intro same
  rw [same] at counted
  exact absurd counted (by decide)

end Fleet

end Outbox
