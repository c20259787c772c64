import Outbox.Proofs.Fleet.Retrying
import Outbox.Proofs.Sync.Uploading

/-!
# Series end

A series of attempts goes on as long as they succeed, also where others work on the store between
its attempts and while its batches are on their way. Each success takes a pending record away for
good, whoever delivers or erases it, and only appends bring new ones. So a series makes at most one
attempt more than there were pending records and appends (`drain_ends`).
-/

namespace Outbox

/-! ### What can still be sent -/

namespace Store

variable {s s' s'' : Store} {ids ids' : List RecordId} {n m : Nat}

/-- How many of the rows are pending, beside those of these numbers. -/
def pendingBeside (ids : List RecordId) (rows : List Row) : Nat :=
  rows.countP fun r => r.isPending && !decide (r.id ∈ ids)

/-- How many rows are pending again as soon as the open transaction is undone. -/
def heldBack (s : Store) : Nat := if s.saved.isSome then s.undone.rows.countP Row.isPending else 0

/-- How many rows there can still be to send, beside those of these numbers. -/
def awaited (s : Store) (ids : List RecordId) : Nat := pendingBeside ids s.rows + s.heldBack

/-- The second store comes of the first one by changes that add at most this many pending rows.
Where no transaction is open none is opened. -/
structure Yields (s s' : Store) (n : Nat) : Prop where
  awaited : ∀ ids, s'.awaited ids ≤ s.awaited ids + n
  saved : s'.saved = s.saved ∨ s'.saved = none

theorem Yields.refl (s : Store) : s.Yields s 0 := ⟨fun _ => le_rfl, .inl rfl⟩

theorem Yields.trans (h : s.Yields s' n) (h' : s'.Yields s'' m) : s.Yields s'' (n + m) where
  awaited := by
    intro ids
    have first := h.awaited ids
    have second := h'.awaited ids
    omega
  saved := by
    rcases h'.saved with same | none
    · rw [same]
      exact h.saved
    · exact .inr none

theorem heldBack_of_settled (h : s.saved = none) : s.heldBack = 0 := by simp [heldBack, h]

/-- A change of the live database leaves what an open transaction holds back. -/
theorem heldBack_live (s : Store) (d : Database) :
    ({ s with live := d } : Store).heldBack = s.heldBack := by
  cases h : s.saved with
  | none => simp [heldBack, h]
  | some saved => simp [heldBack, undone, close, h, rows]

theorem pendingBeside_nil (rows : List Row) :
    pendingBeside [] rows = rows.countP Row.isPending := by
  simp [pendingBeside]

theorem pendingBeside_le (ids : List RecordId) (rows : List Row) :
    pendingBeside ids rows ≤ rows.countP Row.isPending := by
  refine List.countP_mono_left fun r _ h => ?_
  exact (Bool.and_eq_true_iff.mp h).1

theorem awaited_undone (opened : s.saved ≠ none) : s.undone.awaited ids ≤ s.awaited ids := by
  have closed : s.undone.heldBack = 0 := heldBack_of_settled rfl
  have held : s.heldBack = s.undone.rows.countP Row.isPending := by
    rw [heldBack, if_pos (Option.isSome_iff_ne_none.mpr opened)]
  have le := pendingBeside_le ids s.undone.rows
  unfold awaited
  omega

/-- The delivery of a table leaves the pending rows of other numbers. -/
theorem pendingBeside_delivered (t : Table) (ids ids' : List RecordId) :
    pendingBeside ids (t.delivered ids').rows = pendingBeside (ids' ++ ids) t.rows := by
  rw [pendingBeside, Table.delivered, List.countP_map, pendingBeside]
  refine List.countP_congr fun r hr => ?_
  have kept : (if r.id ∈ ids' ∧ t.waits r.id then r.deliver else r).id = r.id := by
    split <;> rfl
  rw [Function.comp_apply, Table.isPending_delivered hr, kept]
  simp [and_assoc]

theorem awaited_withTable (s : Store) (u : Table) :
    (s.withTable u).awaited ids = pendingBeside ids u.rows + s.heldBack := by
  rw [awaited, withTable, heldBack_live]
  rfl

theorem markDelivered_yields (s : Store) (ids' : List RecordId) :
    s.Yields (s.markDelivered ids').2 0 := by
  by_cases empty : ids' = []
  · rw [empty]
    exact .refl s
  · rcases s.markDelivered_result empty with ⟨fault, hm⟩ | ⟨n, t, ht, hm⟩
    · rw [hm]
      exact .refl s
    · rw [hm]
      refine ⟨fun ids => ?_, .inl rfl⟩
      rw [awaited_withTable, pendingBeside_delivered, awaited, rows_of_table ht]
      have le : pendingBeside (ids' ++ ids) t.rows ≤ pendingBeside ids t.rows := by
        refine List.countP_mono_left fun r _ h => ?_
        simp only [Bool.and_eq_true, Bool.not_eq_true', decide_eq_false_iff_not,
          List.mem_append, not_or] at h ⊢
        exact ⟨h.1, h.2.2⟩
      omega

theorem eraseAll_yields (s : Store) : s.Yields s.eraseAll.2 0 := by
  rcases s.eraseAll_result with ⟨fault, he⟩ | ⟨events, -, hc, he⟩
  · rw [he]
    exact .refl s
  · rw [he]
    refine ⟨fun ids => ?_, .inl rfl⟩
    have none : ({ s with live := { s.live with events } } : Store).rows = [] := by
      have total := Events.clear_total hc
      cases events with
      | table t => exact List.eq_nil_of_length_eq_zero (Except.ok.inj total)
      | _ => rfl
    rw [awaited, none, heldBack_live, awaited]
    simp [pendingBeside]

/-- An append adds one row if it succeeds. -/
theorem append_yields (s : Store) (e : Event) :
    s.Yields (s.append e).2 (s.append e).1.toOption.toList.length := by
  rcases s.append_result e with ⟨fault, ha⟩ | ⟨opened, ha⟩ | ⟨id, t, u, ht, hi, ha⟩
  · rw [ha]
    exact .refl s
  · rw [ha]
    exact ⟨fun ids => awaited_undone opened, .inr rfl⟩
  · rw [ha]
    refine ⟨fun ids => ?_, .inl rfl⟩
    obtain ⟨rfl, -⟩ := Table.insert_ok hi
    have one : pendingBeside ids [Row.ofEvent id e] ≤ 1 := List.countP_le_length
    rw [awaited_withTable, awaited, rows_of_table ht]
    simp only [pendingBeside, List.countP_append] at one ⊢
    simp only [Except.toOption, Option.toList_some, List.length_singleton]
    omega

end Store

variable {γ : Type} [CredentialGate γ]

theorem Attempt.finish_yields (a : Attempt) (outcome : Outcome) (gate : γ) (s : Store) :
    s.Yields (a.finish outcome gate s).2.2 0 := by
  have commit := s.markDelivered_yields a.batch.ids
  cases outcome with
  | delivered =>
    rcases hm : s.markDelivered a.batch.ids with ⟨fault | n, s'⟩ <;>
    · rw [hm] at commit
      simp only [finish, hm]
      exact commit
  | _ => exact .refl s

namespace Fleet

variable {f : Fleet} {move : Move γ} {moves : List (Move γ)}

/-- A move brings as many pending rows as it appends events. -/
theorem step_yields (stays : ∀ readOnly, .reopen readOnly ≠ move) :
    f.store.Yields (f.step move).store (f.append? move).toList.length := by
  cases move with
  | begin k gate =>
    rw [begin_store]
    exact .refl _
  | finish i outcome gate =>
    cases hi : f.flights[i]? with
    | none =>
      simp only [step, hi]
      exact .refl _
    | some flight =>
      simp only [step, hi]
      exact flight.attempt.finish_yields outcome gate f.store
  | drop i => exact .refl _
  | append e =>
    have appended := f.store.append_yields e
    rcases ha : f.store.append e with ⟨fault | id, store'⟩ <;>
    · rw [ha] at appended
      simp only [step, append?, ha]
      exact appended
  | erase => exact f.store.eraseAll_yields
  | reopen readOnly => exact absurd rfl (stays readOnly)

theorem run_yields (stays : ∀ readOnly, .reopen readOnly ∉ moves) :
    f.store.Yields (f.run moves).store (f.appended moves).length := by
  induction moves generalizing f with
  | nil => exact .refl _
  | cons move moves ih =>
    have stays readOnly := List.ne_and_not_mem_of_not_mem_cons (stays readOnly)
    have first : f.store.Yields (f.step move).store _ :=
      step_yields fun readOnly => (stays readOnly).1
    have rest := ih (f := f.step move) fun readOnly => (stays readOnly).2
    rw [appended, List.length_append]
    exact first.trans rest

end Fleet

/-! ### One attempt -/

namespace Coordinator

variable {c : Coordinator} {gate : γ} {s : Store} {a : Attempt}

/-- A batch takes at least one of the rows that are pending. -/
theorem begin_awaited (h : c.begin gate s = .ok a) : s.awaited a.batch.ids + 1 ≤ s.awaited [] := by
  obtain ⟨t, ht, -, ids, -⟩ := begin_rows h
  obtain ⟨id, taken⟩ := List.exists_mem_of_ne_nil _ (begin_ids h)
  have first := taken
  rw [ids] at first
  obtain ⟨r, hr, rfl⟩ := List.mem_map.mp first
  obtain ⟨there, pending⟩ := List.mem_filter.mp (List.mem_of_mem_take hr)
  -- the pending rows are those of the batch and the others
  have parts := List.countP_eq_countP_filter_add t.rows Row.isPending fun r =>
    decide (r.id ∈ a.batch.ids)
  have some : 0 < (t.rows.filter fun r => decide (r.id ∈ a.batch.ids)).countP Row.isPending := by
    exact List.countP_pos_iff.mpr
      ⟨r, List.mem_filter.mpr ⟨there, decide_eq_true taken⟩, pending⟩
  have others : (t.rows.filter fun r => ! decide (r.id ∈ a.batch.ids)).countP Row.isPending =
      Store.pendingBeside a.batch.ids t.rows := List.countP_filter
  have all := Store.pendingBeside_nil t.rows
  have table := Store.rows_of_table ht
  simp only [Store.awaited, table, all]
  rw [others] at parts
  omega

/-- A success commits a batch for good: its records are awaited no more. -/
theorem finish_success {outcome : Outcome} {n : Nat} {gate' : γ} {s' : Store}
    (h : a.finish outcome gate s = (.success n, gate', s')) (some : a.batch.ids ≠ []) :
    s.saved = none ∧ s'.saved = none ∧ s'.awaited [] ≤ s.awaited a.batch.ids := by
  cases outcome with
  | delivered =>
    rcases s.markDelivered_result some with ⟨fault, hm⟩ | ⟨k, t, ht, hm⟩
    · simp only [Attempt.finish, hm] at h
      cases h
    · simp only [Attempt.finish, hm] at h
      cases h
      have opened : ∃ u, s.Open u := by
        by_contra none
        obtain ⟨fault, failed⟩ := Store.markDelivered_closed (fun u hu => none ⟨u, hu⟩) some
        rw [hm] at failed
        cases failed
      obtain ⟨u, opened⟩ := opened
      refine ⟨opened.settled, opened.settled, ?_⟩
      rw [Store.awaited_withTable, Store.pendingBeside_delivered, List.append_nil, Store.awaited,
        Store.rows_of_table ht]
  | _ => cases h

end Coordinator

/-- What happens around one attempt of a series: what the others do before it and while its batch is
on its way, the gate at its beginning and at its end, and its outcome. The store stays open. -/
structure Round (γ : Type) where
  before : List (Fleet.Move γ) := []
  gate : γ
  during : List (Fleet.Move γ) := []
  gateAfter : γ
  outcome : Outcome
  stays : ∀ readOnly, .reopen readOnly ∉ before ∧ .reopen readOnly ∉ during

/-- The others around a series of attempts: their fleet, on the store of the series, and how many
attempts the series has made and how many events were appended so far. -/
structure Crowd where
  others : Fleet
  attempts : Nat := 0
  appended : Nat := 0

/-- The store and the crowd after some moves of the others. -/
def Crowd.act (crowd : Crowd) (store : Store) (moves : List (Fleet.Move γ)) : Store × Crowd :=
  let others := { crowd.others with store }
  ((others.run moves).store,
    { crowd with
      others := others.run moves
      appended := crowd.appended + (others.appended moves).length })

/-- The transport of a round. -/
def Round.carry (round : Round γ) (_ : Batch) (_ : Credential) :
    StateT (Site γ) (StateM Crowd) Outcome :=
  fun site crowd =>
    let (store, crowd) := crowd.act site.store round.during
    ((round.outcome, { site with gate := round.gateAfter, store }), crowd)

/-- An attempt amid the others, in the round that has its number. -/
def amid (c : Coordinator) (rounds : Nat → Round γ) : StateT (Site γ) (StateM Crowd) SyncReport :=
  fun site crowd =>
    let round := rounds crowd.attempts
    let (store, crowd) := crowd.act site.store round.before
    c.runOnce round.carry { site with gate := round.gate, store }
      { crowd with attempts := crowd.attempts + 1 }

/-- What an attempt does amid the others: it is one more, and what is awaited after it was awaited
before or was appended, all but one of the records if it succeeds. -/
structure Attempted (store : Store) (crowd : Crowd) (report : SyncReport) (store' : Store)
    (crowd' : Crowd) (n : Nat) : Prop where
  attempts : crowd'.attempts = crowd.attempts + 1
  appended : crowd'.appended = crowd.appended + n
  saved : store'.saved = store.saved ∨ store'.saved = none
  success : ∀ k, report = .success k →
    store'.saved = none ∧ store'.awaited [] + 1 ≤ store.awaited [] + n

theorem amid_attempted (c : Coordinator) (rounds : Nat → Round γ) (site : Site γ) (crowd : Crowd) :
    ∃ report site' crowd' n, amid c rounds site crowd = ((report, site'), crowd') ∧
      Attempted site.store crowd report site'.store crowd' n := by
  let round := rounds crowd.attempts
  let f : Fleet := { crowd.others with store := site.store }
  let g := f.run round.before
  let h := g.run round.during
  have early : f.store.Yields g.store (f.appended round.before).length :=
    Fleet.run_yields fun readOnly => (round.stays readOnly).1
  have late : g.store.Yields h.store (g.appended round.during).length :=
    Fleet.run_yields fun readOnly => (round.stays readOnly).2
  let start : Crowd :=
    { others := g
      attempts := crowd.attempts + 1
      appended := crowd.appended + (f.appended round.before).length }
  have result := c.runOnce_eq round.carry { site with gate := round.gate, store := g.store } start
  cases begun : c.begin round.gate g.store with
  | error report =>
    simp only [begun] at result
    refine ⟨report, _, _, _, result, rfl, rfl, early.saved, ?_⟩
    rintro k rfl
    rcases Coordinator.begin_error begun with ⟨-, no⟩ | ⟨-, ⟨fault, -, no⟩ | ⟨-, no⟩⟩ <;> cases no
  | ok a =>
    have carried : round.carry a.batch a.credential
        { site with gate := round.gate, store := g.store } start =
        ((round.outcome, { site with gate := round.gateAfter, store := h.store }),
          { start with
            others := h
            appended := start.appended + (g.appended round.during).length }) := rfl
    rcases ended : a.finish round.outcome round.gateAfter h.store with ⟨report, gate', store'⟩
    simp only [begun, carried, ended] at result
    have commit := a.finish_yields round.outcome round.gateAfter h.store
    rw [ended] at commit
    have whole := (early.trans late).trans commit
    refine ⟨report, _, _, _, result, rfl, Nat.add_assoc _ _ _, whole.saved, ?_⟩
    rintro k rfl
    obtain ⟨-, closed, left⟩ := Coordinator.finish_success ended (Coordinator.begin_ids begun)
    have taken := Coordinator.begin_awaited begun
    have before := early.awaited []
    have during := late.awaited a.batch.ids
    refine ⟨closed, ?_⟩
    show store'.awaited [] + 1 ≤ f.store.awaited [] +
      ((f.appended round.before).length + (g.appended round.during).length)
    omega

/-! ### A series of attempts -/

/-- What a series of at most `rest + 1` attempts does amid the others. -/
structure Ends (rest : Nat) (store : Store) (crowd : Crowd) (last : SyncReport) (store' : Store)
    (crowd' : Crowd) : Prop where
  appended : crowd.appended ≤ crowd'.appended
  saved : store'.saved = store.saved ∨ store'.saved = none
  /-- There is one attempt more than records were awaited or appended. -/
  attempts : crowd'.attempts + crowd.appended ≤
    crowd.attempts + store.awaited [] + crowd'.appended + 1
  /-- The series goes on only where no transaction is open. -/
  single : crowd'.attempts = crowd.attempts + 1 ∨ store'.saved = none
  /-- The last attempt is a success only if the series may make no more. -/
  success : ∀ n, last = .success n →
    store'.saved = none ∧ rest + 1 + crowd.appended ≤ store.awaited [] + crowd'.appended

variable {c : Coordinator} {rounds : Nat → Round γ} {store store₁ store' : Store}
  {crowd crowd₁ crowd' : Crowd} {report last : SyncReport} {n rest : Nat}

theorem Attempted.ends (h : Attempted store crowd report store' crowd' n)
    (final : rest = 0 ∨ ∀ k, report ≠ .success k) : Ends rest store crowd report store' crowd' := by
  have attempts := h.attempts
  have appended := h.appended
  refine ⟨by omega, h.saved, by omega, .inl attempts, ?_⟩
  rintro k rfl
  rcases final with rfl | unsuccessful
  · obtain ⟨closed, less⟩ := h.success k rfl
    exact ⟨closed, by omega⟩
  · exact absurd rfl (unsuccessful k)

theorem Attempted.next {k : Nat} (h : Attempted store crowd (.success k) store₁ crowd₁ n)
    (later : Ends rest store₁ crowd₁ last store' crowd') :
    Ends (rest + 1) store crowd last store' crowd' := by
  have attempts := h.attempts
  have appended := h.appended
  have more := later.appended
  have most := later.attempts
  obtain ⟨closed, less⟩ := h.success k rfl
  have still : store'.saved = none := by
    rcases later.saved with same | none
    · rw [same, closed]
    · exact none
  refine ⟨by omega, .inr still, by omega, .inr still, fun m hm => ?_⟩
  have used := (later.success m hm).2
  exact ⟨still, by omega⟩

theorem go_ends (c : Coordinator) (rounds : Nat → Round γ) (batches delivered rest : Nat)
    (site : Site γ) (crowd : Crowd) :
    ∃ report site' crowd', drain.go (amid c rounds) batches delivered rest site crowd =
      ((report, site'), crowd') ∧ Ends rest site.store crowd report.last site'.store crowd' := by
  induction rest generalizing batches delivered site crowd with
  | zero =>
    obtain ⟨report, site', crowd', n, ha, h⟩ := amid_attempted c rounds site crowd
    by_cases successful : ∃ k, report = .success k
    · obtain ⟨k, rfl⟩ := successful
      exact ⟨_, _, _, go_last ha batches delivered, h.ends (.inl rfl)⟩
    · have unsuccessful : ∀ k, report ≠ .success k := fun k hk => successful ⟨k, hk⟩
      exact ⟨_, _, _, go_ended ha unsuccessful batches delivered 0, h.ends (.inl rfl)⟩
  | succ rest ih =>
    obtain ⟨report, site', crowd', n, ha, h⟩ := amid_attempted c rounds site crowd
    by_cases successful : ∃ k, report = .success k
    · obtain ⟨k, rfl⟩ := successful
      obtain ⟨report', site'', crowd'', hg, later⟩ :=
        ih (batches + 1) (delivered + k) site' crowd'
      exact ⟨report', site'', crowd'', (go_next ha batches delivered rest).trans hg, h.next later⟩
    · have unsuccessful : ∀ k, report ≠ .success k := fun k hk => successful ⟨k, hk⟩
      exact ⟨_, _, _, go_ended ha unsuccessful batches delivered (rest + 1),
        h.ends (.inr unsuccessful)⟩

theorem Store.pending_le_count {p : Nat} (h : store.countPending = .ok p) :
    store.awaited [] ≤ p + store.heldBack := by
  obtain ⟨-, counted⟩ := read_eq_ok.mp h
  have rows : store.rows.countP Row.isPending ≤ p := by
    cases events : store.live.events with
    | table t =>
      rw [events] at counted
      cases counted
      rw [rows_of_table events]
      exact le_rfl
    | _ => simp [Store.rows, events]
  rw [awaited, pendingBeside_nil]
  omega

/-- Others may do what they like on the store of a series, but open it anew: their attempts, their
erasures and their appends come before each attempt and while its batch is on its way. The series
makes at most one attempt more than there were pending records and appends, and unless as many
attempts as that are more than it may make, it ends because the last one is no success. Only if a
transaction was open on the store and an append has undone it may there be as many more as it has
held back. -/
theorem drain_ends (c : Coordinator) (rounds : Nat → Round γ) (site : Site γ) (others : Fleet)
    {p : Nat} (counted : site.store.countPending = .ok p) (max : Nat) :
    ∃ report site' crowd held, drain (amid c rounds) max site { others } =
        ((report, site'), crowd) ∧
      held ≤ site.store.heldBack ∧ (site'.store.saved = site.store.saved → held = 0) ∧
      crowd.attempts ≤ p + held + crowd.appended + 1 ∧
      (p + held + crowd.appended < max → ∀ n, report.last ≠ .success n) := by
  obtain ⟨report, site', crowd, hd, h⟩ := go_ends c rounds 0 0 (max - 1) site { others }
  have attempts : crowd.attempts ≤ site.store.awaited [] + crowd.appended + 1 := by
    have := h.attempts
    simp only at this
    omega
  have success : ∀ n, report.last = .success n →
      site'.store.saved = none ∧ max ≤ site.store.awaited [] + crowd.appended := by
    intro n hn
    obtain ⟨closed, used⟩ := h.success n hn
    simp only at used
    exact ⟨closed, by omega⟩
  have all := Store.pending_le_count counted
  by_cases kept : site'.store.saved = site.store.saved
  · refine ⟨report, site', crowd, 0, hd, Nat.zero_le _, fun _ => rfl, ?_, fun few n hn => ?_⟩
    · rcases h.single with one | closed
      · simp only at one
        omega
      · have none := Store.heldBack_of_settled (kept.symm.trans closed)
        omega
    · obtain ⟨closed, used⟩ := success n hn
      have none := Store.heldBack_of_settled (kept.symm.trans closed)
      omega
  · refine ⟨report, site', crowd, site.store.heldBack, hd, le_rfl, fun same => absurd same kept,
      by omega, fun few n hn => ?_⟩
    have used := (success n hn).2
    omega

/-- A round in which the batch is acknowledged. -/
def acknowledging (before during : List (Fleet.Move MemoryGate))
    (stays : ∀ readOnly, .reopen readOnly ∉ before ∧ .reopen readOnly ∉ during) :
    Round MemoryGate where
  before := before
  gate := ⟨some ⟨"token"⟩⟩
  during := during
  gateAfter := ⟨some ⟨"token"⟩⟩
  outcome := .delivered
  stays := stays

/-- In the first round another coordinator takes all records before and delivers them during the
transmission, and then an event comes. -/
def overtaken : Nat → Round MemoryGate
  | 0 => acknowledging [.begin 0 ⟨some ⟨"token"⟩⟩]
      [.finish 0 .delivered ⟨some ⟨"token"⟩⟩, .append default] (by simp)
  | _ => acknowledging [] [] (by simp)

/-- A store with two events. -/
def twoWaiting : Store := ((Store.inMemory.migrate.2.append default).2.append default).2

theorem drain_overtaken (rest : Nat) :
    ∃ gate store stats others,
      drain (amid { limit := 1 } overtaken) (rest + 4) { gate := {}, store := twoWaiting }
          { others := .start twoWaiting [default] } =
        ((⟨2, 2, .noData⟩, ⟨gate, store, stats⟩), ⟨others, 3, 1⟩) ∧
      store.saved = none :=
  ⟨_, _, _, _, rfl, rfl⟩

/-- Amid `overtaken` a series on two records commits one of them in vain, then the event that has
come, and ends with its third attempt. -/
theorem drain_ends_overtaken :
    twoWaiting.countPending = .ok 2 ∧
      ∃ report site' crowd, drain (amid { limit := 1 } overtaken) Command.allBatches
          { gate := {}, store := twoWaiting } { others := .start twoWaiting [default] } =
          ((report, site'), crowd) ∧
        crowd.attempts = 3 ∧ crowd.appended = 1 ∧ crowd.attempts ≤ 2 + crowd.appended + 1 ∧
        ∀ n, report.last ≠ .success n := by
  have counted : twoWaiting.countPending = .ok 2 := rfl
  obtain ⟨gate, store, stats, others, made, closed⟩ := drain_overtaken (Command.allBatches - 4)
  obtain ⟨report, site', crowd, held, result, -, settled, attempts, ends⟩ :=
    drain_ends { limit := 1 } overtaken { gate := {}, store := twoWaiting }
      (.start twoWaiting [default]) counted Command.allBatches
  have same := made.symm.trans result
  cases same
  obtain rfl : held = 0 := settled closed
  have few : 2 + 0 + 1 < Command.allBatches := by decide
  exact ⟨counted, _, _, _, result, rfl, rfl, attempts, ends few⟩

/-- In the first round an append finds no number. -/
def exhausting : Nat → Round MemoryGate
  | 0 => acknowledging [] [.append default] (by simp)
  | _ => acknowledging [] [] (by simp)

/-- A store with an open transaction, in which two records were erased and another one has come, and
with no number left. -/
def twoHeldBack : Store :=
  ((((twoWaiting.tamper .begin).2.eraseAll.2.append default).2).tamper
    (.setSequence Table.greatestId)).2

theorem drain_exhausting (rest : Nat) :
    ∃ site' others,
      drain (amid { limit := 1 } exhausting) (rest + 5) { gate := {}, store := twoHeldBack }
          { others := .start twoHeldBack [] } =
        ((⟨3, 3, .noData⟩, site'), ⟨others, 4, 0⟩) := by
  exact ⟨_, _, rfl⟩

/-- One record is pending and one append is made, but since that append undoes the transaction the
series makes four attempts. -/
theorem drain_undone :
    twoHeldBack.countPending = .ok 1 ∧ (exhausting 0).during.length = 1 ∧
      (∀ i, (exhausting (i + 1)).during = []) ∧ (∀ i, (exhausting i).before = []) ∧
      ∃ report site' crowd, drain (amid { limit := 1 } exhausting) Command.allBatches
          { gate := {}, store := twoHeldBack } { others := .start twoHeldBack [] } =
          ((report, site'), crowd) ∧
        crowd.attempts = 4 ∧ report.last = .noData ∧ ¬ crowd.attempts ≤ 1 + 1 + 1 := by
  obtain ⟨site', others, made⟩ := drain_exhausting (Command.allBatches - 5)
  have more : ¬ 4 ≤ 1 + 1 + 1 := by decide
  refine ⟨rfl, rfl, fun i => rfl, fun i => ?_, _, _, _, made, rfl, rfl, more⟩
  cases i with
  | zero => rfl
  | succ i => rfl

end Outbox
