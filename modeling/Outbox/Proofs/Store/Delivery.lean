import Mathlib.Data.Finset.Card
import Outbox.Proofs.Store.History
import Outbox.Proofs.Sync.Draining

/-!
# Deliveries as sets

A delivery is given a list of numbers, but only the set of them matters. It is refused as a whole,
or it turns the pending records of the set and tells how many these were (`markDelivered_exact`). So
a delivery can be repeated, and two of them are the delivery of both lists.
-/

namespace Outbox

/-! ### Sets of rows -/

namespace Table

variable {t u : Table} {id : RecordId} {ids ids' : List RecordId} {g : Guard}

/-- The numbers of the list, each of them once, of which a row is pending. -/
def waiting (t : Table) (ids : List RecordId) : Finset RecordId :=
  ids.toFinset.filter fun id => t.waits id

/-- The guard that refuses the delivery of one of these rows. -/
def refuses? (t : Table) (ids : List RecordId) : Option Guard :=
  t.guards.update.filter fun g => decide (g.subject ∈ t.waiting ids)

theorem mem_waiting : id ∈ t.waiting ids ↔ id ∈ ids ∧ t.waits id = true := by
  simp [waiting]

theorem refuses?_eq_some :
    t.refuses? ids = some g ↔ t.guards.update = some g ∧ g.subject ∈ t.waiting ids := by
  simp [refuses?, Option.filter_eq_some_iff]

theorem refuses?_eq_none :
    t.refuses? ids = none ↔ ∀ g, t.guards.update = some g → g.subject ∉ t.waiting ids := by
  simp [refuses?, Option.filter_eq_none_iff]

theorem waiting_delivered : (t.delivered ids).waiting ids' = t.waiting ids' \ t.waiting ids := by
  ext id
  simp only [mem_waiting, waits_delivered_iff, Finset.mem_sdiff, not_and]
  tauto

theorem waiting_append : t.waiting (ids ++ ids') = t.waiting ids ∪ t.waiting ids' := by
  ext id
  simp only [mem_waiting, List.mem_append, Finset.mem_union]
  tauto

/-- What two deliveries turn is counted once. -/
theorem card_waiting_append (t : Table) (ids ids' : List RecordId) :
    (t.waiting (ids ++ ids')).card =
      (t.waiting ids).card + ((t.delivered ids).waiting ids').card := by
  have apart : Disjoint (t.waiting ids) (t.waiting ids' \ t.waiting ids) := Finset.disjoint_sdiff
  rw [waiting_append, waiting_delivered, ← Finset.card_union_of_disjoint apart,
    Finset.union_sdiff_self_eq_union]

theorem card_waiting_singleton (t : Table) (id : RecordId) :
    (t.waiting [id]).card = if t.waits id then 1 else 0 := by
  by_cases waiting : t.waits id = true
  · have all : t.waiting [id] = {id} := by
      ext other
      simp only [mem_waiting, List.mem_singleton, Finset.mem_singleton]
      constructor
      · intro h
        exact h.1
      · rintro rfl
        exact ⟨rfl, waiting⟩
    rw [all, if_pos waiting, Finset.card_singleton]
  · have none : t.waiting [id] = ∅ := by
      refine Finset.eq_empty_of_forall_notMem fun other hmem => waiting ?_
      obtain ⟨hid, hw⟩ := mem_waiting.mp hmem
      rwa [List.mem_singleton.mp hid] at hw
    rw [none, if_neg waiting, Finset.card_empty]

/-! ### Deliveries in a table -/

/-- The delivery of a row is refused, or turns the row if it is pending. -/
theorem deliver_exact (t : Table) (id : RecordId) :
    (∃ g, t.refuses? [id] = some g ∧ t.deliver id = .error (.refused g.message)) ∨
      (t.refuses? [id] = none ∧ t.deliver id = .ok ((t.waiting [id]).card, t.delivered [id])) := by
  by_cases waits : t.waits id = true
  · have there : (t.rows.any fun r => r.id = id && r.isPending) = true := waits
    cases hg : t.guards.update.filter fun g => decide (g.subject = id) with
    | some g =>
      obtain ⟨update, subject⟩ := Option.filter_eq_some_iff.mp hg
      have among : g.subject ∈ t.waiting [id] := by
        rw [decide_eq_true_eq.mp subject]
        exact mem_waiting.mpr ⟨List.mem_singleton_self id, waits⟩
      refine .inl ⟨g, refuses?_eq_some.mpr ⟨update, among⟩, ?_⟩
      unfold deliver
      rw [if_pos there, hg]
    | none =>
      have unguarded : t.refuses? [id] = none := by
        refine refuses?_eq_none.mpr fun g update among => ?_
        have other := Option.filter_eq_none_iff.mp hg g update
        exact other (decide_eq_true (List.mem_singleton.mp (mem_waiting.mp among).1))
      have done : ∃ u, t.deliver id = .ok (1, u) := by
        unfold deliver
        rw [if_pos there, hg]
        exact ⟨_, rfl⟩
      obtain ⟨u, hu⟩ := done
      refine .inr ⟨unguarded, ?_⟩
      rw [card_waiting_singleton, if_pos waits, hu, deliver_eq hu]
  · have done : t.deliver id = .ok (0, t) := if_neg waits
    have unguarded : t.refuses? [id] = none := by
      refine refuses?_eq_none.mpr fun g _ among => waits ?_
      obtain ⟨subject, waiting⟩ := mem_waiting.mp among
      rwa [List.mem_singleton.mp subject] at waiting
    refine .inr ⟨unguarded, ?_⟩
    rw [card_waiting_singleton, if_neg waits, done, ← deliver_eq done]

theorem refuses?_append (h : t.refuses? ids = none) :
    t.refuses? (ids ++ ids') = (t.delivered ids).refuses? ids' := by
  refine Option.ext fun g => ?_
  have guards : (t.delivered ids).guards = t.guards := rfl
  rw [refuses?_eq_some, refuses?_eq_some, guards, waiting_append, waiting_delivered,
    Finset.mem_union, Finset.mem_sdiff]
  refine and_congr_right fun update => ?_
  have free := refuses?_eq_none.mp h g update
  simp [free]

theorem refuses?_append_eq_none : t.refuses? (ids ++ ids') = none ↔
    t.refuses? ids = none ∧ (t.delivered ids).refuses? ids' = none := by
  constructor
  · intro free
    have first : t.refuses? ids = none := by
      refine refuses?_eq_none.mpr fun g update among => ?_
      refine refuses?_eq_none.mp free g update ?_
      rw [waiting_append]
      exact Finset.mem_union_left _ among
    exact ⟨first, refuses?_append first ▸ free⟩
  · rintro ⟨first, second⟩
    rw [refuses?_append first, second]

/-- A delivery of any length is refused by the guard of one of its pending rows, or turns all of
these. -/
theorem deliverAll_exact (t : Table) (ids : List RecordId) :
    (∃ g, t.refuses? ids = some g ∧ t.deliverAll ids = .error (.refused g.message)) ∨
      (t.refuses? ids = none ∧
        t.deliverAll ids = .ok ((t.waiting ids).card, t.delivered ids)) := by
  induction ids generalizing t with
  | nil =>
    have nobody : t.waiting [] = ∅ := by simp [waiting]
    have unguarded : t.refuses? [] = none := by
      refine refuses?_eq_none.mpr fun g _ => ?_
      rw [nobody]
      exact Finset.notMem_empty _
    refine .inr ⟨unguarded, ?_⟩
    rw [nobody, delivered_nil, Finset.card_empty]
    rfl
  | cons id ids ih =>
    have split : id :: ids = [id] ++ ids := rfl
    rcases t.deliver_exact id with ⟨g, hg, hd⟩ | ⟨free, hd⟩
    · obtain ⟨update, among⟩ := refuses?_eq_some.mp hg
      refine .inl ⟨g, ?_, ?_⟩
      · rw [refuses?_eq_some, split, waiting_append]
        exact ⟨update, Finset.mem_union_left _ among⟩
      · simp only [deliverAll, hd, bind, Except.bind]
    · -- the guard has let the first row pass, and may refuse one of the others
      rcases ih (t.delivered [id]) with ⟨g, hg, hds⟩ | ⟨free', hds⟩
      · refine .inl ⟨g, ?_, ?_⟩
        · rw [split, refuses?_append free, hg]
        · simp only [deliverAll, hd, hds, bind, Except.bind]
      · refine .inr ⟨?_, ?_⟩
        · rw [split, refuses?_append free, free']
        · have card := t.card_waiting_append [id] ids
          rw [← delivered_cons, split, card]
          simp only [List.singleton_append, deliverAll, hd, hds, bind, Except.bind, pure,
            Except.pure]

theorem delivered_congr (same : ∀ id, id ∈ ids' ↔ id ∈ ids) :
    t.delivered ids' = t.delivered ids := by
  simp only [delivered, same]

theorem waiting_congr (same : ∀ id, id ∈ ids' ↔ id ∈ ids) : t.waiting ids' = t.waiting ids := by
  ext id
  rw [mem_waiting, mem_waiting, same]

/-- Only the set of the numbers matters. -/
theorem deliverAll_congr (same : ∀ id, id ∈ ids' ↔ id ∈ ids) :
    t.deliverAll ids' = t.deliverAll ids := by
  have refuses : t.refuses? ids' = t.refuses? ids := by
    simp only [refuses?, waiting_congr same]
  rcases t.deliverAll_exact ids with ⟨g, hg, hd⟩ | ⟨free, hd⟩
  · rcases t.deliverAll_exact ids' with ⟨g', hg', hd'⟩ | ⟨free', -⟩
    · rw [refuses, hg] at hg'
      cases hg'
      rw [hd, hd']
    · rw [refuses, hg] at free'
      cases free'
  · rcases t.deliverAll_exact ids' with ⟨g', hg', -⟩ | ⟨-, hd'⟩
    · rw [refuses, free] at hg'
      cases hg'
    · rw [hd, hd', waiting_congr same, delivered_congr same]

end Table

/-- The numbers of the list, each of them once, of which a record is pending. -/
def Record.pendingAmong (records : List Record) (ids : List RecordId) : Finset RecordId :=
  ids.toFinset.filter fun id => ∃ r ∈ records, r.id = id ∧ r.state = .pending

namespace Store

variable {s s' s'' : Store} {t : Table} {records : List Record} {ids ids' : List RecordId}
  {k n : Nat}

/-! ### Deliveries in a store -/

/-- Nothing beside its guards keeps the store from a change of this table. -/
structure Open (s : Store) (t : Table) : Prop where
  usable : s.poisoned = false
  settled : s.saved = none
  writable : s.readOnly = false
  table : s.live.events = .table t

theorem Open.withTable (h : s.Open t) (u : Table) : (s.withTable u).Open u :=
  ⟨h.usable, h.settled, h.writable, rfl⟩

/-- A delivery in an open store goes as the one in its table. -/
theorem Open.markDelivered_cases (h : s.Open t) (ids : List RecordId) :
    (∃ g, t.refuses? ids = some g ∧
        s.markDelivered ids = (.error (.database (.refused g.message)), s)) ∨
      (t.refuses? ids = none ∧
        s.markDelivered ids = (.ok (t.waiting ids).card, s.withTable (t.delivered ids))) := by
  by_cases empty : ids = []
  · subst empty
    have nobody : t.waiting [] = ∅ := by simp [Table.waiting]
    have unguarded : t.refuses? [] = none := by
      refine Table.refuses?_eq_none.mpr fun g _ => ?_
      rw [nobody]
      exact Finset.notMem_empty _
    refine .inr ⟨unguarded, ?_⟩
    rw [nobody, Finset.card_empty, Table.delivered_nil, withTable_eq_self h.table]
    rfl
  · have some : ids.isEmpty = false := by simpa using empty
    rcases t.deliverAll_exact ids with ⟨g, hg, hd⟩ | ⟨free, hd⟩
    · refine .inl ⟨g, hg, ?_⟩
      simp [Store.markDelivered, some, write, h.usable, h.settled, h.table, Events.deliverAll, hd,
        Except.map]
    · have result : (s.markDelivered ids).1 = .ok (t.waiting ids).card := by
        simp [Store.markDelivered, some, write, h.usable, h.settled, h.writable, h.table,
          Events.deliverAll, hd, Except.map]
      rcases s.markDelivered_result empty with ⟨fault, hm⟩ | ⟨n, u, hu, hm⟩
      · rw [hm] at result
        cases result
      · cases h.table.symm.trans hu
        rw [hm] at result
        cases result
        exact .inr ⟨free, hm⟩

theorem Open.markDelivered_ok (h : s.Open t) : s.markDelivered ids = (.ok n, s') ↔
    t.refuses? ids = none ∧ n = (t.waiting ids).card ∧ s' = s.withTable (t.delivered ids) := by
  rcases h.markDelivered_cases ids with ⟨g, hg, hm⟩ | ⟨free, hm⟩
  · rw [hm, hg]
    constructor
    · rintro ⟨⟩
    · rintro ⟨⟨⟩, -⟩
  · rw [hm]
    constructor
    · rintro ⟨⟩
      exact ⟨free, rfl, rfl⟩
    · rintro ⟨-, rfl, rfl⟩
      rfl

/-- A store that is not open delivers nothing. -/
theorem markDelivered_closed (closed : ∀ t, ¬ s.Open t) (some : ids ≠ []) :
    ∃ fault, s.markDelivered ids = (.error fault, s) := by
  rcases s.markDelivered_result some with failed | ⟨n, t, ht, hm⟩
  · exact failed
  · exfalso
    unfold markDelivered at hm
    rw [if_neg (by simpa using some)] at hm
    rcases s.write_result _ with ⟨fault, hw, -⟩ | ⟨m, d, hd, hw⟩
    · rw [hw] at hm
      cases hm
    · have settled : s.saved = none := by
        cases saved : s.saved with
        | none => rfl
        | some d => simp [saved] at hd
      have opened : s.poisoned = false ∧ s.readOnly = false := by
        unfold write at hw
        cases poisoned : s.poisoned <;> cases medium : s.readOnly <;>
          simp [poisoned, medium, hd] at hw ⊢
      exact closed t ⟨opened.1, settled, opened.2, ht⟩

theorem markDelivered_error {fault : StoreFault} (h : s.markDelivered ids = (.error fault, s')) :
    s' = s := by
  by_cases empty : ids = []
  · subst empty
    cases h
  · rcases s.markDelivered_result empty with ⟨fault', hm⟩ | ⟨n, t, -, hm⟩
    · rw [hm] at h
      cases h
      rfl
    · rw [hm] at h
      cases h

/-- Only the set of the numbers matters, in any store. -/
theorem markDelivered_congr (same : ∀ id, id ∈ ids' ↔ id ∈ ids) :
    s.markDelivered ids' = s.markDelivered ids := by
  have empty : ids'.isEmpty = ids.isEmpty := by
    rw [Bool.eq_iff_iff, List.isEmpty_iff, List.isEmpty_iff, List.eq_nil_iff_forall_not_mem,
      List.eq_nil_iff_forall_not_mem]
    simp only [same]
  have events : Events.deliverAll ids' = Events.deliverAll ids := by
    funext events
    cases events with
    | table t => simp only [Events.deliverAll, Table.deliverAll_congr same]
    | _ => rfl
  unfold markDelivered
  rw [empty, events]

/-- Two deliveries are the delivery of both lists. -/
theorem markDelivered_append :
    s.markDelivered (ids ++ ids') = (.ok k, s'') ↔
      ∃ n m s', s.markDelivered ids = (.ok n, s') ∧ s'.markDelivered ids' = (.ok m, s'') ∧
        k = n + m := by
  by_cases empty : ids = []
  · have first : s.markDelivered ids = (.ok 0, s) := by
      rw [empty]
      rfl
    rw [first, empty, List.nil_append]
    constructor
    · intro h
      exact ⟨0, k, s, rfl, h, (Nat.zero_add k).symm⟩
    · rintro ⟨_, m, _, ⟨⟩, h, rfl⟩
      rw [h, Nat.zero_add]
  by_cases opened : ∃ t, s.Open t
  · obtain ⟨t, opened⟩ := opened
    have card := t.card_waiting_append ids ids'
    have rows := t.delivered_append ids ids'
    have later := opened.withTable (t.delivered ids)
    constructor
    · intro h
      obtain ⟨free, rfl, rfl⟩ := opened.markDelivered_ok.mp h
      obtain ⟨free, free'⟩ := Table.refuses?_append_eq_none.mp free
      refine ⟨_, _, _, opened.markDelivered_ok.mpr ⟨free, rfl, rfl⟩,
        later.markDelivered_ok.mpr ⟨free', rfl, ?_⟩, card⟩
      rw [withTable_withTable, rows]
    · rintro ⟨n, m, s', first, second, rfl⟩
      obtain ⟨free, rfl, rfl⟩ := opened.markDelivered_ok.mp first
      obtain ⟨free', rfl, rfl⟩ := later.markDelivered_ok.mp second
      refine opened.markDelivered_ok.mpr
        ⟨Table.refuses?_append_eq_none.mpr ⟨free, free'⟩, card.symm, ?_⟩
      rw [withTable_withTable, rows]
  · have closed : ∀ t, ¬ s.Open t := fun t ht => opened ⟨t, ht⟩
    obtain ⟨fault, first⟩ := markDelivered_closed closed empty
    have some : ids ++ ids' ≠ [] := by simp [empty]
    obtain ⟨fault', both⟩ := markDelivered_closed closed some
    rw [first, both]
    constructor
    · rintro ⟨⟩
    · rintro ⟨n, m, s', ⟨⟩, -⟩

/-- A delivery that was made has nothing left to do. -/
theorem markDelivered_again (h : s.markDelivered ids = (.ok n, s')) :
    s'.markDelivered ids = (.ok 0, s') := by
  -- once more is the delivery of the list and itself, which is the same set
  have twice : s.markDelivered (ids ++ ids) = (.ok n, s') := by
    have same : ∀ id, id ∈ ids ++ ids ↔ id ∈ ids := by simp
    rw [markDelivered_congr same, h]
  obtain ⟨n', m, s'', first, second, total⟩ := markDelivered_append.mp twice
  rw [h] at first
  cases first
  obtain rfl : m = 0 := by omega
  exact second

/-! ### Deliveries of records -/

/-- Something keeps the store from the change: an open transaction, its medium, or the guard of a
record that would be turned. -/
def Refuses (s : Store) (records : List Record) (ids : List RecordId) : Prop :=
  ids ≠ [] ∧ (s.saved ≠ none ∨ s.readOnly = true ∨
    ∃ g, s.live.events.guards.update = some g ∧ g.subject ∈ Record.pendingAmong records ids)

theorem table_of_contents (h : s.contents = .ok records) :
    s.poisoned = false ∧ ∃ t, s.live.events = .table t ∧ recordsOf t.rows = .ok records := by
  obtain ⟨usable, h⟩ := read_eq_ok.mp h
  obtain ⟨t, ht, hr⟩ := bind_eq_ok.mp h
  exact ⟨usable, t, Events.full_eq_ok.mp ht, hr⟩

theorem waiting_eq_pendingAmong (h : recordsOf t.rows = .ok records) :
    t.waiting ids = Record.pendingAmong records ids := by
  ext id
  have waits : t.waits id = records.any fun r => r.id = id && r.isPending := any_recordsOf h id
  simp [Table.mem_waiting, waits, Record.pendingAmong, Record.isPending_iff]

/-- The records of a table after a delivery are the delivered ones. -/
theorem recordsOf_delivered (h : recordsOf t.rows = .ok records) :
    recordsOf (t.delivered ids).rows = .ok (records.map (Record.deliverIn ids)) := by
  refine recordsOf_changed (fun r hr record read => ?_) h
  have number := Row.toRecord_id read
  by_cases among : r.id ∈ ids
  · by_cases waits : t.waits r.id = true
    · rw [if_pos ⟨among, waits⟩, Record.deliverIn_of_mem (number ▸ among)]
      exact Row.deliver_toRecord read
    · -- a row that is not pending has a delivered record, which another delivery leaves
      have done : record.isPending = false := by
        rw [Row.isPending_toRecord read]
        by_contra pending
        exact waits (Table.waits_iff.mpr ⟨r, hr, rfl, by simpa using pending⟩)
      rw [if_neg fun both => waits both.2,
        Record.deliverIn_of_delivered (Record.not_isPending_iff.mp done)]
      exact read
  · rw [if_neg fun both => among both.1, Record.deliverIn_of_not_mem (number ▸ among)]
    exact read

/-- Refused is what is given something to do, but not to an open store without a guard for it. -/
theorem refuses_iff (read : s.contents = .ok records) :
    s.Refuses records ids ↔ ids ≠ [] ∧ ∀ t, s.Open t → t.refuses? ids ≠ none := by
  obtain ⟨usable, t, ht, rows⟩ := table_of_contents read
  have set : t.waiting ids = Record.pendingAmong records ids := waiting_eq_pendingAmong rows
  have guards : s.live.events.guards = t.guards := by
    rw [ht]
    rfl
  refine and_congr_right fun _ => ?_
  rw [guards, ← set]
  constructor
  · intro why u opened unguarded
    cases ht.symm.trans opened.table
    rcases why with transaction | medium | ⟨g, update, among⟩
    · exact transaction opened.settled
    · rw [opened.writable] at medium
      cases medium
    · exact Table.refuses?_eq_none.mp unguarded g update among
  · intro guarded
    by_cases settled : s.saved = none
    · cases medium : s.readOnly with
      | true => exact .inr (.inl rfl)
      | false =>
        obtain ⟨g, hg⟩ := Option.ne_none_iff_exists'.mp (guarded t ⟨usable, settled, medium, ht⟩)
        exact .inr (.inr ⟨g, Table.refuses?_eq_some.mp hg⟩)
    · exact .inl settled

theorem Refuses.fails (h : s.Refuses records ids) (read : s.contents = .ok records) :
    ∃ fault, s.markDelivered ids = (.error fault, s) := by
  obtain ⟨some, guarded⟩ := (refuses_iff read).mp h
  by_cases opened : ∃ t, s.Open t
  · obtain ⟨t, opened⟩ := opened
    rcases opened.markDelivered_cases ids with ⟨g, -, hm⟩ | ⟨free, -⟩
    · exact ⟨_, hm⟩
    · exact absurd free (guarded t opened)
  · exact markDelivered_closed (fun t ht => opened ⟨t, ht⟩) some

theorem delivers_of_not_refuses (h : ¬ s.Refuses records ids) (read : s.contents = .ok records) :
    ∃ s', s.markDelivered ids = (.ok (Record.pendingAmong records ids).card, s') ∧
      s'.contents = .ok (records.map (Record.deliverIn ids)) := by
  obtain ⟨usable, t, ht, rows⟩ := table_of_contents read
  by_cases empty : ids = []
  · subst empty
    have nobody : Record.pendingAmong records [] = ∅ := by simp [Record.pendingAmong]
    have same : records.map (Record.deliverIn []) = records := by
      have each : ∀ r ∈ records, r.deliverIn [] = r :=
        fun r _ => Record.deliverIn_of_not_mem List.not_mem_nil
      rw [List.map_congr_left each, List.map_id']
    rw [nobody, same, Finset.card_empty]
    exact ⟨s, rfl, read⟩
  · have free : ∃ u, s.Open u ∧ u.refuses? ids = none := by
      by_contra none
      exact h ((refuses_iff read).mpr ⟨empty, fun u hu unguarded => none ⟨u, hu, unguarded⟩⟩)
    obtain ⟨u, opened, unguarded⟩ := free
    cases ht.symm.trans opened.table
    have done := opened.markDelivered_ok.mpr ⟨unguarded, rfl, rfl⟩
    rw [waiting_eq_pendingAmong rows] at done
    refine ⟨_, done, read_eq_ok.mpr ⟨usable, bind_eq_ok.mpr ⟨t.delivered ids, rfl, ?_⟩⟩⟩
    exact recordsOf_delivered rows

/-- On a medium that can be written a store with a history of calls refuses no delivery. -/
theorem Reached.readable {h : List Entry} (reached : Reached h s) (ids : List RecordId) :
    ∃ records, s.contents = .ok records ∧ (s.readOnly = false → ¬ s.Refuses records ids) := by
  obtain ⟨l, traced⟩ := reached.traced
  refine ⟨_, contents_eq traced.holds, fun writable => ?_⟩
  rintro ⟨-, transaction | medium | ⟨g, update, -⟩⟩
  · exact transaction traced.holds.settled
  · rw [writable] at medium
    cases medium
  · rw [traced.guards] at update
    cases update

/-- A delivery is refused and changes nothing, or it returns how many different numbers of the list
are those of pending records, turns these records and leaves everything else. In any store a
delivery that fails changes nothing, one that was made has nothing left to do, the order and the
repetitions of its list do not matter, and two of them are the delivery of both lists, which counts
for both. A store with a history of calls can be read, and refuses a delivery only if its medium
cannot be written. -/
theorem markDelivered_exact (s : Store) (ids : List RecordId) :
    (∀ records, s.contents = .ok records →
      (s.Refuses records ids → ∃ fault, s.markDelivered ids = (.error fault, s)) ∧
      (¬ s.Refuses records ids → ∃ s',
        s.markDelivered ids = (.ok (Record.pendingAmong records ids).card, s') ∧
        s'.contents = .ok (records.map (Record.deliverIn ids)))) ∧
    (∀ h, Reached h s → ∃ records, s.contents = .ok records ∧
      (s.readOnly = false → ¬ s.Refuses records ids)) ∧
    (∀ fault s', s.markDelivered ids = (.error fault, s') → s' = s) ∧
    s.Beside (s.markDelivered ids).2 ∧
    (∀ n s', s.markDelivered ids = (.ok n, s') → s'.markDelivered ids = (.ok 0, s')) ∧
    (∀ ids', (∀ id, id ∈ ids' ↔ id ∈ ids) → s.markDelivered ids' = s.markDelivered ids) ∧
    (∀ ids' k s'', s.markDelivered (ids ++ ids') = (.ok k, s'') ↔
      ∃ n m s', s.markDelivered ids = (.ok n, s') ∧ s'.markDelivered ids' = (.ok m, s'') ∧
        k = n + m) := by
  refine ⟨fun records read => ⟨?_, ?_⟩, ?_, ?_, s.markDelivered_beside ids, ?_, ?_, ?_⟩
  · intro refused
    exact refused.fails read
  · intro accepted
    exact delivers_of_not_refuses accepted read
  · intro h reached
    exact reached.readable ids
  · intro fault s' failed
    exact markDelivered_error failed
  · intro n s' done
    exact markDelivered_again done
  · intro ids' same
    exact markDelivered_congr same
  · intro ids' k s''
    exact markDelivered_append

/-- Three events, the second of which is delivered. -/
def secondDelivered : List Call :=
  [.append default, .append default, .append default, .markDelivered [2]]

/-- A store with two events, the second of which a guard keeps from its delivery. -/
def firstGuarded : Store :=
  .ofDatabase {
    version := Database.currentVersion
    events := .table {
      rows := [.ofEvent 1 default, .ofEvent 2 default]
      sequence := 2
      guards := { update := some ⟨2, "kept"⟩ } } }

/-- After `secondDelivered` a list with repetitions, with a number of nobody and with a delivered
record turns the two other records, and so do its numbers in another order, and its two halves. A
guard refuses a list as a whole. -/
theorem markDelivered_exact_repeated :
    let s := Store.inMemory.migrate.2.after secondDelivered
    (∃ s', s.markDelivered [3, 9, 1, 3, 2] = (.ok 2, s') ∧
      s'.contents = .ok [⟨1, .delivered, default⟩, ⟨2, .delivered, default⟩,
        ⟨3, .delivered, default⟩] ∧
      s'.markDelivered [3, 9, 1, 3, 2] = (.ok 0, s') ∧
      s.markDelivered [2, 3, 1, 9] = (.ok 2, s') ∧
      ∃ n m t, s.markDelivered [3, 9] = (.ok n, t) ∧ t.markDelivered [1, 3, 2] = (.ok m, s') ∧
        2 = n + m) ∧
    ∃ fault, firstGuarded.markDelivered [1, 2] = (.error fault, firstGuarded) := by
  intro s
  have reached : Reached (Store.inMemory.migrate.2.history secondDelivered) s :=
    ⟨Store.inMemory, _, secondDelivered, by decide, rfl, rfl, rfl⟩
  have read : s.contents = .ok [⟨1, .pending, default⟩, ⟨2, .delivered, default⟩,
    ⟨3, .pending, default⟩] := rfl
  obtain ⟨outcome, readable, -, -, again, congr, append⟩ := markDelivered_exact s [3, 9, 1, 3, 2]
  obtain ⟨records, read', accepted⟩ := readable _ reached
  cases read.symm.trans read'
  obtain ⟨s', done, contents⟩ := (outcome _ read).2 (accepted rfl)
  have two : (Record.pendingAmong [⟨1, .pending, default⟩, ⟨2, .delivered, default⟩,
    ⟨3, .pending, default⟩] [3, 9, 1, 3, 2]).card = 2 := by decide
  rw [two] at done
  have guarded : firstGuarded.Refuses [⟨1, .pending, default⟩, ⟨2, .pending, default⟩] [1, 2] :=
    ⟨by decide, .inr (.inr ⟨⟨2, "kept"⟩, rfl, by decide⟩)⟩
  have same : ∀ id : RecordId, id ∈ [2, 3, 1, 9] ↔ id ∈ [3, 9, 1, 3, 2] := by
    intro id
    simp only [List.mem_cons, List.not_mem_nil, or_false]
    tauto
  refine ⟨⟨s', done, contents, again 2 s' done, ?_, ?_⟩, ?_⟩
  · rw [congr [2, 3, 1, 9] same, done]
  · exact ((markDelivered_exact s [3, 9]).2.2.2.2.2.2 [1, 3, 2] 2 s').mp done
  · exact ((markDelivered_exact firstGuarded [1, 2]).1 _ rfl).1 guarded

end Store

end Outbox
