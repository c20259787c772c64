import Outbox.Proofs.Store.Log

/-!
# Stores as logs

`Store.Holds s l` says that the store `s` can be used, has the current schema, and that its table
has the rows of the log `l`. Each operation either fails, and then leaves the store as it was, or
does to the log what its name says; reading tells what a store keeps of the records of the log.
A store that a migration has made anew holds an empty log.
-/

namespace Outbox

/-- The rows of a log. -/
def Log.rows (l : Log) : List Row := l.records.map Row.ofRecord

/-- The table has the rows of the log, and its largest number. -/
structure Table.Holds (t : Table) (l : Log) : Prop where
  rows : t.rows = l.rows
  sequence : t.sequence = l.last

/-! ### Tables -/

namespace Table

variable {t : Table} {l : Log}

/-- A new number is above all that were ever given. -/
theorem Holds.last_lt_nextId (h : t.Holds l) {id : RecordId} (hid : t.nextId? = some id) :
    l.last < id := by
  unfold nextId? at hid
  split at hid
  · cases hid
  · injection hid with hid
    rw [← hid, h.sequence]
    exact Int.lt_of_lt_of_le (Int.lt_add_one_iff.mpr (Int.le_refl _)) (Int.le_max_right _ _)

theorem insert_cases (h : t.Holds l) (e : Event) :
    (∃ fault, t.insert e = .error fault) ∨
      ∃ id, ∃ hid : l.last < id, ∃ u : Table, t.insert e = .ok (id, u) ∧
        u.Holds (l.append id e hid) := by
  unfold insert
  split
  · exact .inl ⟨_, rfl⟩
  · split
    · exact .inl ⟨_, rfl⟩
    · next id hid =>
      refine .inr ⟨id, h.last_lt_nextId hid, _, rfl, ?_, rfl⟩
      simp only [h.rows, Log.rows, Log.append, Row.ofEvent_eq, List.map_append, List.map_cons,
        List.map_nil]

/-- Whether a row is pending shows in its log. -/
theorem any_isPending (h : t.Holds l) (id : RecordId) :
    (t.rows.any fun r => r.id = id && r.isPending) = l.records.any (Record.waits [id]) := by
  rw [h.rows, Log.rows, List.any_map]
  congr 1
  funext r
  by_cases hr : r.id = id <;> simp [Record.waits, hr]

theorem deliver_cases (h : t.Holds l) (id : RecordId) :
    (∃ fault, t.deliver id = .error fault) ∨
      ∃ u : Table, t.deliver id = .ok (l.waiting [id], u) ∧ u.Holds (l.deliver [id]) := by
  unfold deliver
  rw [any_isPending h]
  by_cases hw : l.records.any (Record.waits [id]) = true
  · rw [if_pos hw]
    split
    · exact .inl ⟨_, rfl⟩
    · have one : l.waiting [id] = 1 := by
        have := l.waiting_singleton_le id
        have : l.waiting [id] ≠ 0 := by simpa [Log.waiting_eq_zero] using hw
        omega
      rw [one]
      refine .inr ⟨_, rfl, ?_, h.sequence⟩
      simp only [h.rows, Log.rows, Log.deliver, List.map_map]
      refine List.map_congr_left fun r _ => ?_
      simp only [Function.comp_apply, Row.ofRecord_id, Row.deliver_ofRecord, Record.deliverIn,
        List.mem_singleton]
      split <;> rfl
  · rw [if_neg hw]
    have none : ∀ r ∈ l.records, r.waits [id] = false := by simpa using hw
    refine .inr ⟨t, ?_, ?_⟩
    · rw [Log.waiting_eq_zero.mpr none]
    · rwa [Log.deliver_eq_self none]

theorem deliverAll_cases (h : t.Holds l) (ids : List RecordId) :
    (∃ fault, t.deliverAll ids = .error fault) ∨
      ∃ u : Table, t.deliverAll ids = .ok (l.waiting ids, u) ∧ u.Holds (l.deliver ids) := by
  induction ids generalizing t l with
  | nil => exact .inr ⟨t, by rw [Log.waiting_nil]; rfl, by rwa [Log.deliver_nil]⟩
  | cons id ids ih =>
    unfold deliverAll
    rcases deliver_cases h id with ⟨fault, hf⟩ | ⟨u, hu, hold⟩
    · exact .inl ⟨fault, by rw [hf]; rfl⟩
    · rcases ih hold with ⟨fault, hf⟩ | ⟨v, hv, hold'⟩
      · exact .inl ⟨fault, by rw [hu]; simp only [bind, Except.bind, hf]⟩
      · refine .inr ⟨v, ?_, by rwa [← Log.deliver_cons]⟩
        rw [hu, Log.waiting_cons l id ids]
        simp only [bind, Except.bind, hv]
        rfl

theorem clear_cases (h : t.Holds l) :
    (∃ fault, t.clear = .error fault) ∨ ∃ u : Table, t.clear = .ok u ∧ u.Holds l.clear := by
  unfold clear
  split
  · exact .inl ⟨_, rfl⟩
  · exact .inr ⟨_, rfl, rfl, h.sequence⟩

end Table

/-! ### Stores -/

/-- The store can be used, nobody has a transaction open on it, its schema is the current one, and
its table of events holds the log. -/
structure Store.Holds (s : Store) (l : Log) : Prop where
  usable : s.poisoned = false
  settled : s.saved = none
  current : s.live.version = Database.currentVersion
  table : ∃ t, s.live.events = .table t ∧ t.Holds l

namespace Store

variable {s : Store} {l : Log}

/-- A change fails and leaves the store as it is, or is one of the database. -/
theorem write_cases {α : Type} {f : Database → Except DatabaseFault (α × Database)}
    {result : Except StoreFault α × Store} (h : s.Holds l) (hw : s.write f = result) :
    (∃ fault, result = (.error (.database fault), s)) ∨
      ∃ a d, f s.live = .ok (a, d) ∧ result = (.ok a, { s with live := d }) := by
  rw [← hw]
  unfold write
  rw [h.usable]
  cases f s.live with
  | error fault => exact .inl ⟨fault, rfl⟩
  | ok r =>
    cases s.readOnly with
    | true => exact .inl ⟨.readOnly, rfl⟩
    | false => exact .inr ⟨r.1, r.2, rfl, rfl⟩

/-- Undoing without an open transaction changes nothing. -/
theorem undone_eq (h : s.saved = none) : s.undone = s := by
  obtain ⟨live, saved, poisoned, readOnly⟩ := s
  subst h
  rfl

theorem Holds.replace (h : s.Holds l) {m : Log} {t : Table} (ht : t.Holds m) :
    Store.Holds { s with live := { s.live with events := .table t } } m :=
  ⟨h.usable, h.settled, h.current, t, rfl, ht⟩

theorem append_cases (h : s.Holds l) (e : Event) :
    (∃ fault, s.append e = (.error fault, s)) ∨
      ∃ id, ∃ hid : l.last < id, ∃ s', s.append e = (.ok id, s') ∧
        s'.Holds (l.append id e hid) := by
  obtain ⟨t, ht, hold⟩ := h.table
  unfold append
  generalize hw : s.write _ = result
  rcases write_cases h hw with ⟨fault, rfl⟩ | ⟨id, d, hd, rfl⟩
  · cases fault with
    | full => exact .inl ⟨.database .full, by simp only [undone_eq h.settled, ite_self]⟩
    | _ => exact .inl ⟨_, rfl⟩
  · rcases Table.insert_cases hold e with ⟨fault, hf⟩ | ⟨id', hid, u, hu, hold'⟩
    · simp [ht, Events.insert, hf, Except.map] at hd
    · obtain ⟨rfl, rfl⟩ : id' = id ∧ { s.live with events := .table u } = d := by
        simpa [ht, Events.insert, hu, Except.map] using hd
      exact .inr ⟨id', hid, _, rfl, h.replace hold'⟩

theorem markDelivered_cases (h : s.Holds l) (ids : List RecordId) :
    (∃ fault, s.markDelivered ids = (.error fault, s)) ∨
      ∃ s', s.markDelivered ids = (.ok (l.waiting ids), s') ∧ s'.Holds (l.deliver ids) := by
  obtain ⟨t, ht, hold⟩ := h.table
  unfold markDelivered
  by_cases he : ids.isEmpty
  · obtain rfl := List.isEmpty_iff.mp he
    exact .inr ⟨s, by rw [Log.waiting_nil]; rfl, by rwa [Log.deliver_nil]⟩
  · rw [if_neg he]
    simp only [h.settled, Option.isSome_none, Bool.false_eq_true, if_false]
    generalize hw : s.write _ = result
    rcases write_cases h hw with ⟨fault, rfl⟩ | ⟨n, d, hd, rfl⟩
    · exact .inl ⟨_, rfl⟩
    · rcases Table.deliverAll_cases hold ids with ⟨fault, hf⟩ | ⟨u, hu, hold'⟩
      · simp [ht, Events.deliverAll, hf, Except.map] at hd
      · obtain ⟨rfl, rfl⟩ : l.waiting ids = n ∧ { s.live with events := .table u } = d := by
          simpa [ht, Events.deliverAll, hu, Except.map] using hd
        exact .inr ⟨_, rfl, h.replace hold'⟩

theorem eraseAll_cases (h : s.Holds l) :
    (∃ fault, s.eraseAll = (.error fault, s)) ∨
      ∃ s', s.eraseAll = (.ok (), s') ∧ s'.Holds l.clear := by
  obtain ⟨t, ht, hold⟩ := h.table
  unfold eraseAll
  generalize hw : s.write _ = result
  rcases write_cases h hw with ⟨fault, rfl⟩ | ⟨_, d, hd, rfl⟩
  · exact .inl ⟨_, rfl⟩
  · rcases Table.clear_cases hold with ⟨fault, hf⟩ | ⟨u, hu, hold'⟩
    · simp [ht, Events.clear, hf, Except.map] at hd
    · obtain rfl : { s.live with events := .table u } = d := by
        simpa [ht, Events.clear, hu, Except.map] using hd
      exact .inr ⟨_, rfl, h.replace hold'⟩

/-! ### Reading -/

theorem read_ok {α : Type} (h : s.Holds l) {f : Database → Except DatabaseFault α} {a : α}
    (hf : f s.live = .ok a) : s.read f = .ok a := by
  unfold read
  rw [h.usable, hf]
  rfl

/-- All records, in the order of their numbers. -/
def contents (s : Store) : Except StoreFault (List Record) :=
  s.read fun d => do
    let t ← d.events.full
    recordsOf t.rows

theorem contents_eq (h : s.Holds l) : s.contents = .ok (l.records.map Record.kept) := by
  obtain ⟨t, ht, hold⟩ := h.table
  refine read_ok h ?_
  simp only [ht, Events.full, bind, Except.bind, hold.rows, Log.rows]
  exact recordsOf_map l.records

/-- The pending rows of a log are the rows of its pending records. -/
theorem rows_filter_isPending (l : Log) :
    l.rows.filter Row.isPending = l.pending.map Row.ofRecord := by
  rw [Log.rows, List.filter_map, Log.pending]
  congr 2
  funext r
  exact Row.isPending_ofRecord r

theorem selectPending_eq (h : s.Holds l) (limit : Nat) :
    s.selectPending limit = .ok ((l.pending.take limit).map Record.kept) := by
  unfold selectPending
  by_cases hz : limit = 0
  · rw [if_pos hz, hz]
    rfl
  · obtain ⟨t, ht, hold⟩ := h.table
    rw [if_neg hz]
    refine read_ok h ?_
    simp only [ht, Events.full, bind, Except.bind, hold.rows, rows_filter_isPending]
    rw [← List.map_take]
    exact recordsOf_map _

/-! ### Opening -/

/-- The store after it was closed and opened anew. -/
def reopened (s : Store) (readOnly : Bool) : Except StoreFault Unit × Store :=
  migrate { ofDatabase s.close with readOnly }

/-- Closing and opening a store keeps what it holds. -/
theorem reopened_eq (h : s.Holds l) (readOnly : Bool) :
    s.reopened readOnly = (.ok (), { s with readOnly }) := by
  obtain ⟨live, saved, poisoned, _⟩ := s
  have usable := h.usable
  have settled := h.settled
  have current := h.current
  simp only at usable settled current
  subst usable settled
  simp [reopened, migrate, ofDatabase, close, current]

theorem Holds.withMedium (h : s.Holds l) (readOnly : Bool) :
    Store.Holds { s with readOnly } l :=
  ⟨h.usable, h.settled, h.current, h.table⟩

/-- A migration that makes the database anew does so on a store in use, with no transaction open. -/
theorem renewed_of_migrate {old : Store} (hold : old.live.version < Database.currentVersion)
    (h : old.migrate = (.ok (), s)) :
    old.poisoned = false ∧ old.saved = none ∧ s = { old with live := old.live.renewed } := by
  unfold migrate at h
  split at h
  · simp at h
  · next usable =>
    split at h
    · next hv => exact absurd hv (Int.ne_of_lt hold)
    · split at h
      · simp at h
      · split at h
        · simp at h
        · next settled =>
          split at h
          · simp at h
          · simp at h
          · exact ⟨by simpa using usable, by simpa using settled, (Prod.mk.inj h).2.symm⟩

/-- A store that a migration has made anew holds no records. -/
theorem holds_of_migrate {old : Store} (hold : old.live.version < Database.currentVersion)
    (h : old.migrate = (.ok (), s)) : ∃ last, s.Holds (.empty last) := by
  obtain ⟨usable, settled, rfl⟩ := renewed_of_migrate hold h
  exact ⟨old.live.counterLeft.getD 0, usable, settled, rfl, _, rfl, rfl, rfl⟩

end Store

end Outbox
