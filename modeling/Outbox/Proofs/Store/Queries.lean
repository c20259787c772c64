import Outbox.Proofs.Results
import Outbox.Proofs.Store.Refinement

/-!
# What a store tells

Whatever is asked of a store that holds a log is answered from the records of the log (`Shows`).
The operations change records only: the settings, the guards and the medium stay as they are
(`Beside`). Where no guard watches the table and the medium can be written, no delivery and no
erasure is refused.
-/

namespace Outbox

/-! ### Reading -/

/-- Every way to read the store tells of these records, and of no others. -/
structure Store.Shows (s : Store) (records : List Record) : Prop where
  selectPending : ∀ limit,
    s.selectPending limit = .ok ((records.filter Record.isPending).take limit)
  recent : ∀ limit, s.recent limit = .ok (records.reverse.take limit)
  get : ∀ id, s.get? id = .ok (records.find? fun r => r.id = id)
  countPending : s.countPending = .ok (records.countP Record.isPending)
  countTotal : s.countTotal = .ok records.length
  stats : s.stats = .ok ⟨records.length, records.countP Record.isPending,
    records.countP fun r => !r.isPending⟩

namespace Store

variable {s s' : Store} {l : Log}

theorem recent_eq (h : s.Holds l) (limit : Nat) :
    s.recent limit = .ok ((l.records.map Record.kept).reverse.take limit) := by
  obtain ⟨t, ht, hold⟩ := h.table
  refine read_ok h ?_
  simp only [ht, Events.full, bind, Except.bind, hold.rows, Log.rows]
  rw [← List.map_reverse, ← List.map_reverse, ← List.map_take, ← List.map_take]
  exact recordsOf_map _

theorem get?_eq (h : s.Holds l) (id : RecordId) :
    s.get? id = .ok ((l.records.map Record.kept).find? fun r => r.id = id) := by
  obtain ⟨t, ht, hold⟩ := h.table
  refine read_ok h ?_
  simp only [ht, Events.full, bind, Except.bind, hold.rows, Log.rows, List.find?_map]
  have row : ((fun r : Row => decide (r.id = id)) ∘ Row.ofRecord) = fun r => decide (r.id = id) :=
    rfl
  have kept : ((fun r : Record => decide (r.id = id)) ∘ Record.kept) =
      fun r => decide (r.id = id) := rfl
  rw [row, kept]
  cases l.records.find? fun r => decide (r.id = id) with
  | none => rfl
  | some r => simp only [Option.map_some, Row.toRecord_ofRecord, pure, Except.pure]

/-- As many rows are pending as records of the log. -/
theorem pendingCount_eq {t : Table} (h : t.Holds l) :
    t.pendingCount = (l.records.map Record.kept).countP Record.isPending := by
  have row : Row.isPending ∘ Row.ofRecord = Record.isPending := funext Row.isPending_ofRecord
  have kept : Record.isPending ∘ Record.kept = Record.isPending := rfl
  rw [Table.pendingCount, h.rows, Log.rows, List.countP_map, List.countP_map, row, kept]

theorem countPending_eq (h : s.Holds l) :
    s.countPending = .ok ((l.records.map Record.kept).countP Record.isPending) := by
  obtain ⟨t, ht, hold⟩ := h.table
  refine read_ok h ?_
  rw [ht, ← pendingCount_eq hold]
  rfl

theorem countTotal_eq (h : s.Holds l) :
    s.countTotal = .ok (l.records.map Record.kept).length := by
  obtain ⟨t, ht, hold⟩ := h.table
  refine read_ok h ?_
  rw [ht, List.length_map]
  simp [Events.total, hold.rows, Log.rows]

theorem stats_eq (h : s.Holds l) :
    s.stats = .ok ⟨(l.records.map Record.kept).length,
      (l.records.map Record.kept).countP Record.isPending,
      (l.records.map Record.kept).countP fun r => !r.isPending⟩ := by
  obtain ⟨t, ht, hold⟩ := h.table
  refine read_ok h ?_
  have total : t.rows.length = (l.records.map Record.kept).length := by
    simp [hold.rows, Log.rows]
  have rest := List.length_eq_countP_add_countP Record.isPending (l := l.records.map Record.kept)
  have other : (l.records.map Record.kept).countP (fun r => !r.isPending) =
      (l.records.map Record.kept).length - (l.records.map Record.kept).countP Record.isPending := by
    simp only [Bool.not_eq_true, Bool.decide_eq_false] at rest
    omega
  simp only [ht, Events.pendingCount, Events.total, bind, Except.bind, pure, Except.pure,
    pendingCount_eq hold, total, other]

/-- A store that holds a log tells of the records of the log, as far as a store keeps them. -/
theorem Holds.shows (h : s.Holds l) : s.Shows (l.records.map Record.kept) where
  selectPending limit := by
    rw [selectPending_eq h, List.map_take, Log.pending, List.filter_map]
    rfl
  recent := recent_eq h
  get := get?_eq h
  countPending := countPending_eq h
  countTotal := countTotal_eq h
  stats := stats_eq h

end Store

/-! ### What stays beside the records -/

/-- The guards of the events. -/
def Events.guards : Events → Guards
  | .table t => t.guards
  | .legacy _ guards => guards
  | _ => {}

namespace Table

variable {t u : Table} {id : RecordId} {n : Nat}

theorem insert_guards {e : Event} (h : t.insert e = .ok (id, u)) : u.guards = t.guards := by
  unfold insert at h
  split at h
  · cases h
  · split at h
    · cases h
    · cases h
      rfl

theorem deliver_guards (h : t.deliver id = .ok (n, u)) : u.guards = t.guards := by
  unfold deliver at h
  split at h
  · split at h
    · cases h
    · cases h
      rfl
  · cases h
    rfl

theorem deliverAll_guards {ids : List RecordId} (h : t.deliverAll ids = .ok (n, u)) :
    u.guards = t.guards := by
  induction ids generalizing t n with
  | nil =>
    cases h
    rfl
  | cons id ids ih =>
    obtain ⟨⟨k, v⟩, hv, h⟩ := bind_eq_ok.mp h
    obtain ⟨⟨m, w⟩, hw, h⟩ := bind_eq_ok.mp h
    cases h
    exact (ih hw).trans (deliver_guards hv)

theorem clear_guards (h : t.clear = .ok u) : u.guards = t.guards := by
  unfold clear at h
  split at h
  · cases h
  · cases h
    rfl

end Table

namespace Events

variable {events events' : Events}

theorem insert_guards {e : Event} {id : RecordId} (h : events.insert e = .ok (id, events')) :
    events'.guards = events.guards := by
  cases events with
  | table t =>
    obtain ⟨⟨_, u⟩, hu, hr⟩ := map_eq_ok.mp h
    cases hr
    exact Table.insert_guards hu
  | _ => cases h

theorem deliverAll_guards {ids : List RecordId} {n : Nat}
    (h : events.deliverAll ids = .ok (n, events')) : events'.guards = events.guards := by
  cases events with
  | table t =>
    obtain ⟨⟨_, u⟩, hu, hr⟩ := map_eq_ok.mp h
    cases hr
    exact Table.deliverAll_guards hu
  | _ => cases h

theorem clear_guards (h : events.clear = .ok events') : events'.guards = events.guards := by
  cases events with
  | table t =>
    obtain ⟨u, hu, rfl⟩ := map_eq_ok.mp h
    exact Table.clear_guards hu
  | legacy row guards =>
    simp only [clear] at h
    split at h
    · cases h
    · cases h
      rfl
  | _ => cases h

/-- What was cleared is empty. -/
theorem clear_total (h : events.clear = .ok events') : events'.total = .ok 0 := by
  cases events with
  | table t =>
    obtain ⟨u, hu, rfl⟩ := map_eq_ok.mp h
    unfold Table.clear at hu
    split at hu
    · cases hu
    · cases hu
      rfl
  | legacy row guards =>
    simp only [clear] at h
    split at h
    · cases h
    · cases h
      rfl
  | _ => cases h

end Events

namespace Store

variable {s s' : Store} {l : Log}

/-- What a store keeps beside its records: the settings, the guards and the medium. -/
structure Beside (s s' : Store) : Prop where
  settings : s'.live.settings = s.live.settings
  guards : s'.live.events.guards = s.live.events.guards
  readOnly : s'.readOnly = s.readOnly

theorem Beside.refl (s : Store) : s.Beside s := ⟨rfl, rfl, rfl⟩

/-- A change fails for a reason and leaves the store as it was, or is one of the database. -/
theorem write_result {α : Type} (s : Store) (f : Database → Except DatabaseFault (α × Database)) :
    (∃ fault, s.write f = (.error fault, s) ∧
      (s.poisoned = true ∨ s.readOnly = true ∨ ∃ e, f s.live = .error e ∧ fault = .database e)) ∨
      ∃ a d, f s.live = .ok (a, d) ∧ s.write f = (.ok a, { s with live := d }) := by
  unfold write
  cases hp : s.poisoned with
  | true => exact .inl ⟨_, rfl, .inl rfl⟩
  | false =>
    cases hf : f s.live with
    | error e => exact .inl ⟨_, rfl, .inr (.inr ⟨e, rfl, rfl⟩)⟩
    | ok r =>
      cases hr : s.readOnly with
      | true => exact .inl ⟨_, rfl, .inr (.inl rfl)⟩
      | false => exact .inr ⟨r.1, r.2, rfl, rfl⟩

/-- A change of the events alone leaves what is beside them. -/
theorem write_beside {α : Type} {f : Database → Except DatabaseFault (α × Database)}
    (hf : ∀ a d, f s.live = .ok (a, d) →
      d.settings = s.live.settings ∧ d.events.guards = s.live.events.guards) :
    s.Beside (s.write f).2 := by
  rcases s.write_result f with ⟨fault, hw, -⟩ | ⟨a, d, hd, hw⟩
  · rw [hw]
    exact .refl s
  · rw [hw]
    exact ⟨(hf a d hd).1, (hf a d hd).2, rfl⟩

theorem append_beside (h : s.Holds l) (e : Event) : s.Beside (s.append e).2 := by
  unfold append
  generalize hw : s.write _ = result
  have beside : s.Beside result.2 := by
    rw [← hw]
    refine write_beside fun a d hd => ?_
    obtain ⟨r, hr, he⟩ := map_eq_ok.mp hd
    cases he
    exact ⟨rfl, Events.insert_guards hr⟩
  rcases write_cases h hw with ⟨fault, rfl⟩ | ⟨id, d, -, rfl⟩
  · cases fault with
    | full => simpa only [undone_eq h.settled, ite_self] using beside
    | _ => exact beside
  · exact beside

theorem markDelivered_beside (s : Store) (ids : List RecordId) :
    s.Beside (s.markDelivered ids).2 := by
  unfold markDelivered
  split
  · exact .refl s
  · refine write_beside fun n d hd => ?_
    split at hd
    · cases hd
    · obtain ⟨r, hr, he⟩ := map_eq_ok.mp hd
      cases he
      exact ⟨rfl, Events.deliverAll_guards hr⟩

theorem eraseAll_beside (s : Store) : s.Beside s.eraseAll.2 := by
  unfold eraseAll
  refine write_beside fun _ d hd => ?_
  obtain ⟨events, hr, he⟩ := map_eq_ok.mp hd
  cases he
  exact ⟨rfl, Events.clear_guards hr⟩

/-- The name of the installation is the one that it has, or the given one from then on; only a
medium that cannot be written keeps it from getting one. -/
theorem installationId_cases (h : s.Holds l) {name? : Option String}
    (hs : s.live.settings = some name?) (fresh : String) :
    (name? = none ∧ s.readOnly = true ∧ ∃ fault, s.installationId fresh = (.error fault, s)) ∨
      ∃ s', s.installationId fresh = (.ok (name?.getD fresh), s') ∧ s'.Holds l ∧
        s'.live.settings = some (some (name?.getD fresh)) ∧
        s'.live.events = s.live.events := by
  have hread : (s.read fun d => d.installation) = .ok name? :=
    read_ok h (by rw [Database.installation, hs])
  unfold installationId
  rw [hread]
  cases name? with
  | some name => exact .inr ⟨s, rfl, h, hs, rfl⟩
  | none =>
    obtain ⟨t, ht, hold⟩ := h.table
    cases hr : s.readOnly with
    | true => exact .inl ⟨rfl, rfl, by simp [write, h.usable, hr]⟩
    | false =>
      refine .inr ⟨{ s with live := { s.live with settings := some (some fresh) } }, ?_, ?_, rfl,
        rfl⟩
      · simp [write, h.usable, hr]
      · exact ⟨h.usable, h.settled, h.current, t, ht, hold⟩

end Store

/-! ### Where nothing refuses a change -/

/-- The table has no guards, and the medium can be written. -/
structure Store.Writable (s : Store) : Prop where
  guards : s.live.events.guards = {}
  writable : s.readOnly = false

namespace Table

variable {t : Table}

theorem deliver_unguarded (h : t.guards = {}) (id : RecordId) : ∃ r, t.deliver id = .ok r := by
  unfold deliver
  rw [h]
  split
  · exact ⟨_, rfl⟩
  · exact ⟨_, rfl⟩

theorem deliverAll_unguarded (h : t.guards = {}) (ids : List RecordId) :
    ∃ r, t.deliverAll ids = .ok r := by
  induction ids generalizing t with
  | nil => exact ⟨_, rfl⟩
  | cons id ids ih =>
    obtain ⟨⟨n, u⟩, hu⟩ := deliver_unguarded h id
    obtain ⟨⟨m, v⟩, hv⟩ := ih ((deliver_guards hu).trans h)
    exact ⟨(n + m, v), by simp [deliverAll, hu, hv, bind, Except.bind, pure, Except.pure]⟩

theorem clear_unguarded (h : t.guards = {}) : ∃ u, t.clear = .ok u := by
  unfold clear
  rw [h]
  exact ⟨_, rfl⟩

theorem insert_unguarded (h : t.guards = {}) {e : Event} {fault : DatabaseFault}
    (hf : t.insert e = .error fault) : fault = .full := by
  unfold insert at hf
  rw [h] at hf
  simp only [Option.filter_none] at hf
  split at hf
  · cases hf
    rfl
  · cases hf

end Table

namespace Store

variable {s : Store} {l : Log}

/-- A change of a store that nothing refuses can be refused by the database only. -/
theorem write_writable {α : Type} {f : Database → Except DatabaseFault (α × Database)}
    (h : s.Holds l) (ho : s.Writable) {fault : StoreFault} (hw : (s.write f).1 = .error fault) :
    ∃ e, f s.live = .error e ∧ fault = .database e := by
  rcases s.write_result f with ⟨fault', hf, hp | hr | he⟩ | ⟨a, d, -, hok⟩
  · rw [h.usable] at hp
    cases hp
  · rw [ho.writable] at hr
    cases hr
  · rw [hf] at hw
    cases hw
    exact he
  · rw [hok] at hw
    cases hw

theorem Writable.table (ho : s.Writable) {t : Table} (ht : s.live.events = .table t) :
    t.guards = {} := by
  have hg := ho.guards
  rw [ht] at hg
  exact hg

/-- Only a table without a number left refuses an event. -/
theorem append_writable (h : s.Holds l) (ho : s.Writable) {e : Event} {fault : StoreFault}
    (hf : (s.append e).1 = .error fault) : fault = .database .full := by
  obtain ⟨t, ht, -⟩ := h.table
  unfold append at hf
  generalize hw : s.write _ = result at hf
  have full : ∀ fault, result.1 = .error fault → fault = .database .full := by
    intro fault hr
    rw [← hw] at hr
    obtain ⟨e', he, rfl⟩ := write_writable h ho hr
    simp only [ht, Events.insert] at he
    cases hi : t.insert e with
    | error fault =>
      simp only [hi, Except.map] at he
      cases he
      rw [Table.insert_unguarded (ho.table ht) hi]
    | ok r => simp [hi, Except.map] at he
  split at hf
  · cases hf
    rfl
  · exact full fault hf

theorem markDelivered_writable (h : s.Holds l) (ho : s.Writable) (ids : List RecordId) :
    ∃ s', s.markDelivered ids = (.ok (l.waiting ids), s') ∧ s'.Holds (l.deliver ids) := by
  rcases markDelivered_cases h ids with ⟨fault, hm⟩ | done
  · exfalso
    obtain ⟨t, ht, -⟩ := h.table
    obtain ⟨r, hr⟩ := Table.deliverAll_unguarded (ho.table ht) ids
    have hf := congrArg Prod.fst hm
    unfold markDelivered at hf
    split at hf
    · cases hf
    · obtain ⟨e, he, -⟩ := write_writable h ho hf
      simp [h.settled, ht, Events.deliverAll, hr, Except.map] at he
  · exact done

/-- A medium that cannot be written refuses every delivery. -/
theorem markDelivered_readOnly (h : s.Holds l) (hg : s.live.events.guards = {})
    (hr : s.readOnly = true) {ids : List RecordId} (hids : ids ≠ []) :
    s.markDelivered ids = (.error (.database .readOnly), s) := by
  obtain ⟨t, ht, -⟩ := h.table
  rw [ht] at hg
  obtain ⟨⟨n, u⟩, hu⟩ := Table.deliverAll_unguarded hg ids
  have some : ids.isEmpty = false := by simpa using hids
  simp [markDelivered, some, write, h.usable, h.settled, ht, Events.deliverAll, hu, Except.map, hr]

theorem eraseAll_writable (h : s.Holds l) (ho : s.Writable) :
    ∃ s', s.eraseAll = (.ok (), s') ∧ s'.Holds l.clear := by
  rcases eraseAll_cases h with ⟨fault, he⟩ | done
  · exfalso
    obtain ⟨t, ht, -⟩ := h.table
    obtain ⟨u, hu⟩ := Table.clear_unguarded (ho.table ht)
    obtain ⟨e, he, -⟩ := write_writable h ho (congrArg Prod.fst he)
    simp [ht, Events.clear, hu, Except.map] at he
  · exact done

end Store

end Outbox
