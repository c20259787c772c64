import Outbox.Proofs.Store.Reading

/-!
# Logs

What a table of events amounts to: the records in the order in which they came, and the largest
number that was ever given to one. A log is changed by an append, by a delivery and by an erasure,
and none of them makes an old number name another event, or a delivered record pending again
(`Evolves`).
-/

namespace Outbox

/-- Records in the order of their numbers, and the largest number that was ever given. -/
structure Log where
  records : List Record
  last : RecordId
  ascending : records.Pairwise fun a b => a.id < b.id
  bounded : ∀ r ∈ records, r.id ≤ last

namespace Record

/-- The record, delivered if it is one of the given ones. -/
def deliverIn (ids : List RecordId) (r : Record) : Record :=
  if r.id ∈ ids then r.deliver else r

/-- The record is one of the given ones, and pending. -/
def waits (ids : List RecordId) (r : Record) : Bool := r.isPending && ids.contains r.id

variable {ids : List RecordId} {r : Record}

@[simp] theorem deliverIn_id : (r.deliverIn ids).id = r.id := by
  unfold deliverIn; split <;> rfl

@[simp] theorem deliverIn_event : (r.deliverIn ids).event = r.event := by
  unfold deliverIn; split <;> rfl

theorem deliverIn_state :
    (r.deliverIn ids).state = if r.id ∈ ids then .delivered else r.state := by
  unfold deliverIn; split <;> rfl

theorem deliverIn_delivered :
    (r.deliverIn ids).state = .delivered ↔ r.state = .delivered ∨ r.id ∈ ids := by
  by_cases h : r.id ∈ ids <;> simp [deliverIn_state, h]

/-- Records of one number and one event are the same if they are delivered together. -/
theorem eq_of_delivered {q r : Record} (hid : q.id = r.id) (he : q.event = r.event)
    (hs : r.state = .delivered ↔ q.state = .delivered) : q = r := by
  obtain ⟨id, state, e⟩ := q
  obtain ⟨id', state', e'⟩ := r
  obtain rfl : id = id' := hid
  obtain rfl : e = e' := he
  cases state <;> cases state' <;> simp_all

theorem mem_iff {records : List Record} : r ∈ records ↔
    ∃ q ∈ records, q.id = r.id ∧ q.event = r.event ∧
      (r.state = .delivered ↔ q.state = .delivered) := by
  constructor
  · exact fun hr => ⟨r, hr, rfl, rfl, Iff.rfl⟩
  · rintro ⟨q, hq, hid, he, hs⟩
    rwa [← eq_of_delivered hid he hs]

theorem deliverIn_eq_iff {q : Record} : q.deliverIn ids = r ↔ q.id = r.id ∧ q.event = r.event ∧
    (r.state = .delivered ↔ q.state = .delivered ∨ r.id ∈ ids) := by
  constructor
  · rintro rfl
    exact ⟨deliverIn_id.symm, deliverIn_event.symm, by rw [deliverIn_delivered, deliverIn_id]⟩
  · rintro ⟨hid, he, hs⟩
    refine eq_of_delivered (deliverIn_id.trans hid) (deliverIn_event.trans he) ?_
    rw [hs, deliverIn_delivered, hid]

theorem eq_pending_iff {id : RecordId} {e : Event} :
    r = ⟨id, .pending, e⟩ ↔ (id = r.id ∧ e = r.event) ∧ r.state = .pending := by
  constructor
  · rintro rfl
    exact ⟨⟨rfl, rfl⟩, rfl⟩
  · rintro ⟨⟨rfl, rfl⟩, hs⟩
    rw [← hs]

theorem deliverIn_of_mem (h : r.id ∈ ids) : r.deliverIn ids = r.deliver := if_pos h

theorem deliverIn_of_not_mem (h : r.id ∉ ids) : r.deliverIn ids = r := if_neg h

theorem deliver_of_delivered (h : r.state = .delivered) : r.deliver = r := by
  obtain ⟨id, state, e⟩ := r
  subst h
  rfl

theorem deliverIn_of_delivered (h : r.state = .delivered) : r.deliverIn ids = r := by
  unfold deliverIn
  rw [deliver_of_delivered h, ite_self]

theorem deliverIn_cons (id : RecordId) :
    (r.deliverIn [id]).deliverIn ids = r.deliverIn (id :: ids) := by
  by_cases h : r.id = id
  · rw [deliverIn_of_mem (List.mem_singleton.mpr h), deliverIn_of_delivered rfl,
      deliverIn_of_mem (by simp [h])]
  · rw [deliverIn_of_not_mem (mt List.mem_singleton.mp h)]
    unfold deliverIn
    simp [h]

theorem waits_iff : r.waits ids = true ↔ r.state = .pending ∧ r.id ∈ ids := by
  simp [waits, isPending_iff]

/-- A record waits for one delivery only. -/
theorem waits_cons (ids : List RecordId) (r : Record) (id : RecordId) :
    (if r.waits (id :: ids) then 1 else 0) =
      (if r.waits [id] then 1 else 0) + if (r.deliverIn [id]).waits ids then 1 else 0 := by
  by_cases h : r.id = id
  · rw [deliverIn_of_mem (by simp [h])]
    simp [waits, isPending, h]
  · rw [deliverIn_of_not_mem (by simp [h])]
    simp [waits, h]

end Record

/-- A record stays where it is in a list that is cut off after a record with a larger number. -/
theorem mem_take_of_id_le {rs : List Record} {n : Nat} {r s : Record}
    (h : rs.Pairwise fun a b => a.id < b.id) (hr : r ∈ rs) (hs : s ∈ rs.take n)
    (hle : r.id ≤ s.id) : r ∈ rs.take n := by
  rw [← List.take_append_drop n rs] at h hr
  rcases List.mem_append.mp hr with hr | hr
  · exact hr
  · exact absurd hle (Int.not_le.mpr ((List.pairwise_append.mp h).2.2 s hs r hr))

/-- The records that are cut off are those with other numbers than the ones that stay. -/
theorem filter_not_mem_take {rs : List Record} (h : rs.Pairwise fun a b => a.id < b.id) (n : Nat) :
    (rs.filter fun r => r.id ∉ (rs.take n).map (·.id)) = rs.drop n := by
  have none : ((rs.take n).filter fun r => r.id ∉ (rs.take n).map (·.id)) = [] := by
    refine List.filter_eq_nil_iff.mpr fun r hr => ?_
    simpa using List.mem_map_of_mem hr
  have all : ((rs.drop n).filter fun r => r.id ∉ (rs.take n).map (·.id)) = rs.drop n := by
    refine List.filter_eq_self.mpr fun r hr => ?_
    rw [decide_eq_true_eq]
    intro hid
    obtain ⟨q, hq, hid⟩ := List.mem_map.mp hid
    rw [← List.take_append_drop n rs] at h
    have lt := (List.pairwise_append.mp h).2.2 q hq r hr
    exact absurd hid (Int.ne_of_lt lt)
  calc (rs.filter fun r => r.id ∉ (rs.take n).map (·.id))
      = ((rs.take n ++ rs.drop n).filter fun r => r.id ∉ (rs.take n).map (·.id)) := by
        rw [List.take_append_drop]
    _ = rs.drop n := by rw [List.filter_append, none, all, List.nil_append]

namespace Log

theorem ext {l m : Log} (hr : l.records = m.records) (hl : l.last = m.last) : l = m := by
  cases l; cases m; cases hr; cases hl; rfl

/-- A number names at most one record. -/
theorem eq_of_id_eq (l : Log) {r s : Record} (hr : r ∈ l.records) (hs : s ∈ l.records)
    (h : r.id = s.id) : r = s := by
  have lt : l.records.Pairwise fun a b => a.id = b.id → a = b :=
    l.ascending.imp fun hlt he => absurd he (Int.ne_of_lt hlt)
  have gt : l.records.Pairwise (flip fun a b => a.id = b.id → a = b) :=
    l.ascending.imp fun hlt he => absurd he.symm (Int.ne_of_lt hlt)
  exact lt.forall_of_forall_of_flip (fun _ _ _ => rfl) gt hr hs h

/-! ### Changes -/

/-- The log of a new table. -/
def empty (last : RecordId) : Log := ⟨[], last, .nil, fun _ h => nomatch h⟩

/-- The log with a record for an event, under a number that was never given. -/
def append (l : Log) (id : RecordId) (e : Event) (h : l.last < id) : Log where
  records := l.records ++ [⟨id, .pending, e⟩]
  last := id
  ascending := by
    refine List.pairwise_append.mpr ⟨l.ascending, List.pairwise_singleton _ _, ?_⟩
    intro r hr s hs
    rw [List.mem_singleton.mp hs]
    exact Int.lt_of_le_of_lt (l.bounded r hr) h
  bounded := by
    intro r hr
    rcases List.mem_append.mp hr with hr | hr
    · exact Int.le_of_lt (Int.lt_of_le_of_lt (l.bounded r hr) h)
    · exact Int.le_of_eq (congrArg Record.id (List.mem_singleton.mp hr))

/-- The log with the given records delivered. -/
def deliver (l : Log) (ids : List RecordId) : Log where
  records := l.records.map (Record.deliverIn ids)
  last := l.last
  ascending := by
    refine List.pairwise_map.mpr (l.ascending.imp fun h => ?_)
    rwa [Record.deliverIn_id, Record.deliverIn_id]
  bounded := by
    intro r hr
    obtain ⟨r₀, hr₀, rfl⟩ := List.mem_map.mp hr
    rw [Record.deliverIn_id]
    exact l.bounded r₀ hr₀

/-- The log without records. -/
def clear (l : Log) : Log := empty l.last

/-- The records that are pending. -/
def pending (l : Log) : List Record := l.records.filter Record.isPending

/-- How many of the given records are pending. -/
def waiting (l : Log) (ids : List RecordId) : Nat := l.records.countP (Record.waits ids)

@[simp] theorem deliver_nil (l : Log) : l.deliver [] = l := by
  refine ext ?_ rfl
  have h : Record.deliverIn [] = id := by funext r; exact Record.deliverIn_of_not_mem (by simp)
  simp [deliver, h]

theorem deliver_cons (l : Log) (id : RecordId) (ids : List RecordId) :
    (l.deliver [id]).deliver ids = l.deliver (id :: ids) := by
  refine ext ?_ rfl
  simp only [deliver, List.map_map]
  exact List.map_congr_left fun r _ => Record.deliverIn_cons id

theorem mem_append {l : Log} {id : RecordId} {e : Event} {h : l.last < id} {r : Record} :
    r ∈ (l.append id e h).records ↔ r ∈ l.records ∨ r = ⟨id, .pending, e⟩ := by
  rw [append, List.mem_append, List.mem_singleton]

/-- What is delivered after an append was there before. -/
theorem mem_of_mem_append {l : Log} {id : RecordId} {e : Event} {h : l.last < id} {r : Record}
    (hr : r ∈ (l.append id e h).records) (hs : r.state = .delivered) : r ∈ l.records := by
  rcases mem_append.mp hr with hr | rfl
  · exact hr
  · cases hs

theorem mem_pending {l : Log} {r : Record} :
    r ∈ l.pending ↔ r ∈ l.records ∧ r.state = .pending := by
  simp [pending, Record.isPending_iff]

theorem pending_ascending (l : Log) : l.pending.Pairwise fun a b => a.id < b.id :=
  l.ascending.sublist List.filter_sublist

/-- What is pending after a delivery is what was pending before, and is none of the given ones. -/
theorem pending_deliver (l : Log) (ids : List RecordId) :
    (l.deliver ids).pending = l.pending.filter fun r => r.id ∉ ids := by
  have stay : ∀ r ∈ l.records.filter (Record.isPending ∘ Record.deliverIn ids),
      r.deliverIn ids = r := by
    intro r hr
    refine Record.deliverIn_of_not_mem fun hid => ?_
    have hp := (List.mem_filter.mp hr).2
    rw [Function.comp_apply, Record.deliverIn_of_mem hid] at hp
    cases hp
  rw [pending, deliver, List.filter_map, List.map_congr_left stay, List.map_id', pending,
    List.filter_filter]
  refine List.filter_congr fun r _ => ?_
  by_cases hid : r.id ∈ ids
  · simp [Record.deliverIn_of_mem hid, hid, Record.isPending]
  · simp [Record.deliverIn_of_not_mem hid, hid]

/-- A delivery that no record waits for changes nothing. -/
theorem deliver_eq_self {l : Log} {ids : List RecordId}
    (h : ∀ r ∈ l.records, r.waits ids = false) : l.deliver ids = l := by
  refine ext ?_ rfl
  have same : ∀ r ∈ l.records, r.deliverIn ids = r := by
    intro r hr
    by_cases hm : r.id ∈ ids
    · refine Record.deliverIn_of_delivered (Record.not_isPending_iff.mp ?_)
      simpa [Record.waits, hm] using h r hr
    · exact Record.deliverIn_of_not_mem hm
  exact (List.map_congr_left same).trans (List.map_id' _)

theorem waiting_eq_zero {l : Log} {ids : List RecordId} :
    l.waiting ids = 0 ↔ ∀ r ∈ l.records, r.waits ids = false := by
  simp [waiting, List.countP_eq_zero]

@[simp] theorem waiting_nil (l : Log) : l.waiting [] = 0 := by
  simp [waiting, Record.waits]

/-- At most one record waits for the delivery of one number. -/
theorem waiting_singleton_le (l : Log) (id : RecordId) : l.waiting [id] ≤ 1 := by
  unfold waiting
  rw [List.countP_eq_length_filter]
  have h : (l.records.filter (Record.waits [id])).Pairwise fun a b => a.id < b.id :=
    l.ascending.sublist List.filter_sublist
  have hid : ∀ r ∈ l.records.filter (Record.waits [id]), r.id = id := fun r hr => by
    simpa using (Record.waits_iff.mp (List.mem_filter.mp hr).2).2
  match hf : l.records.filter (Record.waits [id]) with
  | [] => simp
  | [_] => simp
  | a :: b :: rs =>
    rw [hf] at h hid
    have hlt := List.rel_of_pairwise_cons h (List.mem_cons_self (a := b) (l := rs))
    rw [hid a (by simp), hid b (by simp)] at hlt
    exact absurd hlt (Int.lt_irrefl id)

/-- What one delivery has changed is not there for the next one. -/
theorem waiting_cons (l : Log) (id : RecordId) (ids : List RecordId) :
    l.waiting (id :: ids) = l.waiting [id] + (l.deliver [id]).waiting ids := by
  simp only [waiting, deliver, List.countP_map]
  induction l.records with
  | nil => rfl
  | cons r rs ih =>
    have hr := Record.waits_cons ids r id
    simp only [List.countP_cons, Function.comp_apply]
    omega

theorem waiting_singleton_iff {l : Log} {id : RecordId} :
    l.waiting [id] = 1 ↔ ∃ r ∈ l.records, r.id = id ∧ r.state = .pending := by
  have le := l.waiting_singleton_le id
  have pos : 0 < l.waiting [id] ↔ ∃ r ∈ l.records, r.waits [id] = true := List.countP_pos_iff
  have waits : (∃ r ∈ l.records, r.waits [id] = true) ↔
      ∃ r ∈ l.records, r.id = id ∧ r.state = .pending := by
    simp [Record.waits_iff, and_comm]
  rw [← waits, ← pos]
  omega

/-- A delivery of one record takes nothing away from the delivery of others. -/
theorem waiting_deliver_of_not_mem (l : Log) {id : RecordId} {ids : List RecordId}
    (h : id ∉ ids) : (l.deliver [id]).waiting ids = l.waiting ids := by
  simp only [waiting, deliver, List.countP_map]
  refine List.countP_congr fun r _ => ?_
  simp only [Function.comp_apply, Record.waits_iff, Record.deliverIn_id]
  by_cases hr : r.id = id
  · simp [hr, h]
  · rw [Record.deliverIn_of_not_mem (by simp [hr])]

theorem waiting_le (l : Log) {ids : List RecordId} (h : ids.Nodup) :
    l.waiting ids ≤ ids.length := by
  induction ids with
  | nil => simp
  | cons id ids ih =>
    obtain ⟨hid, hids⟩ := List.nodup_cons.mp h
    have one := l.waiting_singleton_le id
    have rest := ih hids
    rw [waiting_cons, waiting_deliver_of_not_mem l hid, List.length_cons]
    omega

/-- As many records wait as numbers are given exactly if each number is that of a pending
record. -/
theorem waiting_eq_length_iff {l : Log} {ids : List RecordId} (h : ids.Nodup) :
    l.waiting ids = ids.length ↔
      ∀ id ∈ ids, ∃ r ∈ l.records, r.id = id ∧ r.state = .pending := by
  induction ids with
  | nil => simp
  | cons id ids ih =>
    obtain ⟨hid, hids⟩ := List.nodup_cons.mp h
    have one := l.waiting_singleton_le id
    have rest := l.waiting_le hids
    rw [List.forall_mem_cons, ← waiting_singleton_iff, ← ih hids, waiting_cons,
      waiting_deliver_of_not_mem l hid, List.length_cons]
    omega

/-! ### How a log goes on -/

/-- A log and what has become of it: no number up to the last one was given anew, what it names has
its event still, and what was delivered has stayed so. Records may be gone. -/
structure Evolves (old new : Log) : Prop where
  last_le : old.last ≤ new.last
  origin : ∀ r ∈ new.records, r.id ≤ old.last →
    ∃ s ∈ old.records, s.id = r.id ∧ s.event = r.event ∧
      (s.state = .delivered → r.state = .delivered)

theorem Evolves.refl (l : Log) : l.Evolves l :=
  ⟨Int.le_refl _, fun r hr _ => ⟨r, hr, rfl, rfl, id⟩⟩

theorem Evolves.trans {l m n : Log} (h : l.Evolves m) (h' : m.Evolves n) : l.Evolves n := by
  refine ⟨Int.le_trans h.last_le h'.last_le, fun r hr hle => ?_⟩
  obtain ⟨s, hs, hid, he, hd⟩ := h'.origin r hr (Int.le_trans hle h.last_le)
  obtain ⟨t, ht, hid', he', hd'⟩ := h.origin s hs (hid ▸ hle)
  exact ⟨t, ht, hid'.trans hid, he'.trans he, fun h => hd (hd' h)⟩

theorem evolves_append (l : Log) {id : RecordId} (e : Event) (h : l.last < id) :
    l.Evolves (l.append id e h) := by
  refine ⟨Int.le_of_lt h, fun r hr hle => ?_⟩
  rcases mem_append.mp hr with hr | rfl
  · exact ⟨r, hr, rfl, rfl, fun h => h⟩
  · -- the new record is beyond the last number
    exact absurd hle (Int.not_le.mpr h)

theorem evolves_deliver (l : Log) (ids : List RecordId) : l.Evolves (l.deliver ids) := by
  refine ⟨Int.le_refl _, fun r hr _ => ?_⟩
  obtain ⟨s, hs, rfl⟩ := List.mem_map.mp hr
  refine ⟨s, hs, Record.deliverIn_id.symm, Record.deliverIn_event.symm, fun h => ?_⟩
  rw [Record.deliverIn_of_delivered h, h]

theorem evolves_clear (l : Log) : l.Evolves l.clear :=
  ⟨Int.le_refl _, fun _ hr => nomatch hr⟩

end Log

end Outbox
