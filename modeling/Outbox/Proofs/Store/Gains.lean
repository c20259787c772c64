import Outbox.Proofs.Sync.Exits

/-!
# What a store gains

Records that are appended stand after the others and have numbers above theirs (`Store.Gains`), in
any store, also in one whose table others have changed. An append that fails leaves the store or, if
no number is left, undoes the open transaction (`Store.append_result`).
-/

namespace Outbox

namespace Table

variable {t u : Table} {e : Event} {id : RecordId}

/-- A new row stands after the others, and has a number above theirs. -/
theorem insert_ok (h : t.insert e = .ok (id, u)) :
    u = { t with rows := t.rows ++ [Row.ofEvent id e], sequence := id } ∧ t.lastId < id := by
  unfold insert at h
  split at h
  · cases h
  · unfold nextId? at h
    split at h
    · cases h
    · next hid =>
      cases h
      split at hid
      · cases hid
      · cases hid
        exact ⟨rfl, Int.lt_of_lt_of_le (Int.lt_succ _) (Int.le_max_left _ _)⟩

end Table

namespace Store

variable {s s' : Store} {added : List Record}

/-- The rows of the table of events, if there is one. -/
def rows (s : Store) : List Row :=
  match s.live.events with
  | .table t => t.rows
  | _ => []

theorem rows_of_table {t : Table} (h : s.live.events = .table t) : s.rows = t.rows := by
  rw [rows, h]

/-- The largest number in the table of events. -/
def lastId (s : Store) : RecordId := (s.rows.getLast?.map (·.id)).getD 0

/-- The store `s'` has, after the records of `s`, these ones. -/
structure Gains (s s' : Store) (added : List Record) : Prop where
  rows : s'.rows = s.rows ++ added.map Row.ofRecord
  pending : ∀ r ∈ added, r.state = .pending
  ascending : added.Pairwise fun a b => a.id < b.id
  above : ∀ r ∈ added, s.lastId < r.id
  /-- Beside the rows only the number that was given last may change. -/
  others : s' = s ∨ ∃ t u, s.live.events = .table t ∧ s' = s.withTable u ∧ u.guards = t.guards

theorem Gains.refl (s : Store) : s.Gains s [] :=
  ⟨(List.append_nil _).symm, by simp, .nil, by simp, .inl rfl⟩

theorem Gains.saved (h : s.Gains s' added) : s'.saved = s.saved := by
  rcases h.others with rfl | ⟨t, u, -, rfl, -⟩
  · rfl
  · rfl

/-- An open transaction takes back what was gained in it. -/
theorem Gains.undone (h : s.Gains s' added) (open' : s.saved ≠ none) : s'.undone = s.undone := by
  rcases h.others with rfl | ⟨t, u, -, rfl, -⟩
  · rfl
  · obtain ⟨d, saved⟩ := Option.ne_none_iff_exists'.mp open'
    simp [Store.undone, close, withTable, saved]

theorem Gains.le_lastId (h : s.Gains s' added) :
    s.lastId ≤ s'.lastId ∧ ∀ r ∈ added, r.id ≤ s'.lastId := by
  rcases added.eq_nil_or_concat with rfl | ⟨before, r, rfl⟩
  · have rows : s'.rows = s.rows := by simpa using h.rows
    exact ⟨Int.le_of_eq (by rw [lastId, lastId, rows]), by simp⟩
  · have last : s'.lastId = r.id := by simp [lastId, h.rows]
    rw [last]
    refine ⟨Int.le_of_lt (h.above r (by simp)), fun q hq => ?_⟩
    rw [List.concat_eq_append] at hq h
    rcases List.mem_append.mp hq with hq | hq
    · exact Int.le_of_lt ((List.pairwise_append.mp h.ascending).2.2 q hq r (by simp))
    · exact Int.le_of_eq (congrArg Record.id (List.mem_singleton.mp hq))

/-- A row that is inserted is one more record. -/
theorem Gains.insert (h : s.Gains s' added) {t u : Table} {e : Event} {id : RecordId}
    (ht : s'.live.events = .table t) (hi : t.insert e = .ok (id, u)) :
    s.Gains (s'.withTable u) (added ++ [⟨id, .pending, e⟩]) := by
  obtain ⟨rfl, above⟩ := Table.insert_ok hi
  have here : s'.rows = t.rows := rows_of_table ht
  have last : s'.lastId < id := by
    rw [lastId, here]
    exact above
  obtain ⟨before, among⟩ := h.le_lastId
  refine ⟨?_, ?_, ?_, ?_, ?_⟩
  · rw [List.map_append, ← List.append_assoc, ← h.rows, here, List.map_singleton,
      ← Row.ofEvent_eq]
    rfl
  · simpa [or_imp, forall_and] using h.pending
  · refine List.pairwise_append.mpr ⟨h.ascending, List.pairwise_singleton _ _, fun a ha b hb => ?_⟩
    rw [List.mem_singleton.mp hb]
    exact Int.lt_of_le_of_lt (among a ha) last
  · intro r hr
    rcases List.mem_append.mp hr with hr | hr
    · exact h.above r hr
    · rw [List.mem_singleton.mp hr]
      exact Int.lt_of_le_of_lt before last
  · rcases h.others with rfl | ⟨t', u', ht', rfl, guards⟩
    · exact .inr ⟨t, _, ht, rfl, rfl⟩
    · cases ht
      exact .inr ⟨t', _, ht', rfl, guards⟩

theorem append_eq (s : Store) (e : Event) :
    s.append e =
      match s.write fun d => (d.events.insert e).map fun r => (r.1, { d with events := r.2 }) with
      | (.error (.database .full), s) =>
        (.error (.database .full), if s.live.events.watchesInsertions then s else s.undone)
      | r => r := rfl

/-- An append to any store fails and leaves it, undoes an open transaction, or inserts a row. -/
theorem append_result (s : Store) (e : Event) :
    (∃ fault, s.append e = (.error fault, s)) ∨
    (s.saved ≠ none ∧ s.append e = (.error (.database .full), s.undone)) ∨
    ∃ id t u, s.live.events = .table t ∧ t.insert e = .ok (id, u) ∧
      s.append e = (.ok id, s.withTable u) := by
  rw [append_eq]
  rcases s.write_result fun d => (d.events.insert e).map fun r => (r.1, { d with events := r.2 })
    with ⟨fault, hw, -⟩ | ⟨id, d, hd, hw⟩
  · rw [hw]
    by_cases full : fault = .database .full
    · subst full
      by_cases settled : s.saved = none
      · exact .inl ⟨.database .full, by simp only [undone_eq settled, ite_self]⟩
      · -- The statement of a guard is undone alone, and the transaction stays open.
        by_cases watched : s.live.events.watchesInsertions = true
        · exact .inl ⟨.database .full, by simp only [if_pos watched]⟩
        · exact .inr (.inl ⟨settled, by simp only [if_neg watched]⟩)
    · refine .inl ⟨fault, ?_⟩
      cases fault with
      | unavailable reason => rfl
      | database fault =>
        cases fault with
        | full => exact absurd rfl full
        | _ => rfl
  · obtain ⟨⟨id', events⟩, hi, he⟩ := map_eq_ok.mp hd
    cases he
    cases ht : s.live.events with
    | table t =>
      rw [ht] at hi
      obtain ⟨⟨id, u⟩, hu, he⟩ := map_eq_ok.mp hi
      cases he
      exact .inr (.inr ⟨_, t, u, rfl, hu, by rw [hw]; rfl⟩)
    | _ =>
      rw [ht] at hi
      cases hi

end Store

end Outbox
