import Mathlib.Data.Int.Interval
import Outbox.Proofs.Store.History
import Outbox.Store.Tamper

/-!
# The views of a store agree

Numbers are positive and have 64 bits, so a store never holds more records than there are positive
ones (`length_le_greatestId`). No limit is cut off for the database then, and no count is too large
for it. In every state that a store can come to, transactions that others have open on it included
(`Arises`), all ways to read it tell of the same records (`views_agree`).
-/

namespace Outbox

-- Powers are those of numbers, also where a monoid brings its own.
attribute [local instance (high)] instPowNat

/-! ### Numbers of 64 bits -/

theorem nodup_ids {records : List Record} (h : records.Pairwise fun a b => a.id < b.id) :
    (records.map (·.id)).Nodup :=
  List.pairwise_map.mpr (h.imp fun less => Int.ne_of_lt less)

/-- In the order of their numbers, records are found by their numbers. -/
theorem find?_id_iff {records : List Record} (h : records.Pairwise fun a b => a.id < b.id)
    {id : RecordId} {r : Record} :
    (records.find? fun r => r.id = id) = some r ↔ r ∈ records ∧ r.id = id := by
  constructor
  · intro found
    exact ⟨List.mem_of_find?_eq_some found, by simpa using List.find?_some found⟩
  · rintro ⟨hr, rfl⟩
    cases found : records.find? fun q => decide (q.id = r.id) with
    | none =>
      have other := List.find?_eq_none.mp found r hr
      simp at other
    | some q =>
      have same : q.id = r.id := by simpa using List.find?_some found
      rw [List.inj_on_of_nodup_map (nodup_ids h) (List.mem_of_find?_eq_some found) hr same]

/-- The numbers of a log are positive, and none is beyond the largest one. -/
structure Log.Numbered (l : Log) : Prop where
  positive : ∀ r ∈ l.records, 1 ≤ r.id
  bounded : l.last ≤ Table.greatestId

namespace Log.Numbered

variable {l : Log}

theorem empty {last : RecordId} (h : last ≤ Table.greatestId) : (Log.empty last).Numbered :=
  ⟨fun _ hr => absurd hr List.not_mem_nil, h⟩

theorem append {id : RecordId} {e : Event} {hid : l.last < id} (h : l.Numbered) (positive : 1 ≤ id)
    (bounded : id ≤ Table.greatestId) : (l.append id e hid).Numbered := by
  refine ⟨fun r hr => ?_, bounded⟩
  rcases Log.mem_append.mp hr with hr | rfl
  · exact h.positive r hr
  · exact positive

theorem deliver (h : l.Numbered) (ids : List RecordId) : (l.deliver ids).Numbered := by
  refine ⟨fun r hr => ?_, h.bounded⟩
  obtain ⟨q, hq, rfl⟩ := List.mem_map.mp hr
  rw [Record.deliverIn_id]
  exact h.positive q hq

theorem clear (h : l.Numbered) : l.clear.Numbered := empty h.bounded

/-- There are no more records than numbers. -/
theorem length_le (h : l.Numbered) : l.records.length ≤ Table.greatestId.toNat := by
  have within : (l.records.map (·.id)).toFinset ⊆ Finset.Icc 1 Table.greatestId := by
    intro id hid
    obtain ⟨r, hr, rfl⟩ := List.mem_map.mp (List.mem_toFinset.mp hid)
    exact Finset.mem_Icc.mpr ⟨h.positive r hr, Int.le_trans (l.bounded r hr) h.bounded⟩
  calc l.records.length = (l.records.map (·.id)).toFinset.card := by
        rw [List.toFinset_card_of_nodup (nodup_ids l.ascending), List.length_map]
    _ ≤ (Finset.Icc 1 Table.greatestId).card := Finset.card_le_card within
    _ = Table.greatestId.toNat := by rw [Int.card_Icc, Int.add_sub_cancel]

end Log.Numbered

namespace Table

variable {t u : Table} {l : Log} {id : RecordId}

theorem Holds.lastId_bounds (h : t.Holds l) (hl : l.Numbered) :
    0 ≤ t.lastId ∧ t.lastId ≤ greatestId := by
  unfold lastId
  cases last : t.rows.getLast? with
  | none => exact ⟨Int.le_refl 0, by decide⟩
  | some row =>
    have hrow := List.mem_of_getLast? last
    rw [h.rows, Log.rows] at hrow
    obtain ⟨r, hr, rfl⟩ := List.mem_map.mp hrow
    have positive := hl.positive r hr
    have below := Int.le_trans (l.bounded r hr) hl.bounded
    exact ⟨Int.le_of_lt positive, below⟩

/-- A new number is positive and has 64 bits. -/
theorem Holds.nextId_bounds (h : t.Holds l) (hl : l.Numbered) (hid : t.nextId? = some id) :
    1 ≤ id ∧ id ≤ greatestId := by
  obtain ⟨positive, below⟩ := h.lastId_bounds hl
  have bounded := hl.bounded
  rw [← h.sequence] at bounded
  unfold nextId? at hid
  split at hid
  · cases hid
  · next left =>
    obtain ⟨sequence, last⟩ := not_or.mp left
    injection hid with hid
    rw [← hid]
    refine ⟨Int.le_trans (Int.add_le_add_right positive 1) (Int.le_max_left _ _), ?_⟩
    exact Int.max_le.mpr ⟨Int.add_one_le_iff.mpr (lt_of_le_of_ne below last),
      Int.add_one_le_iff.mpr (lt_of_le_of_ne bounded sequence)⟩

/-- A table whose numbers have 64 bits holds such a log. -/
def Sound (t : Table) : Prop := ∃ l : Log, t.Holds l ∧ l.Numbered

theorem Sound.insert {e : Event} (h : t.Sound) (hi : t.insert e = .ok (id, u)) : u.Sound := by
  obtain ⟨l, hold, numbered⟩ := h
  have next : t.nextId? = some id := by
    unfold Table.insert at hi
    split at hi
    · cases hi
    · split at hi
      · cases hi
      · next next =>
        cases hi
        exact next
  obtain ⟨positive, bounded⟩ := hold.nextId_bounds numbered next
  rcases insert_cases hold e with ⟨fault, hf⟩ | ⟨id', hid, u', hu, hold'⟩
  · rw [hf] at hi
    cases hi
  · rw [hu] at hi
    cases hi
    exact ⟨_, hold', numbered.append positive bounded⟩

theorem Sound.deliverAll {ids : List RecordId} {n : Nat} (h : t.Sound)
    (hd : t.deliverAll ids = .ok (n, u)) : u.Sound := by
  obtain ⟨l, hold, numbered⟩ := h
  rcases deliverAll_cases hold ids with ⟨fault, hf⟩ | ⟨u', hu, hold'⟩
  · rw [hf] at hd
    cases hd
  · rw [hu] at hd
    cases hd
    exact ⟨_, hold', numbered.deliver ids⟩

theorem Sound.clear (h : t.Sound) (hc : t.clear = .ok u) : u.Sound := by
  obtain ⟨l, hold, numbered⟩ := h
  rcases clear_cases hold with ⟨fault, hf⟩ | ⟨u', hu, hold'⟩
  · rw [hf] at hc
    cases hc
  · rw [hu] at hc
    cases hc
    exact ⟨_, hold', numbered.clear⟩

end Table

/-! ### What every change keeps -/

/-- The database has the current schema, and its table is sound. -/
structure Database.Sound (d : Database) : Prop where
  current : d.version = Database.currentVersion
  table : ∃ t, d.events = .table t ∧ t.Sound

/-- A change of the database keeps it sound. -/
def Keeps {α : Type} (f : Database → Except DatabaseFault (α × Database)) : Prop :=
  ∀ d a d', d.Sound → f d = .ok (a, d') → d'.Sound

/-- A change of the table of events alone. -/
theorem Keeps.of_events {α : Type} {change : Events → Except DatabaseFault (α × Events)}
    (h : ∀ t a events, t.Sound → change (.table t) = .ok (a, events) →
      ∃ u, events = .table u ∧ u.Sound) :
    Keeps fun d => (change d.events).map fun (a, events) => (a, { d with events }) := by
  intro d a d' hd hc
  obtain ⟨t, ht, sound⟩ := hd.table
  obtain ⟨⟨a', events⟩, he, eq⟩ := map_eq_ok.mp hc
  cases eq
  rw [ht] at he
  exact ⟨hd.current, h t a events sound he⟩

namespace Store

variable {s s' : Store}

/-- The store can be used, and its database is sound, as it is and as it would be after the open
transaction was undone. -/
structure Sound (s : Store) : Prop where
  usable : s.poisoned = false
  live : s.live.Sound
  saved : ∀ d, s.saved = some d → d.Sound

theorem Sound.of_settled (usable : s.poisoned = false) (settled : s.saved = none)
    (live : s.live.Sound) : s.Sound := by
  refine ⟨usable, live, fun d saved => ?_⟩
  rw [settled] at saved
  cases saved

theorem Sound.close (h : s.Sound) : s.close.Sound := by
  unfold Store.close
  cases saved : s.saved with
  | none => exact h.live
  | some d => exact h.saved d saved

theorem Sound.write {α : Type} {f : Database → Except DatabaseFault (α × Database)} (h : s.Sound)
    (keeps : Keeps f) : (s.write f).2.Sound := by
  rcases s.write_result f with ⟨fault, hw, -⟩ | ⟨a, d, hd, hw⟩
  · rw [hw]
    exact h
  · rw [hw]
    exact ⟨h.usable, keeps _ _ _ h.live hd, h.saved⟩

theorem Sound.undone (h : s.Sound) : s.undone.Sound := .of_settled h.usable rfl h.close

theorem keeps_insert (e : Event) :
    Keeps fun d => (d.events.insert e).map fun (id, events) => (id, { d with events }) := by
  refine Keeps.of_events fun t id events sound hi => ?_
  obtain ⟨⟨_, u⟩, hu, eq⟩ := map_eq_ok.mp hi
  cases eq
  exact ⟨u, rfl, sound.insert hu⟩

theorem keeps_deliverAll (ids : List RecordId) :
    Keeps fun d => (d.events.deliverAll ids).map fun (n, events) => (n, { d with events }) := by
  refine Keeps.of_events fun t n events sound hd => ?_
  obtain ⟨⟨_, u⟩, hu, eq⟩ := map_eq_ok.mp hd
  cases eq
  exact ⟨u, rfl, sound.deliverAll hu⟩

theorem keeps_clear :
    Keeps fun d => d.events.clear.map fun events => ((), { d with events }) := by
  intro d _ d' hd hc
  obtain ⟨t, ht, sound⟩ := hd.table
  obtain ⟨events, he, eq⟩ := map_eq_ok.mp hc
  cases eq
  rw [ht] at he
  obtain ⟨u, hu, rfl⟩ := map_eq_ok.mp he
  exact ⟨hd.current, u, rfl, sound.clear hu⟩

theorem Sound.append (h : s.Sound) (e : Event) : (s.append e).2.Sound := by
  have written := h.write (keeps_insert e)
  unfold Store.append
  generalize s.write _ = result at written ⊢
  split
  · split
    · exact written
    · exact written.undone
  · exact written

theorem Sound.markDelivered (h : s.Sound) (ids : List RecordId) :
    (s.markDelivered ids).2.Sound := by
  unfold Store.markDelivered
  split
  · exact h
  · refine h.write fun d n d' hd hm => ?_
    split at hm
    · cases hm
    · exact keeps_deliverAll ids d n d' hd hm

theorem Sound.installationId (h : s.Sound) (fresh : String) :
    (s.installationId fresh).2.Sound := by
  unfold Store.installationId
  split
  · exact h
  · exact h
  · refine h.write fun d name d' hd hn => ?_
    cases hn
    exact ⟨hd.current, hd.table⟩

theorem Sound.reopened (h : s.Sound) (readOnly : Bool) : (s.reopened readOnly).2.Sound := by
  have current : s.reopened readOnly = (.ok (), { ofDatabase s.close with readOnly }) := by
    simp [Store.reopened, migrate, ofDatabase, h.close.current]
  rw [current]
  exact .of_settled rfl rfl h.close

theorem Sound.call (h : s.Sound) (c : Call) : (s.call c).2.Sound := by
  cases c with
  | append e => exact h.append e
  | markDelivered ids => exact h.markDelivered ids
  | eraseAll => exact h.write keeps_clear
  | installationId fresh => exact h.installationId fresh
  | reopen readOnly => exact h.reopened readOnly
  | _ => exact h

/-- A user of the store opens a transaction, commits it or undoes it. -/
def Transacts (change : Tampering) : Prop :=
  change = .begin ∨ change = .commit ∨ change = .rollBack

theorem Sound.transaction {change : Tampering} (h : s.Sound) (hc : Transacts change) :
    (s.tamper change).2.Sound := by
  unfold tamper
  rw [h.usable]
  cases saved : s.saved with
  | none =>
    rcases hc with rfl | rfl | rfl
    · refine ⟨rfl, h.live, ?_⟩
      rintro d ⟨⟩
      exact h.live
    · exact h
    · exact h
  | some d =>
    rcases hc with rfl | rfl | rfl
    · exact h
    · exact .of_settled rfl rfl h.live
    · exact .of_settled rfl rfl (h.saved d saved)

/-! ### States that a store can come to -/

/-- The states that a store can come to after a migration has made its database anew: through its
operations, closing and opening included, and through transactions that others have on it. The
counter that the migration has found is a number of 64 bits. -/
inductive Arises : Store → Prop
  | migrated {old s : Store} (older : old.live.version < Database.currentVersion)
      (counter : old.live.counterLeft.getD 0 ≤ Table.greatestId) (h : old.migrate = (.ok (), s)) :
      Arises s
  | call {s : Store} (h : Arises s) (c : Call) : Arises (s.call c).2
  | transaction {s : Store} (h : Arises s) {change : Tampering} (hc : Transacts change) :
      Arises (s.tamper change).2

theorem Arises.sound (h : s.Arises) : s.Sound := by
  induction h with
  | migrated older counter h =>
    obtain ⟨usable, settled, rfl⟩ := renewed_of_migrate older h
    exact .of_settled usable settled ⟨rfl, _, rfl, .empty _, ⟨rfl, rfl⟩, .empty counter⟩
  | call _ c ih => exact ih.call c
  | transaction _ hc ih => exact ih.transaction hc

/-- What is read from a sound store is what the log of its table tells, whatever transaction is
open. -/
theorem Sound.shows_of_table (h : s.Sound) {t : Table} {l : Log} (ht : s.live.events = .table t)
    (hold : t.Holds l) : s.Shows (l.records.map Record.kept) ∧
      s.contents = .ok (l.records.map Record.kept) := by
  have holds : Store.Holds { s with saved := none } l := ⟨h.usable, rfl, h.live.current, t, ht, hold⟩
  -- reading does not look at the open transaction
  have shows := holds.shows
  have contents := contents_eq holds
  exact ⟨⟨shows.selectPending, shows.recent, shows.get, shows.countPending, shows.countTotal,
    shows.stats⟩, contents⟩

theorem Sound.shows (h : s.Sound) : ∃ l : Log, l.Numbered ∧
    s.Shows (l.records.map Record.kept) ∧ s.contents = .ok (l.records.map Record.kept) := by
  obtain ⟨t, ht, l, hold, numbered⟩ := h.live.table
  exact ⟨l, numbered, h.shows_of_table ht hold⟩

/-! ### Limits of the database -/

/-- The largest limit. -/
def greatestLimit : Nat := 2 ^ (64 : Nat) - 1

/-- A limit as the database takes it, with a sign: one that is too large is cut off. -/
def signedLimit (limit : Nat) : Int :=
  if (limit : Int) ≤ Table.greatestId then limit else Table.greatestId

/-- So many of the first rows as a limit of the database allows; a negative one allows all. -/
def limited {α : Type} (limit : Int) (rows : List α) : List α :=
  if limit < 0 then rows else rows.take limit.toNat

/-- Where there are no more rows than numbers, nothing is lost when a limit is cut off. -/
theorem limited_signedLimit {α : Type} {rows : List α}
    (h : rows.length ≤ Table.greatestId.toNat) (limit : Nat) :
    limited (signedLimit limit) rows = rows.take limit := by
  unfold signedLimit limited
  split
  · rw [if_neg (by omega), Int.toNat_natCast]
  · next large =>
    have few : rows.length ≤ limit := by omega
    rw [List.take_of_length_le few]
    exact List.take_of_length_le h

/-! ### All views -/

/-- The call only reads. -/
def Call.Reads : Call → Prop
  | .selectPending _ | .recent _ | .get _ | .countPending | .countTotal | .stats => True
  | _ => False

theorem call_reads {c : Call} (h : c.Reads) (s : Store) : (s.call c).2 = s := by
  cases c <;> first | rfl | exact h.elim

/-- All ways to read the store tell of these records, which stand in the order of their numbers. -/
structure Agrees (s : Store) (records : List Record) : Prop where
  contents : s.contents = .ok records
  ascending : records.Pairwise fun a b => a.id < b.id
  /-- The pending records in their order, up to the limit. -/
  selectPending : ∀ limit ≤ greatestLimit, ∃ selected n, s.selectPending limit = .ok selected ∧
    s.countPending = .ok n ∧ selected <+: records.filter Record.isPending ∧
    selected.length = min limit n ∧ (selected.Pairwise fun a b => a.id < b.id) ∧
    selected = limited (signedLimit limit) (records.filter Record.isPending)
  /-- The last records, in the reverse order, up to the limit. -/
  recent : ∀ limit ≤ greatestLimit, ∃ last n, s.recent limit = .ok last ∧
    s.countTotal = .ok n ∧ last.reverse <:+ records ∧ last.length = min limit n ∧
    (last.Pairwise fun a b => b.id < a.id) ∧ last = limited (signedLimit limit) records.reverse
  /-- The selection for a smaller limit is the front of the one for a larger limit. -/
  limits : ∀ limit limit', limit ≤ limit' → limit' ≤ greatestLimit →
    (∃ selected selected', s.selectPending limit = .ok selected ∧
      s.selectPending limit' = .ok selected' ∧ selected <+: selected') ∧
    ∃ last last', s.recent limit = .ok last ∧ s.recent limit' = .ok last' ∧ last <+: last'
  /-- Under a number there is the record that is listed with it. -/
  get : ∀ id, ∃ found all, s.get? id = .ok found ∧ s.recent greatestLimit = .ok all ∧
    ∀ r, found = some r ↔ r ∈ all ∧ r.id = id
  countPending : ∃ all, s.selectPending greatestLimit = .ok all ∧ s.countPending = .ok all.length
  countTotal : ∃ all, s.recent greatestLimit = .ok all ∧ s.countTotal = .ok all.length
  /-- The counts are numbers of the database too, also where one is taken from the other. -/
  stats : ∃ total pending, s.countTotal = .ok total ∧ s.countPending = .ok pending ∧
    pending ≤ total ∧ (total : Int) ≤ Table.greatestId ∧
    s.stats = .ok ⟨total, pending, total - pending⟩
  untouched : ∀ c : Call, c.Reads → (s.call c).2 = s

/-- What is not pending is the rest. -/
theorem countP_not_isPending (records : List Record) :
    records.countP (fun r => !r.isPending) = records.length - records.countP Record.isPending := by
  have parts := List.length_eq_countP_add_countP Record.isPending (l := records)
  simp only [Bool.not_eq_true, Bool.decide_eq_false] at parts
  omega

theorem views_agree (h : s.Arises) : ∃ records, s.Agrees records := by
  obtain ⟨l, numbered, shows, contents⟩ := h.sound.shows
  have few : (l.records.map Record.kept).length ≤ Table.greatestId.toNat := by
    rw [List.length_map]
    exact numbered.length_le
  have ascending : (l.records.map Record.kept).Pairwise fun a b => a.id < b.id :=
    List.pairwise_map.mpr l.ascending
  generalize l.records.map Record.kept = records at shows contents few ascending
  have fewer := List.length_filter_le Record.isPending records
  have pending := List.countP_eq_length_filter (p := Record.isPending) (l := records)
  -- no more records fit into the table than the largest limit lets through
  have fits : records.length ≤ greatestLimit := few.trans (by decide)
  have all : s.recent greatestLimit = .ok records.reverse := by
    rw [shows.recent, List.take_of_length_le (by rwa [List.length_reverse])]
  refine ⟨records, ?_⟩
  constructor
  case contents => exact contents
  case ascending => exact ascending
  case selectPending =>
    intro limit _
    refine ⟨_, _, shows.selectPending limit, shows.countPending, List.take_prefix _ _, ?_, ?_, ?_⟩
    · rw [List.length_take, pending]
    · exact (ascending.sublist List.filter_sublist).sublist (List.take_sublist _ _)
    · exact (limited_signedLimit (fewer.trans few) limit).symm
  case recent =>
    intro limit _
    refine ⟨_, _, shows.recent limit, shows.countTotal, ?_, ?_, ?_, ?_⟩
    · rw [← List.reverse_prefix, List.reverse_reverse]
      exact List.take_prefix _ _
    · rw [List.length_take, List.length_reverse]
    · exact (List.pairwise_reverse.mpr ascending).sublist (List.take_sublist _ _)
    · refine (limited_signedLimit ?_ limit).symm
      rwa [List.length_reverse]
  case limits =>
    intro limit limit' le _
    constructor
    · exact ⟨_, _, shows.selectPending limit, shows.selectPending limit',
        List.take_prefix_take_left le⟩
    · exact ⟨_, _, shows.recent limit, shows.recent limit', List.take_prefix_take_left le⟩
  case get =>
    intro id
    refine ⟨_, _, shows.get id, all, fun r => ?_⟩
    rw [find?_id_iff ascending, List.mem_reverse]
  case countPending =>
    refine ⟨_, shows.selectPending _, ?_⟩
    rw [List.take_of_length_le (fewer.trans fits), ← pending]
    exact shows.countPending
  case countTotal =>
    refine ⟨_, all, ?_⟩
    rw [List.length_reverse]
    exact shows.countTotal
  case stats =>
    refine ⟨_, _, shows.countTotal, shows.countPending, List.countP_le_length, ?_, ?_⟩
    · exact Int.le_trans (Int.ofNat_le.mpr few) (Int.le_of_eq (by decide))
    · rw [shows.stats, countP_not_isPending]
  case untouched => exact fun c hc => call_reads hc s

/-- Two events, of which the first is delivered. -/
def delivering : Store :=
  Store.inMemory.migrate.2.after [.append default, .append default, .markDelivered [1]]

/-- A third event that comes while a transaction is open. -/
def transacting : Store := ((delivering.tamper .begin).2.call (.append default)).2

theorem arises_transacting : transacting.Arises := by
  have migrated : Store.inMemory.migrate.2.Arises :=
    @Arises.migrated Store.inMemory _ (by decide) (by decide) rfl
  have delivered : delivering.Arises :=
    ((migrated.call (.append default)).call (.append default)).call (.markDelivered [1])
  exact (delivered.transaction (.inl rfl)).call (.append default)

/-- The event of the open transaction is in all views, and the database to go back to is kept. -/
theorem views_agree_transacting :
    (∃ records, transacting.Agrees records) ∧ transacting.saved.isSome = true ∧
      transacting.recent greatestLimit =
        .ok [⟨3, .pending, default⟩, ⟨2, .pending, default⟩, ⟨1, .delivered, default⟩] ∧
      transacting.stats = .ok ⟨3, 2, 1⟩ :=
  ⟨views_agree arises_transacting, rfl, rfl, rfl⟩

end Store

end Outbox
