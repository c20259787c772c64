import Mathlib.Data.List.Induction
import Outbox.Proofs.Store.Queries

/-!
# Histories of a store

Whatever is called on a store that a migration has made anew, what the store tells is what its
history says: the events that were appended since the last erasure, each under the number it was
given, and delivered if a delivery has named it since then (`told_by_history`). A number is never
given twice, and neither is a name for the installation.
-/

namespace Outbox.Store

/-- A call of one of the operations. -/
inductive Call where
  | append (e : Event)
  | markDelivered (ids : List RecordId)
  | eraseAll
  | selectPending (limit : Nat)
  | recent (limit : Nat)
  | get (id : RecordId)
  | countPending
  | countTotal
  | stats
  /-- The name that is given if there is none yet is part of the call. -/
  | installationId (fresh : String)
  /-- The store is closed, opened again, perhaps on a medium that can only be read, and migrated. -/
  | reopen (readOnly : Bool)

/-- What a call gives if it does not fail. -/
def Call.Result : Call → Type
  | .append _ => RecordId
  | .markDelivered _ | .countPending | .countTotal => Nat
  | .eraseAll | .reopen _ => Unit
  | .selectPending _ | .recent _ => List Record
  | .get _ => Option Record
  | .stats => StoreStats
  | .installationId _ => String

/-- The result of a call, and the store after it. -/
def call (s : Store) : (c : Call) → Except StoreFault c.Result × Store
  | .append e => s.append e
  | .markDelivered ids => s.markDelivered ids
  | .eraseAll => s.eraseAll
  | .selectPending limit => (s.selectPending limit, s)
  | .recent limit => (s.recent limit, s)
  | .get id => (s.get? id, s)
  | .countPending => (s.countPending, s)
  | .countTotal => (s.countTotal, s)
  | .stats => (s.stats, s)
  | .installationId fresh => s.installationId fresh
  | .reopen readOnly => s.reopened readOnly

/-- A call that was made, and its result. -/
structure Entry where
  call : Call
  result : Except StoreFault call.Result

/-- What is known of calls that are made one after the other. -/
def history (s : Store) : List Call → List Entry
  | [] => []
  | c :: calls => ⟨c, (s.call c).1⟩ :: (s.call c).2.history calls

/-- The store after calls. -/
def after (s : Store) (calls : List Call) : Store := calls.foldl (fun s c => (s.call c).2) s

/-- A store that a migration has made anew has this history and has come to this state. -/
def Reached (h : List Entry) (t : Store) : Prop :=
  ∃ (old s : Store) (calls : List Call), old.live.version < Database.currentVersion ∧
    old.migrate = (.ok (), s) ∧ s.history calls = h ∧ s.after calls = t

/-! ### What a history says -/

namespace Entry

/-- The entry tells that an event has got a number. -/
def Appends (id : RecordId) (e : Event) : Entry → Prop
  | ⟨.append e', .ok id'⟩ => id' = id ∧ e' = e
  | _ => False

/-- The entry tells that the record of a number was delivered, if there was one. -/
def Delivers (id : RecordId) : Entry → Prop
  | ⟨.markDelivered ids, .ok _⟩ => id ∈ ids
  | _ => False

/-- The entry tells that all records were erased. -/
def Erases : Entry → Prop
  | ⟨.eraseAll, .ok _⟩ => True
  | _ => False

/-- The entry tells a name of the installation. -/
def Names (name : String) : Entry → Prop
  | ⟨.installationId _, .ok name'⟩ => name' = name
  | _ => False

/-- The records after one more entry. -/
def record (records : List Record) : Entry → List Record
  | ⟨.append e, .ok id⟩ => records ++ [⟨id, .pending, e⟩]
  | ⟨.markDelivered ids, .ok _⟩ => records.map (Record.deliverIn ids)
  | ⟨.eraseAll, .ok _⟩ => []
  | _ => records

end Entry

/-- The records that there are after a history. -/
def recorded (h : List Entry) : List Record := h.foldl Entry.record []

/-- The history says of the record that it is there: its event was appended under its number,
nothing was erased since then, and it is delivered if a delivery has named it since then. -/
def Said (h : List Entry) (r : Record) : Prop :=
  ∃ before x later, h = before ++ x :: later ∧ x.Appends r.id r.event ∧
    (∀ y ∈ later, ¬ y.Erases) ∧ (r.state = .delivered ↔ ∃ y ∈ later, y.Delivers r.id)

theorem recorded_concat (h : List Entry) (x : Entry) :
    recorded (h ++ [x]) = x.record (recorded h) := by
  simp [recorded]

/-- What an entry does to the records: one is appended, or those of before stay unless all are
erased, and are delivered if the entry delivers them. -/
theorem Entry.mem_record {x : Entry} {records : List Record} {r : Record} :
    r ∈ x.record records ↔ (x.Appends r.id r.event ∧ r.state = .pending) ∨
      (¬ x.Erases ∧ ∃ q ∈ records, q.id = r.id ∧ q.event = r.event ∧
        (r.state = .delivered ↔ q.state = .delivered ∨ x.Delivers r.id)) := by
  obtain ⟨c, result⟩ := x
  cases result with
  | error fault =>
    have quiet : (⟨c, .error fault⟩ : Entry).record records = records := by cases c <;> rfl
    rw [quiet, Record.mem_iff]
    cases c <;> simp [Appends, Erases, Delivers]
  | ok a =>
    cases c with
    | append e =>
      simp only [record, Appends, Erases, Delivers, List.mem_append, List.mem_singleton,
        not_false_eq_true, true_and, or_false, ← Record.mem_iff]
      exact (or_congr_right Record.eq_pending_iff).trans or_comm
    | markDelivered ids =>
      simp only [record, Appends, Erases, Delivers, List.mem_map, not_false_eq_true, true_and,
        false_and, false_or, Record.deliverIn_eq_iff]
    | eraseAll => simp [record, Appends, Erases]
    | _ =>
      rw [show Entry.record records _ = records from rfl, Record.mem_iff]
      simp [Appends, Erases, Delivers]

/-- What one more entry says of a record. -/
theorem said_concat {h : List Entry} {x : Entry} {r : Record} :
    Said (h ++ [x]) r ↔ (x.Appends r.id r.event ∧ r.state = .pending) ∨
      (¬ x.Erases ∧ ∃ q, Said h q ∧ q.id = r.id ∧ q.event = r.event ∧
        (r.state = .delivered ↔ q.state = .delivered ∨ x.Delivers r.id)) := by
  constructor
  · rintro ⟨before, y, later, hh, ha, he, hd⟩
    -- the append is the new entry itself, or there was one before it
    rcases List.eq_nil_or_concat later with rfl | ⟨later, z, rfl⟩
    · obtain ⟨-, hx⟩ := List.append_inj' hh rfl
      obtain rfl : x = y := List.singleton_inj.mp hx
      refine .inl ⟨ha, Record.isPending_iff.mp ?_⟩
      simpa [Record.isPending, ← Record.not_isPending_iff] using hd
    · rw [List.concat_eq_append] at hh he hd
      rw [← List.cons_append, ← List.append_assoc] at hh
      obtain ⟨rfl, hx⟩ := List.append_inj' hh rfl
      obtain rfl : x = z := List.singleton_inj.mp hx
      obtain ⟨state, hstate⟩ : ∃ state : DeliveryState,
          state = .delivered ↔ ∃ y ∈ later, y.Delivers r.id := by
        by_cases hl : ∃ y ∈ later, y.Delivers r.id
        · exact ⟨.delivered, by simp [hl]⟩
        · exact ⟨.pending, by simp [hl]⟩
      refine .inr ⟨he x (by simp), ⟨r.id, state, r.event⟩, ?_, rfl, rfl, ?_⟩
      · exact ⟨before, y, later, rfl, ha, fun z hz => he z (List.mem_append_left _ hz), hstate⟩
      · rw [hd, hstate]
        simp [or_and_right, exists_or]
  · rintro (⟨ha, hs⟩ | ⟨hx, q, ⟨before, y, later, rfl, ha, he, hd⟩, hid, hev, hs⟩)
    · exact ⟨h, x, [], rfl, ha, by simp, by simp [hs]⟩
    · refine ⟨before, y, later ++ [x], by simp, hid ▸ hev ▸ ha, ?_, ?_⟩
      · intro z hz
        rcases List.mem_append.mp hz with hz | hz
        · exact he z hz
        · rwa [List.mem_singleton.mp hz]
      · rw [hs, hd, hid]
        simp [or_and_right, exists_or]

/-- The records after a history are those that it says to be there. -/
theorem mem_recorded {h : List Entry} {r : Record} : r ∈ recorded h ↔ Said h r := by
  induction h using List.reverseRecOn generalizing r with
  | nil => simp [recorded, Said]
  | append_singleton h x ih =>
    rw [recorded_concat, Entry.mem_record, said_concat]
    simp only [ih]

/-! ### What a store keeps up -/

/-- The number that an entry tells to be given is larger than those of an earlier entry. -/
def Entry.Before (x y : Entry) : Prop :=
  ∀ id e id' e', x.Appends id e → y.Appends id' e' → id < id'

/-- The name of the installation stays if there is one, and the entry tells no other name than the
one that there is then. -/
def Entry.Settles (x : Entry) (s s' : Store) : Prop :=
  ∀ name?, s.live.settings = some name? → ∃ name?', s'.live.settings = some name?' ∧
    ∀ name, name? = some name ∨ x.Names name → name?' = some name

theorem Entry.Settles.of_unnamed {x : Entry} {s s' : Store}
    (settings : s'.live.settings = s.live.settings) (unnamed : ∀ name, ¬ x.Names name) :
    x.Settles s s' := by
  intro name? hs
  refine ⟨name?, settings.trans hs, ?_⟩
  rintro name (h | h)
  · exact h
  · exact absurd h (unnamed name)

/-- The store holds the records that its history says to be there. No guard watches them, the
numbers that were given ascend up to the last one, and the name of the installation is the one that
was told. -/
structure Traced (h : List Entry) (s : Store) (l : Log) : Prop where
  holds : s.Holds l
  guards : s.live.events.guards = {}
  records : l.records = recorded h
  given : ∀ x ∈ h, ∀ id e, x.Appends id e → id ≤ l.last
  ascending : h.Pairwise Entry.Before
  named : ∃ name?, s.live.settings = some name? ∧
    ∀ x ∈ h, ∀ name, x.Names name → name? = some name

theorem traced_of_migrate {old s : Store} (hold : old.live.version < Database.currentVersion)
    (h : old.migrate = (.ok (), s)) : ∃ l, Traced [] s l := by
  obtain ⟨last, hl⟩ := holds_of_migrate hold h
  obtain ⟨-, -, rfl⟩ := renewed_of_migrate hold h
  exact ⟨.empty last, hl, rfl, rfl, by simp, .nil, none, rfl, by simp⟩

namespace Traced

variable {h : List Entry} {s s' : Store} {l l' : Log} {x : Entry}

/-- A call that does to the log what its entry says keeps the store in line with its history. -/
theorem concat (ht : Traced h s l) (holds : s'.Holds l')
    (guards : s'.live.events.guards = s.live.events.guards) (settles : x.Settles s s')
    (records : l'.records = x.record l.records) (last : l.last ≤ l'.last)
    (given : ∀ id e, x.Appends id e → l.last < id ∧ id ≤ l'.last) :
    Traced (h ++ [x]) s' l' where
  holds := holds
  guards := guards.trans ht.guards
  records := by rw [records, ht.records, recorded_concat]
  given := by
    intro y hy id e ha
    rcases List.mem_append.mp hy with hy | hy
    · exact Int.le_trans (ht.given y hy id e ha) last
    · rw [List.mem_singleton.mp hy] at ha
      exact (given id e ha).2
  ascending := by
    refine List.pairwise_append.mpr ⟨ht.ascending, List.pairwise_singleton _ _, ?_⟩
    intro y hy z hz id e id' e' hy' hz'
    rw [List.mem_singleton.mp hz] at hz'
    exact Int.lt_of_le_of_lt (ht.given y hy id e hy') (given id' e' hz').1
  named := by
    obtain ⟨name?, hs, hn⟩ := ht.named
    obtain ⟨name?', hs', hn'⟩ := settles name? hs
    refine ⟨name?', hs', fun y hy name hname => ?_⟩
    rcases List.mem_append.mp hy with hy | hy
    · exact hn' name (.inl (hn y hy name hname))
    · rw [List.mem_singleton.mp hy] at hname
      exact hn' name (.inr hname)

/-- A call that tells of nothing new leaves the store as it is. -/
theorem idle (ht : Traced h s l) (records : x.record l.records = l.records)
    (appends : ∀ id e, ¬ x.Appends id e) (unnamed : ∀ name, ¬ x.Names name) :
    Traced (h ++ [x]) s l :=
  ht.concat ht.holds rfl (.of_unnamed rfl unnamed) records.symm (Int.le_refl _)
    fun id e ha => absurd ha (appends id e)

theorem append (ht : Traced h s l) (e : Event) :
    ∃ l', Traced (h ++ [⟨.append e, (s.append e).1⟩]) (s.append e).2 l' := by
  have beside := append_beside ht.holds e
  rcases append_cases ht.holds e with ⟨fault, ha⟩ | ⟨id, hid, s', ha, hs⟩
  · rw [ha]
    exact ⟨l, ht.idle rfl (fun _ _ => False.elim) fun _ => False.elim⟩
  · rw [ha] at beside ⊢
    refine ⟨l.append id e hid, ht.concat hs beside.guards
      (.of_unnamed beside.settings fun _ => False.elim) rfl (Int.le_of_lt hid) ?_⟩
    rintro id' e' ⟨rfl, -⟩
    exact ⟨hid, Int.le_refl _⟩

theorem markDelivered (ht : Traced h s l) (ids : List RecordId) :
    ∃ l', Traced (h ++ [⟨.markDelivered ids, (s.markDelivered ids).1⟩]) (s.markDelivered ids).2
      l' := by
  have beside := s.markDelivered_beside ids
  rcases markDelivered_cases ht.holds ids with ⟨fault, hm⟩ | ⟨s', hm, hs⟩
  · rw [hm]
    exact ⟨l, ht.idle rfl (fun _ _ => False.elim) fun _ => False.elim⟩
  · rw [hm] at beside ⊢
    exact ⟨l.deliver ids, ht.concat hs beside.guards
      (.of_unnamed beside.settings fun _ => False.elim) rfl (Int.le_refl _)
      fun _ _ => False.elim⟩

theorem eraseAll (ht : Traced h s l) :
    ∃ l', Traced (h ++ [⟨.eraseAll, s.eraseAll.1⟩]) s.eraseAll.2 l' := by
  have beside := s.eraseAll_beside
  rcases eraseAll_cases ht.holds with ⟨fault, he⟩ | ⟨s', he, hs⟩
  · rw [he]
    exact ⟨l, ht.idle rfl (fun _ _ => False.elim) fun _ => False.elim⟩
  · rw [he] at beside ⊢
    exact ⟨l.clear, ht.concat hs beside.guards
      (.of_unnamed beside.settings fun _ => False.elim) rfl (Int.le_refl _)
      fun _ _ => False.elim⟩

theorem installationId (ht : Traced h s l) (fresh : String) :
    Traced (h ++ [⟨.installationId fresh, (s.installationId fresh).1⟩])
      (s.installationId fresh).2 l := by
  obtain ⟨name?, hs, -⟩ := ht.named
  rcases installationId_cases ht.holds hs fresh with ⟨-, -, fault, hi⟩ | ⟨s', hi, hold, hs', he⟩
  · rw [hi]
    exact ht.idle rfl (fun _ _ => False.elim) fun _ => False.elim
  · rw [hi]
    refine ht.concat hold (by rw [he]) ?_ rfl (Int.le_refl _) fun _ _ => False.elim
    intro name?₀ hs₀
    obtain rfl : name? = name?₀ := Option.some.inj (hs.symm.trans hs₀)
    refine ⟨_, hs', ?_⟩
    rintro name (rfl | rfl)
    · rfl
    · rfl

/-- Every call keeps the store in line with its history. -/
theorem call (ht : Traced h s l) (c : Call) :
    ∃ l', Traced (h ++ [⟨c, (s.call c).1⟩]) (s.call c).2 l' := by
  cases c with
  | append e => exact ht.append e
  | markDelivered ids => exact ht.markDelivered ids
  | eraseAll => exact ht.eraseAll
  | installationId fresh => exact ⟨l, ht.installationId fresh⟩
  | reopen readOnly =>
    refine ⟨l, ?_⟩
    simp only [Store.call, reopened_eq ht.holds]
    exact ht.concat (ht.holds.withMedium readOnly) rfl
      (.of_unnamed rfl fun _ => False.elim) rfl (Int.le_refl _) fun _ _ => False.elim
  | _ => exact ⟨l, ht.idle rfl (fun _ _ => False.elim) fun _ => False.elim⟩

theorem after (ht : Traced h s l) (calls : List Call) :
    ∃ l', Traced (h ++ s.history calls) (s.after calls) l' := by
  -- the first call adds its entry to the history of before, from which the others go on
  induction calls generalizing h s l with
  | nil => exact ⟨l, by simpa [history, Store.after] using ht⟩
  | cons c calls ih =>
    obtain ⟨m, hm⟩ := ht.call c
    obtain ⟨n, hn⟩ := ih hm
    refine ⟨n, ?_⟩
    rw [List.append_assoc] at hn
    exact hn

end Traced

theorem Reached.traced {h : List Entry} {t : Store} (hr : Reached h t) : ∃ l, Traced h t l := by
  obtain ⟨old, s, calls, hv, hm, rfl, rfl⟩ := hr
  obtain ⟨l, hl⟩ := traced_of_migrate hv hm
  exact hl.after calls

/-- A store tells what its history says, and nothing else. The numbers that were given ascend, and a
name of the installation that was told is the only one. An append fails only where the medium cannot
be written or no number is left, and then changes nothing; the name stays open only as long as the
medium cannot be written; on a medium that can, no delivery and no erasure fails. -/
theorem told_by_history {h : List Entry} {t : Store} (hr : Reached h t) :
    (∃ records, t.Shows records ∧ (records.Pairwise fun a b => a.id < b.id) ∧
      ∀ r, r ∈ records ↔ ∃ e, r.event = e.kept ∧ Said h ⟨r.id, r.state, e⟩) ∧
    h.Pairwise Entry.Before ∧
    (∀ e fault t', t.append e = (.error fault, t') →
      t' = t ∧ (t.readOnly = true ∨ fault = .database .full)) ∧
    (∀ x ∈ h, ∀ y ∈ h, ∀ name name', x.Names name → y.Names name' → name = name') ∧
    (∀ fresh fault t', t.installationId fresh = (.error fault, t') →
      t' = t ∧ t.readOnly = true ∧ ∀ x ∈ h, ∀ name, ¬ x.Names name) ∧
    (t.readOnly = false → (∀ ids, ∃ n t', t.markDelivered ids = (.ok n, t')) ∧
      ∃ t', t.eraseAll = (.ok (), t')) := by
  obtain ⟨l, ht⟩ := hr.traced
  obtain ⟨name?, hs, hn⟩ := ht.named
  refine ⟨⟨_, ht.holds.shows, List.pairwise_map.mpr l.ascending, fun r => ?_⟩, ht.ascending,
    fun e fault t' hf => ?_, fun x hx y hy name name' hname hname' => ?_,
    fun fresh fault t' hf => ?_, fun hw => ⟨fun ids => ?_, ?_⟩⟩
  · rw [ht.records, List.mem_map]
    constructor
    · rintro ⟨q, hq, rfl⟩
      exact ⟨q.event, rfl, mem_recorded.mp hq⟩
    · rintro ⟨e, he, hs⟩
      exact ⟨_, mem_recorded.mpr hs, by rw [Record.kept, ← he]⟩
  · rcases append_cases ht.holds e with ⟨fault', ha⟩ | ⟨id, hid, s', ha, -⟩
    · rw [ha] at hf
      cases hf
      refine ⟨rfl, ?_⟩
      cases hw : t.readOnly with
      | true => exact .inl rfl
      | false => exact .inr (append_writable ht.holds ⟨ht.guards, hw⟩ (congrArg Prod.fst ha))
    · rw [ha] at hf
      cases hf
  · exact Option.some.inj ((hn x hx name hname).symm.trans (hn y hy name' hname'))
  · rcases installationId_cases ht.holds hs fresh with ⟨hnone, hw, fault', hi⟩ | ⟨s', hi, -⟩
    · rw [hi] at hf
      cases hf
      refine ⟨rfl, hw, fun x hx name hname => ?_⟩
      rw [hn x hx name hname] at hnone
      cases hnone
    · rw [hi] at hf
      cases hf
  · obtain ⟨t', hm, -⟩ := markDelivered_writable ht.holds ⟨ht.guards, hw⟩ ids
    exact ⟨_, t', hm⟩
  · obtain ⟨t', he, -⟩ := eraseAll_writable ht.holds ⟨ht.guards, hw⟩
    exact ⟨t', he⟩

/-- Two events, of which the first is delivered; everything is erased, the store is opened anew, and
another event comes. -/
def erasedBetween : List Call :=
  [.append default, .append default, .markDelivered [1], .installationId "first", .eraseAll,
    .reopen false, .append default, .installationId "second"]

/-- In `erasedBetween` the last event gets a number beyond the second one, it is the only one that
is told of afterwards, and the second name that was offered is not taken. -/
theorem told_by_history_erasedBetween :
    ∃ t, Reached (Store.inMemory.migrate.2.history erasedBetween) t ∧
      t.recent 5 = .ok [⟨3, .pending, default⟩] ∧ (2 : RecordId) < 3 ∧
      ∀ name, (⟨.installationId "second", .ok name⟩ : Entry) ∈
        Store.inMemory.migrate.2.history erasedBetween → name = "first" := by
  have hr : Reached (Store.inMemory.migrate.2.history erasedBetween)
      (Store.inMemory.migrate.2.after erasedBetween) :=
    ⟨Store.inMemory, _, erasedBetween, by decide, rfl, rfl, rfl⟩
  have named : (⟨.installationId "first", .ok "first"⟩ : Entry) ∈
      Store.inMemory.migrate.2.history erasedBetween := List.mem_of_getElem? (i := 3) rfl
  obtain ⟨-, numbers, -, names, -⟩ := told_by_history hr
  refine ⟨_, hr, rfl, ?_, fun name hname => names _ hname _ named _ _ rfl rfl⟩
  have second : (Store.inMemory.migrate.2.history erasedBetween)[1]? =
      some ⟨.append default, .ok (2 : Int)⟩ := rfl
  have third : (Store.inMemory.migrate.2.history erasedBetween)[6]? =
      some ⟨.append default, .ok (3 : Int)⟩ := rfl
  obtain ⟨hi, hx⟩ := List.getElem?_eq_some_iff.mp second
  obtain ⟨hj, hy⟩ := List.getElem?_eq_some_iff.mp third
  have before := List.pairwise_iff_getElem.mp numbers 1 6 hi hj (by decide)
  rw [hx, hy] at before
  exact before 2 default 3 default ⟨rfl, rfl⟩ ⟨rfl, rfl⟩

end Outbox.Store
