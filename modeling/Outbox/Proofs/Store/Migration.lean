import Outbox.Proofs.Store.History
import Outbox.Store.Tamper

/-!
# Migrations

The version of a database decides what a migration does with it: it is kept as it is, refused, or
made anew without its records (`migrate_exact`). Whatever was decided is decided in the same way
when the migration is repeated, and a store that was let in misses none of its tables from then on.

Numbers begin at one again when a database is made anew, unless the database counts some as given
already.
-/

namespace Outbox

/-! ### Faults over a table that is missing -/

/-- The result is not the fault that a table is missing. -/
def Served {α : Type} (r : Except DatabaseFault α) : Prop := ∀ name, r ≠ .error (.noTable name)

section Served

variable {α β : Type} {x : Except DatabaseFault α}

@[simp] theorem served_ok (a : α) : Served (.ok a : Except DatabaseFault α) := by
  intro name h
  cases h

theorem Served.error {fault : DatabaseFault} (h : ∀ name, fault ≠ .noTable name) :
    Served (.error fault : Except DatabaseFault α) := by
  intro name eq
  cases eq
  exact h name rfl

theorem Served.bind {f : α → Except DatabaseFault β} (h : Served x) (hf : ∀ a, Served (f a)) :
    Served (x >>= f) := by
  cases x with
  | error fault =>
    intro name eq
    cases eq
    exact h name rfl
  | ok a => exact hf a

theorem Served.map (f : α → β) (h : Served x) : Served (x.map f) := by
  cases x with
  | error fault =>
    intro name eq
    cases eq
    exact h name rfl
  | ok a => exact served_ok (f a)

theorem Served.mapM {f : α → Except DatabaseFault β} (h : ∀ a, Served (f a)) (as : List α) :
    Served (as.mapM f) := by
  induction as with
  | nil => exact served_ok []
  | cons a as ih =>
    rw [List.mapM_cons]
    exact (h a).bind fun b => ih.bind fun bs => served_ok (b :: bs)

end Served

/-! ### Reading rows -/

namespace Row

variable (r : Row) (c : Column)

theorem served_text : Served (r.text c) := by
  unfold text
  split
  · exact served_ok _
  · exact .error nofun

theorem served_integer (least greatest : Int) : Served (r.integer c least greatest) := by
  unfold integer
  split
  · split
    · exact served_ok _
    · exact .error nofun
  · exact .error nofun

theorem served_number : Served (r.number c) := by
  unfold number
  split
  · exact served_ok _
  · exact served_ok _
  · exact .error nofun

theorem served_optional {α : Type} {read : Row → Column → Except DatabaseFault α}
    (h : ∀ r c, Served (read r c)) : Served (optional read r c) := by
  unfold optional
  split
  · exact served_ok none
  · exact (h r c).map some

theorem served_state : Served r.state := by
  refine (r.served_text .deliveryState).bind fun word => ?_
  split
  · exact served_ok _
  · exact .error nofun

theorem served_toRecord : Served r.toRecord := by
  have port (r : Row) (c : Column) : Served (r.port c) := (r.served_integer c _ _).map _
  have int64 (c : Column) : Served (r.int64 c) := (r.served_integer c _ _).map _
  have int32 (c : Column) : Served (r.int32 c) := (r.served_integer c _ _).map _
  have text? (c : Column) : Served (optional text r c) := r.served_optional c served_text
  have number? (c : Column) : Served (optional number r c) := r.served_optional c served_number
  have port? (c : Column) : Served (optional Row.port r c) := r.served_optional c port
  unfold toRecord
  refine (number? _).bind fun latitude => (number? _).bind fun longitude => ?_
  refine (text? _).bind fun method => (text? _).bind fun path => r.served_state.bind fun state => ?_
  -- the host is read only where there are a method and a path
  rcases method with _ | method <;> rcases path with _ | path
  all_goals
    repeat
      refine Served.bind ?_ fun _ => ?_
      · first
        | exact r.served_text _
        | exact text? _
        | exact int32 _
        | exact int64 _
        | exact port? _
        | exact served_ok _
    exact served_ok _

end Row

theorem served_recordsOf (rows : List Row) : Served (Store.recordsOf rows) :=
  .mapM Row.served_toRecord rows

/-! ### Changing tables -/

namespace Table

variable (t : Table)

theorem served_insert (e : Event) : Served (t.insert e) := by
  unfold insert
  split
  · exact .error nofun
  · split
    · exact .error nofun
    · exact served_ok _

theorem served_deliver (id : RecordId) : Served (t.deliver id) := by
  unfold deliver
  split
  · split
    · exact .error nofun
    · exact served_ok _
  · exact served_ok _

theorem served_deliverAll (ids : List RecordId) : Served (t.deliverAll ids) := by
  induction ids generalizing t with
  | nil => exact served_ok _
  | cons id ids ih =>
    exact (t.served_deliver id).bind fun r => (ih r.2).bind fun _ => served_ok _

theorem served_clear : Served t.clear := by
  unfold clear
  split
  · exact .error nofun
  · exact served_ok _

end Table

namespace Events

variable {events events' : Events}

/-- Something stands in the place of the table of events. -/
def Present (events : Events) : Prop := events ≠ .missing

theorem Present.full (h : events.Present) : Served events.full := by
  cases events with
  | missing => exact absurd rfl h
  | table t => exact served_ok t
  | _ => exact .error nofun

theorem Present.total (h : events.Present) : Served events.total := by
  cases events with
  | missing => exact absurd rfl h
  | _ => exact served_ok _

theorem Present.pendingCount (h : events.Present) : Served events.pendingCount := by
  cases events with
  | missing => exact absurd rfl h
  | legacy row guards => exact .error nofun
  | _ => exact served_ok _

theorem Present.insert (h : events.Present) (e : Event) : Served (events.insert e) := by
  cases events with
  | missing => exact absurd rfl h
  | table t => exact (t.served_insert e).map _
  | _ => exact .error nofun

theorem Present.deliverAll (h : events.Present) (ids : List RecordId) :
    Served (events.deliverAll ids) := by
  cases events with
  | missing => exact absurd rfl h
  | table t => exact (t.served_deliverAll ids).map _
  | _ => exact .error nofun

theorem Present.clear (h : events.Present) : Served events.clear := by
  cases events with
  | missing => exact absurd rfl h
  | table t => exact t.served_clear.map _
  | legacy row guards =>
    unfold Events.clear
    dsimp only
    split
    · exact .error nofun
    · exact served_ok _
  | view => exact .error nofun

theorem present_insert {e : Event} {id : RecordId} (h : events.insert e = .ok (id, events')) :
    events'.Present := by
  cases events with
  | table t =>
    obtain ⟨r, -, eq⟩ := map_eq_ok.mp h
    cases eq
    exact nofun
  | _ => cases h

theorem present_deliverAll {ids : List RecordId} {n : Nat}
    (h : events.deliverAll ids = .ok (n, events')) : events'.Present := by
  cases events with
  | table t =>
    obtain ⟨r, -, eq⟩ := map_eq_ok.mp h
    cases eq
    exact nofun
  | _ => cases h

theorem present_clear (h : events.clear = .ok events') : events'.Present := by
  cases events with
  | table t =>
    obtain ⟨u, -, eq⟩ := map_eq_ok.mp h
    cases eq
    exact nofun
  | legacy row guards =>
    unfold clear at h
    dsimp only at h
    split at h
    · cases h
    · cases h
      exact nofun
  | _ => cases h

end Events

/-! ### Stores that miss nothing -/

/-- The database has the current schema, and none of its tables is missing. -/
structure Database.Complete (d : Database) : Prop where
  current : d.version = currentVersion
  events : d.events.Present
  settings : ∃ name?, d.settings = some name?

namespace Store

variable {s : Store}

/-- Nobody has failed while holding the store, no transaction is open on it, and its database misses
no table. -/
structure Complete (s : Store) : Prop where
  usable : s.poisoned = false
  settled : s.saved = none
  live : s.live.Complete

/-- The result is no failure, or one of a database that misses no table. -/
def Serves {α : Type} (r : Except StoreFault α) : Prop :=
  ∀ fault, r = .error fault → ∃ e, fault = .database e ∧ ∀ name, e ≠ .noTable name

theorem serves_ok {α : Type} (a : α) : Serves (.ok a) := by
  intro fault h
  cases h

theorem serves_error {α : Type} {e : DatabaseFault} (h : ∀ name, e ≠ .noTable name) :
    Serves (.error (.database e) : Except StoreFault α) := by
  intro fault eq
  cases eq
  exact ⟨e, rfl, h⟩

theorem Complete.read {α : Type} {f : Database → Except DatabaseFault α} (h : s.Complete)
    (served : Served (f s.live)) : Serves (s.read f) := by
  unfold Store.read
  rw [h.usable]
  cases hf : f s.live with
  | ok a => exact serves_ok a
  | error e =>
    rw [hf] at served
    exact serves_error fun name eq => served name (by rw [eq])

theorem Complete.write {α : Type} {f : Database → Except DatabaseFault (α × Database)}
    (h : s.Complete) (served : Served (f s.live))
    (keeps : ∀ a d, f s.live = .ok (a, d) → d.Complete) :
    Serves (s.write f).1 ∧ (s.write f).2.Complete := by
  cases hf : f s.live with
  | error e =>
    rw [hf] at served
    simp only [Store.write, h.usable, hf, Bool.false_eq_true, if_false]
    exact ⟨serves_error fun name eq => served name (by rw [eq]), h⟩
  | ok r =>
    simp only [Store.write, h.usable, hf, Bool.false_eq_true, if_false]
    split
    · exact ⟨serves_error (by simp), h⟩
    · exact ⟨serves_ok r.1, rfl, h.settled, keeps r.1 r.2 hf⟩

/-- A change of the events alone leaves no table missing if it leaves something in their place. -/
theorem Complete.change {α : Type} {f : Events → Except DatabaseFault (α × Events)}
    (h : s.Complete) (served : Served (f s.live.events))
    (present : ∀ a events, f s.live.events = .ok (a, events) → events.Present) :
    Serves (s.write fun d => (f d.events).map fun (a, events) => (a, { d with events })).1 ∧
      (s.write fun d => (f d.events).map fun (a, events) => (a, { d with events })).2.Complete := by
  refine h.write (served.map _) fun a d hd => ?_
  obtain ⟨r, hf, eq⟩ := map_eq_ok.mp hd
  cases eq
  exact ⟨h.live.current, present r.1 r.2 hf, h.live.settings⟩

theorem Complete.append (h : s.Complete) (e : Event) :
    Serves (s.append e).1 ∧ (s.append e).2.Complete := by
  have written := h.change (h.live.events.insert e) fun _ _ => Events.present_insert
  unfold Store.append
  generalize s.write _ = result at written
  split
  · refine ⟨serves_error nofun, ?_⟩
    split
    · exact written.2
    · rw [undone_eq written.2.settled]
      exact written.2
  · exact written

theorem Complete.markDelivered (h : s.Complete) (ids : List RecordId) :
    Serves (s.markDelivered ids).1 ∧ (s.markDelivered ids).2.Complete := by
  unfold Store.markDelivered
  rw [h.settled]
  split
  · exact ⟨serves_ok 0, h⟩
  · exact h.change (h.live.events.deliverAll ids) fun _ _ => Events.present_deliverAll

theorem Complete.eraseAll (h : s.Complete) : Serves s.eraseAll.1 ∧ s.eraseAll.2.Complete := by
  refine h.write (h.live.events.clear.map _) fun a d hd => ?_
  obtain ⟨events, hf, eq⟩ := map_eq_ok.mp hd
  cases eq
  exact ⟨h.live.current, Events.present_clear hf, h.live.settings⟩

theorem Complete.installationId (h : s.Complete) (fresh : String) :
    Serves (s.installationId fresh).1 ∧ (s.installationId fresh).2.Complete := by
  obtain ⟨name?, settings⟩ := h.live.settings
  have there : s.read (fun d => d.installation) = .ok name? := by
    simp only [Store.read, h.usable, Database.installation, settings, Bool.false_eq_true, if_false]
  unfold Store.installationId
  rw [there]
  cases name? with
  | some name => exact ⟨serves_ok name, h⟩
  | none =>
    refine h.write (served_ok _) fun a d hd => ?_
    cases hd
    exact ⟨h.live.current, h.live.events, some fresh, rfl⟩

/-- A store with the current schema is let in again. -/
theorem Complete.reopened (h : s.Complete) (readOnly : Bool) :
    s.reopened readOnly = (.ok (), { s with readOnly }) := by
  obtain ⟨live, saved, poisoned, medium⟩ := s
  obtain ⟨usable, settled, complete⟩ := h
  cases usable
  cases settled
  have current : live.version = Database.currentVersion := complete.current
  simp [Store.reopened, migrate, ofDatabase, close, current]

/-- No call fails over a missing table, nor makes a table go missing. -/
theorem Complete.call (h : s.Complete) (c : Call) :
    Serves (s.call c).1 ∧ (s.call c).2.Complete := by
  have rows (f : Table → List Row) :
      Served (s.live.events.full >>= fun t => recordsOf (f t)) :=
    h.live.events.full.bind fun t => served_recordsOf (f t)
  cases c with
  | append e => exact h.append e
  | markDelivered ids => exact h.markDelivered ids
  | eraseAll => exact h.eraseAll
  | selectPending limit =>
    have selected : Serves (s.selectPending limit) := by
      unfold Store.selectPending
      split
      · exact serves_ok []
      · exact h.read (rows _)
    exact ⟨selected, h⟩
  | recent limit =>
    have recent : Serves (s.recent limit) := h.read (rows _)
    exact ⟨recent, h⟩
  | get id =>
    have got : Serves (s.get? id) := by
      refine h.read (h.live.events.full.bind fun t => ?_)
      split
      · exact served_ok none
      · exact (Row.served_toRecord _).bind fun r => served_ok (some r)
    exact ⟨got, h⟩
  | countPending =>
    have counted : Serves s.countPending := h.read h.live.events.pendingCount
    exact ⟨counted, h⟩
  | countTotal =>
    have counted : Serves s.countTotal := h.read h.live.events.total
    exact ⟨counted, h⟩
  | stats =>
    have counted : Serves s.stats := h.read (h.live.events.pendingCount.bind fun n =>
      h.live.events.total.bind fun m => served_ok _)
    exact ⟨counted, h⟩
  | installationId fresh => exact h.installationId fresh
  | reopen readOnly =>
    show Serves (s.reopened readOnly).1 ∧ (s.reopened readOnly).2.Complete
    rw [h.reopened]
    exact ⟨serves_ok (), h.usable, h.settled, h.live⟩

theorem Complete.after (h : s.Complete) (calls : List Call) : (s.after calls).Complete := by
  induction calls generalizing s with
  | nil => exact h
  | cons c calls ih => exact ih (h.call c).2

/-! ### What a migration does -/

/-- The store has the current schema and holds nothing, neither records nor a name. The first number
that it gives comes after those that count as given. -/
structure Fresh (s : Store) (given : Int) : Prop where
  version : s.schemaVersion = .ok Database.currentVersion
  records : s.contents = .ok []
  unnamed : ∀ fresh, (s.installationId fresh).1 = .ok fresh
  numbers : ∀ e, (s.append e).1 =
    if given = Table.greatestId then .error (.database .full) else .ok (max 1 (given + 1))

theorem nextId_empty (given : Int) : ({ sequence := given } : Table).nextId? =
    if given = Table.greatestId then none else some (max 1 (given + 1)) := by
  have first : ({ sequence := given } : Table).lastId = 0 := rfl
  have below : (0 : Int) ≠ Table.greatestId := by decide
  simp [Table.nextId?, first, below]

theorem fresh_renewed (d : Database) : (ofDatabase d.renewed).Fresh (d.counterLeft.getD 0) where
  version := rfl
  records := rfl
  unnamed _ := rfl
  numbers e := by
    have events : d.renewed.events = .table { sequence := d.counterLeft.getD 0 } := rfl
    have next := nextId_empty (d.counterLeft.getD 0)
    by_cases full : d.counterLeft.getD 0 = Table.greatestId
    · rw [if_pos full, full] at next
      simp [append, write, ofDatabase, events, Events.insert, Table.insert, next, Except.map, full]
    · rw [if_neg full] at next
      simp [append, write, ofDatabase, events, Events.insert, Table.insert, next, Except.map, full]

/-- How the migration of a database ends: with a result, and a store. -/
inductive Migrated (d : Database) : Except StoreFault Unit → Store → Prop where
  /-- The schema is the current one: nothing changes. -/
  | current (version : d.version = Database.currentVersion) : Migrated d (.ok ()) (.ofDatabase d)
  /-- The schema is a newer one: nothing changes. -/
  | newer (version : Database.currentVersion < d.version) :
    Migrated d (.error (.unavailable (.newerSchema d.version Database.currentVersion)))
      (.ofDatabase d)
  /-- The schema is an older one: everything is dropped. -/
  | renewed {s : Store} (version : d.version < Database.currentVersion)
      (table : d.events ≠ .view) (fresh : s.Fresh (d.counterLeft.getD 0)) :
    Migrated d (.ok ()) s
  /-- There is no table to drop, but a view: nothing changes for those who come later. -/
  | blocked {s : Store} (version : d.version < Database.currentVersion) (view : d.events = .view)
      (left : s.close = d) :
    Migrated d (.error (.database (.viewNotDroppable Database.eventsName))) s

variable {d : Database}

/-- A migration with the current schema, or a newer one, changes nothing. -/
theorem migrate_of_current (h : d.version = Database.currentVersion) (readOnly : Bool) :
    migrate { ofDatabase d with readOnly } = (.ok (), { ofDatabase d with readOnly }) := by
  simp [migrate, ofDatabase, h]

theorem migrate_of_newer (h : Database.currentVersion < d.version) (readOnly : Bool) :
    migrate { ofDatabase d with readOnly } =
      (.error (.unavailable (.newerSchema d.version Database.currentVersion)),
        { ofDatabase d with readOnly }) := by
  have other : d.version ≠ Database.currentVersion := by omega
  simp [migrate, ofDatabase, h, other]

theorem migrate_of_view (h : d.version < Database.currentVersion) (view : d.events = .view)
    (readOnly : Bool) : migrate { ofDatabase d with readOnly } =
      (.error (.database (.viewNotDroppable Database.eventsName)),
        { ofDatabase d with saved := some d, readOnly }) := by
  have other : d.version ≠ Database.currentVersion := by omega
  have older : ¬ Database.currentVersion < d.version := by omega
  simp [migrate, ofDatabase, other, older, view]

theorem migrate_of_older (h : d.version < Database.currentVersion) (table : d.events ≠ .view) :
    (ofDatabase d).migrate = (.ok (), ofDatabase d.renewed) := by
  have other : d.version ≠ Database.currentVersion := by omega
  have older : ¬ Database.currentVersion < d.version := by omega
  cases events : d.events with
  | view => exact absurd events table
  | _ => simp [migrate, ofDatabase, other, older, events]

theorem complete_renewed (d : Database) : (ofDatabase d.renewed).Complete where
  usable := rfl
  settled := rfl
  live := ⟨rfl, nofun, none, rfl⟩

/-- What becomes of a database is decided by its version. A migration that is repeated, at once or
after the store was closed and opened again, has the same result and changes nothing more. After a
success no call fails over a missing table, whatever was called before. -/
theorem migrate_exact (d : Database) :
    Migrated d (ofDatabase d).migrate.1 (ofDatabase d).migrate.2 ∧
    (Database.currentVersion ≤ d.version ∨ d.events ≠ .view →
      (ofDatabase d).migrate.2.migrate = (ofDatabase d).migrate) ∧
    (∀ readOnly, (ofDatabase d).migrate.2.reopened readOnly =
      ((ofDatabase d).migrate.1, { (ofDatabase d).migrate.2 with readOnly })) ∧
    ((ofDatabase d).migrate.1 = .ok () →
      (d.version = Database.currentVersion → d.events ≠ .missing ∧ d.settings ≠ none) →
      ∀ calls c, Serves ((((ofDatabase d).migrate.2.after calls).call c).1)) := by
  rcases Int.lt_trichotomy d.version Database.currentVersion with older | current | newer
  · by_cases view : d.events = .view
    · have blocked := migrate_of_view older view
      rw [show (ofDatabase d).migrate = _ from blocked false]
      refine ⟨.blocked older view rfl, ?_, fun readOnly => blocked readOnly, fun success => ?_⟩
      · rintro (current | table)
        · omega
        · exact absurd view table
      · cases success
    · have again (readOnly : Bool) := migrate_of_current (d := d.renewed) rfl readOnly
      rw [migrate_of_older older view]
      exact ⟨.renewed older view (fresh_renewed d), fun _ => again false, again,
        fun _ _ calls c => ((complete_renewed d).after calls |>.call c).1⟩
  · have kept := migrate_of_current current
    rw [show (ofDatabase d).migrate = _ from kept false]
    refine ⟨.current current, fun _ => kept false, kept, fun _ tables calls c => ?_⟩
    have complete : (ofDatabase d).Complete := by
      obtain ⟨events, settings⟩ := tables current
      exact ⟨rfl, rfl, current, events, Option.ne_none_iff_exists'.mp settings⟩
    exact (complete.after calls |>.call c).1
  · have refused := migrate_of_newer newer
    rw [show (ofDatabase d).migrate = _ from refused false]
    exact ⟨.newer newer, fun _ => refused false, refused, nofun⟩

/-- The events are dropped behind the back of the store, a hundred numbers are put down as given, and
the schema is called an older one. -/
def numbered : Store :=
  let dropped := ((inMemory.migrate.2.append default).2.tamper .dropEvents).2
  ((dropped.tamper (.setSequence 100)).2.tamper (.setVersion 1)).2

/-- The numbers do not begin at one after the migration of `numbered`. -/
theorem append_numbered : numbered = ofDatabase numbered.live ∧
    numbered.live.version < Database.currentVersion ∧ numbered.live.events = .missing ∧
    numbered.migrate.1 = .ok () ∧ (numbered.migrate.2.append default).1 = .ok 101 := by
  have older : numbered.live.version = 1 := rfl
  refine ⟨rfl, ?_, rfl, rfl, rfl⟩
  rw [older]
  decide

end Store

end Outbox
