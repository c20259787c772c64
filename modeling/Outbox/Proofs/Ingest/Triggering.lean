import Outbox.Proofs.Background.Cancellation
import Outbox.Proofs.Fleet.Retrying
import Outbox.Proofs.Ingest.Importing

/-!
# When recording triggers an attempt

Events are recorded while attempts run in the background and records are erased. An event that is
recorded triggers an attempt exactly if it brings the count of pending records to a multiple of the
threshold, and one that is refused triggers none (`trigger_exact`). So as many attempts are
triggered as multiples are passed, and what is recorded is the same whether or not that happens.
-/

namespace Outbox

/-- How many triggers have come. -/
def Scheduler.triggers (s : Scheduler) : Nat := s.scheduled + s.skipped

theorem Scheduler.triggers_trigger (s : Scheduler) : s.trigger.2.triggers = s.triggers + 1 := by
  unfold triggers trigger
  split <;> simp <;> omega

/-! ### One event -/

namespace Store

variable {s s' : Store} {e : Event} {id : RecordId}

theorem append_usable (h : s.append e = (.ok id, s')) : s.poisoned = false := by
  by_contra poisoned
  rw [Bool.not_eq_false] at poisoned
  simp [append, write, poisoned] at h

/-- After an event was appended, the records are counted, and there is one more that is pending. -/
theorem countPending_append (h : s.append e = (.ok id, s')) :
    ∃ p, s.countPending = .ok p ∧ s'.countPending = .ok (p + 1) ∧ s'.saved = s.saved := by
  have usable := append_usable h
  rcases s.append_result e with ⟨fault, ha⟩ | ⟨-, ha⟩ | ⟨id', t, u, ht, hi, ha⟩
  · rw [ha] at h
    cases h
  · rw [ha] at h
    cases h
  · rw [ha] at h
    cases h
    obtain ⟨rfl, -⟩ := Table.insert_ok hi
    have one : [Row.ofEvent id e].countP Row.isPending = 1 := by
      rw [Row.ofEvent_eq, List.countP_singleton, Row.isPending_ofRecord]
      rfl
    refine ⟨t.pendingCount, read_eq_ok.mpr ⟨usable, by rw [ht]; rfl⟩,
      read_eq_ok.mpr ⟨usable, ?_⟩, rfl⟩
    simp only [withTable, Events.pendingCount, Table.pendingCount, List.countP_append, one]

end Store

namespace Ingestor

theorem isDue_succ (T n : Nat) : isDue T (n + 1) = decide (max T 1 ∣ n + 1) := by
  simp [isDue, Nat.dvd_iff_mod_eq_zero]

variable {i : Ingestor} {T : Nat} {e : Event} {t t' : Target} {id : RecordId} {fault : StoreFault}

/-- An event that is refused triggers nothing. -/
theorem record_refused (h : i.record e t = (.error fault, t')) : t'.scheduler = t.scheduler := by
  unfold record at h
  split at h
  · cases h
    rfl
  · cases h

/-- An event that is recorded triggers an attempt if the pending records are then a multiple of the
threshold. -/
theorem record_recorded (threshold : i.threshold = some T) (h : i.record e t = (.ok id, t')) :
    ∃ p, t.store.countPending = .ok p ∧ t'.store.countPending = .ok (p + 1) ∧
      t'.store.saved = t.store.saved ∧
      t'.scheduler = if max T 1 ∣ p + 1 then t.scheduler.trigger.2 else t.scheduler := by
  unfold record at h
  split at h
  · cases h
  · next store ha =>
    cases h
    obtain ⟨p, before, after, saved⟩ := Store.countPending_append ha
    refine ⟨p, before, after, saved, ?_⟩
    simp only [trigger, threshold, after, isDue_succ, decide_eq_true_eq]

end Ingestor

/-! ### Attempts in the background -/

namespace Background

variable {γ : Type} [CredentialGate γ] (b : Background γ) (i : Nat)

theorem begin_store : (b.begin i).site.store = b.site.store := by
  unfold Background.begin
  split
  · rfl
  · split <;> rfl
  · rfl

/-- An attempt that ends without a success leaves the store. -/
theorem finish_store {outcome : Outcome}
    (fails : ∀ attempt, b.scheduler.tasks[i]? = some ⟨.sending attempt, false⟩ →
      ∀ n, (attempt.finish outcome b.site.gate b.site.store).1 ≠ .success n) :
    (b.finish i outcome).site.store = b.site.store := by
  unfold Background.finish
  split
  · rfl
  · next attempt sending => exact Attempt.finish_store (fails attempt sending)
  · rfl

end Background

/-- Whatever happens in the background leaves the store, unless an attempt ends with a success or
others change the site. -/
theorem Service.step_store {γ : Type} [CredentialGate γ] {s : Service γ} {move : Service.Move γ}
    (own : ∀ site, move ≠ .work site)
    (fails : ∀ i n, s.scheduler.report? i = none →
      (s.step move).scheduler.report? i ≠ some (.success n)) :
    (s.step move).background.site.store = s.background.site.store := by
  cases move with
  | wake k =>
    simp only [step]
    split
    · rfl
    · split <;> rfl
  | begin i => exact s.background.begin_store i
  | finish i outcome =>
    refine s.background.finish_store i fun attempt sending n success => ?_
    have before : s.scheduler.report? i = none := by simp [Scheduler.report?, scheduler, sending]
    refine fails i n before ?_
    simp [step, Background.finish, Background.report, scheduler, sending, Scheduler.report?,
      Scheduler.endTask, Scheduler.modifyTask, success]
  | breakDown i => exact congrArg Site.store (s.background.breakDown_site i)
  | work site => exact absurd rfl (own site)
  | _ => rfl

/-! ### Histories -/

/-- Where events are recorded while attempts run in the background. -/
structure Recording (γ : Type) where
  ingestor : Ingestor
  service : Service γ
  location : LastLocation := {}

namespace Recording

/-- What can happen next. -/
inductive Move (γ : Type) where
  | record (e : Event)
  /-- A position is told. -/
  | locate (p : GeoPoint)
  /-- The last known position is forgotten. -/
  | forget
  | erase
  /-- An attempt in the background begins or ends, or others act on the scheduler or the site. -/
  | background (move : Service.Move γ)

/-- What the capture of events does, without what happens in the background. -/
inductive Capture where
  | record (e : Event)
  | locate (p : GeoPoint)
  | forget

/-- The move as one of the capture of events. -/
def Move.capture? {γ : Type} : Move γ → Option Capture
  | .record e => some (.record e)
  | .locate p => some (.locate p)
  | .forget => some .forget
  | .erase | .background _ => none

/-- What the capture tells and the store after it, for events that go into a store and nothing
else. -/
def captured (located : Bool) (store : Store) (location : LastLocation) :
    List Capture → List (Except StoreFault RecordId) × Store
  | [] => ([], store)
  | .record e :: rest =>
    let appended := store.append (e.prepared (if located then location.point else none))
    let after := captured located appended.2 location rest
    (appended.1 :: after.1, after.2)
  | .locate p :: rest => captured located store (location.update p) rest
  | .forget :: rest => captured located store location.clear rest

variable {γ : Type}

def store (r : Recording γ) : Store := r.service.background.site.store

def scheduler (r : Recording γ) : Scheduler := r.service.scheduler

/-- Where the next event is recorded. -/
def target (r : Recording γ) : Ingestor.Target where
  store := r.store
  scheduler := r.scheduler
  location := r.location

/-- The recording with another store. -/
def withStore (r : Recording γ) (store : Store) : Recording γ :=
  let background := r.service.background
  { r with service :=
      { r.service with background := { background with site := { background.site with store } } } }

/-- The recording after an event was recorded in this way. -/
def withTarget (r : Recording γ) (t : Ingestor.Target) : Recording γ :=
  { r.withStore t.store with
    service := (r.withStore t.store).service.withScheduler t.scheduler
    location := t.location }

@[simp] theorem store_withTarget (r : Recording γ) (t : Ingestor.Target) :
    (r.withTarget t).store = t.store := rfl

@[simp] theorem scheduler_withTarget (r : Recording γ) (t : Ingestor.Target) :
    (r.withTarget t).scheduler = t.scheduler := rfl

/-- What the recording of an event tells. -/
def result? (r : Recording γ) : Move γ → Option (Except StoreFault RecordId)
  | .record e => some (r.ingestor.record e r.target).1
  | _ => none

variable [CredentialGate γ]

/-- One move. -/
def step (r : Recording γ) : Move γ → Recording γ
  | .record e => r.withTarget (r.ingestor.record e r.target).2
  | .locate p => { r with location := r.location.update p }
  | .forget => { r with location := r.location.clear }
  | .erase => r.withStore r.store.eraseAll.2
  | .background move => { r with service := r.service.step move }

/-- A history of moves. -/
def run (r : Recording γ) (moves : List (Move γ)) : Recording γ := moves.foldl step r

/-- How many triggers come of a move that records an event. -/
def fired (r : Recording γ) (move : Move γ) : Nat :=
  if (r.result? move).isSome then (r.step move).scheduler.triggers - r.scheduler.triggers else 0

/-- The count of pending records after a move that has recorded an event. -/
def count? (r : Recording γ) (move : Move γ) : Option Nat :=
  (r.result? move).bind fun result =>
    result.toOption.bind fun _ => (r.step move).store.countPending.toOption

/-- What the records of a history tell. -/
def results (r : Recording γ) : List (Move γ) → List (Except StoreFault RecordId)
  | [] => []
  | move :: moves => (r.result? move).toList ++ (r.step move).results moves

/-- The counts of pending records, after each event of a history that was recorded. -/
def counts (r : Recording γ) : List (Move γ) → List Nat
  | [] => []
  | move :: moves => (r.count? move).toList ++ (r.step move).counts moves

/-- How many triggers come of the events of a history. -/
def firings (r : Recording γ) : List (Move γ) → Nat
  | [] => 0
  | move :: moves => r.fired move + (r.step move).firings moves

/-- How many events of a history were recorded. -/
def recorded (r : Recording γ) (moves : List (Move γ)) : Nat :=
  (r.results moves).countP Except.isOk

/-- A history in which nothing but the recording of events changes the store: nothing is erased or
delivered. -/
def Quiet (r : Recording γ) : List (Move γ) → Prop
  | [] => True
  | move :: moves =>
    (r.result? move = none → (r.step move).store = r.store) ∧ (r.step move).Quiet moves

/-! ### One move -/

variable {r : Recording γ} {move : Move γ} {moves : List (Move γ)} {e : Event} {T p : Nat}

theorem ingestor_step (r : Recording γ) (move : Move γ) : (r.step move).ingestor = r.ingestor := by
  cases move <;> rfl

theorem threshold_step (threshold : r.ingestor.threshold = some T) (move : Move γ) :
    (r.step move).ingestor.threshold = some T := by
  rw [ingestor_step, threshold]

/-- All that recording an event can do: it is refused, and at most an open transaction is undone, or
there is one more pending record, and an attempt is triggered if this makes a multiple of the
threshold. -/
theorem record_cases (threshold : r.ingestor.threshold = some T) (e : Event) :
    (∃ fault, r.result? (.record e) = some (.error fault) ∧
      (r.step (.record e)).scheduler = r.scheduler ∧
      ((r.step (.record e)).store = r.store ∨
        r.store.saved ≠ none ∧ (r.step (.record e)).store.saved = none)) ∨
    ∃ id p, r.result? (.record e) = some (.ok id) ∧ r.store.countPending = .ok p ∧
      (r.step (.record e)).store.countPending = .ok (p + 1) ∧
      (r.step (.record e)).store.saved = r.store.saved ∧
      (r.step (.record e)).scheduler =
        if max T 1 ∣ p + 1 then r.scheduler.trigger.2 else r.scheduler := by
  simp only [result?, step, store_withTarget, scheduler_withTarget]
  rcases hr : r.ingestor.record e r.target with ⟨fault | id, t⟩
  · refine .inl ⟨fault, rfl, Ingestor.record_refused hr, ?_⟩
    rcases (Ingestor.record_error hr).1 with same | ⟨opened, undone, -⟩
    · exact .inl same
    · exact .inr ⟨opened, by rw [undone]; rfl⟩
  · obtain ⟨p, counted⟩ := Ingestor.record_recorded threshold hr
    exact .inr ⟨id, p, rfl, counted⟩

/-- What is told of an event, and what is stored of it, depend on the store and the last known
position only. -/
theorem record_eq (r : Recording γ) (e : Event) :
    let appended :=
      r.store.append (e.prepared (if r.ingestor.located then r.location.point else none))
    r.result? (.record e) = some appended.1 ∧ (r.step (.record e)).store = appended.2 ∧
      (r.step (.record e)).location = r.location := by
  simp only [result?, step, Ingestor.record, target]
  rcases r.store.append _ with ⟨fault | id, store⟩ <;> exact ⟨rfl, rfl, rfl⟩

/-- One trigger comes of a move exactly if it records an event and leaves a multiple of the
threshold. -/
theorem fired_eq (threshold : r.ingestor.threshold = some T) (move : Move γ) :
    r.fired move = (r.count? move).toList.countP fun n => decide (max T 1 ∣ n) := by
  cases move with
  | record e =>
    rcases record_cases threshold e with
      ⟨fault, told, scheduler, -⟩ | ⟨id, p, told, -, after, -, scheduler⟩
    · simp [fired, count?, told, scheduler, Except.toOption]
    · by_cases due : max T 1 ∣ p + 1
      · simp [fired, count?, told, scheduler, after, due, Except.toOption,
          Scheduler.triggers_trigger]
      · simp [fired, count?, told, scheduler, after, due, Except.toOption]
  | _ => rfl

/-- In a quiet history a move undoes the open transaction, or the pending records grow by what it
records, and it triggers as often as that passes a multiple of the threshold. -/
theorem quiet_step (threshold : r.ingestor.threshold = some T)
    (calm : r.result? move = none → (r.step move).store = r.store)
    (counted : r.store.countPending = .ok p) :
    (r.store.saved ≠ none ∧ (r.step move).store.saved = none) ∨
      ∃ n, n = (r.result? move).toList.countP Except.isOk ∧
        (r.step move).store.countPending = .ok (p + n) ∧
        (r.step move).store.saved = r.store.saved ∧
        r.fired move + p / max T 1 = (p + n) / max T 1 := by
  cases told : r.result? move with
  | none =>
    refine .inr ⟨0, rfl, ?_, ?_, ?_⟩
    · rw [calm told]
      exact counted
    · rw [calm told]
    · simp [fired, told]
  | some result =>
    cases move with
    | record e =>
      rcases record_cases threshold e with
        ⟨fault, refused, scheduler, same | undone⟩ | ⟨id, p', ok, before, after, saved, scheduler⟩
      · rw [told] at refused
        cases refused
        refine .inr ⟨0, rfl, ?_, ?_, ?_⟩
        · rw [same]
          exact counted
        · rw [same]
        · simp [fired, scheduler]
      · exact .inl undone
      · rw [told] at ok
        cases ok
        rw [counted] at before
        cases before
        refine .inr ⟨1, rfl, after, saved, ?_⟩
        rw [fired_eq threshold, count?, told, Nat.succ_div]
        by_cases due : max T 1 ∣ p + 1
        · simp [after, due, Except.toOption, Nat.add_comm]
        · simp [after, due, Except.toOption]
    | _ => cases told

/-! ### Whole histories -/

theorem firings_eq (threshold : r.ingestor.threshold = some T) (moves : List (Move γ)) :
    r.firings moves = (r.counts moves).countP fun n => decide (max T 1 ∣ n) := by
  induction moves generalizing r with
  | nil => rfl
  | cons move moves ih =>
    rw [firings, counts, List.countP_append, fired_eq threshold,
      ih (threshold_step threshold move)]

/-- Whenever an event is recorded the pending records are counted. -/
theorem length_counts (threshold : r.ingestor.threshold = some T) (moves : List (Move γ)) :
    (r.counts moves).length = r.recorded moves := by
  induction moves generalizing r with
  | nil => rfl
  | cons move moves ih =>
    have rest := ih (threshold_step threshold move)
    have first : (r.count? move).toList.length = (r.result? move).toList.countP Except.isOk := by
      cases move with
      | record e =>
        rcases record_cases threshold e with ⟨fault, told, -⟩ | ⟨id, p, told, -, after, -⟩
        · simp [count?, told, Except.toOption, Except.isOk, Except.toBool]
        · simp [count?, told, after, Except.toOption, Except.isOk, Except.toBool]
      | _ => rfl
    rw [counts, List.length_append, rest, first, recorded, recorded, results, List.countP_append]

/-- In a quiet history no transaction is begun. -/
theorem saved_run (threshold : r.ingestor.threshold = some T) (quiet : r.Quiet moves) :
    (r.run moves).store.saved = r.store.saved ∨ (r.run moves).store.saved = none := by
  induction moves generalizing r with
  | nil => exact .inl rfl
  | cons move moves ih =>
    obtain ⟨calm, quiet⟩ := quiet
    have rest : (r.run (move :: moves)).store.saved = (r.step move).store.saved ∨
        (r.run (move :: moves)).store.saved = none :=
      ih (threshold_step threshold move) quiet
    have first : (r.step move).store.saved = r.store.saved ∨ (r.step move).store.saved = none := by
      cases move with
      | record e =>
        rcases record_cases threshold e with
          ⟨-, -, -, same | ⟨-, none⟩⟩ | ⟨-, -, -, -, -, saved, -⟩
        · exact .inl (congrArg _ same)
        · exact .inr none
        · exact .inl saved
      | _ => exact .inl (congrArg _ (calm rfl))
    rcases rest with same | none
    · rw [same]
      exact first
    · exact .inr none

/-- A quiet history undoes the open transaction, or its pending records grow by what it records, and
it triggers as often as they pass a multiple of the threshold. -/
theorem quiet_run (threshold : r.ingestor.threshold = some T) (quiet : r.Quiet moves)
    (counted : r.store.countPending = .ok p) :
    (r.store.saved ≠ none ∧ (r.run moves).store.saved = none) ∨
      (r.run moves).store.countPending = .ok (p + r.recorded moves) ∧
        r.firings moves + p / max T 1 = (p + r.recorded moves) / max T 1 := by
  induction moves generalizing r p with
  | nil => exact .inr ⟨counted, Nat.zero_add _⟩
  | cons move moves ih =>
    obtain ⟨calm, quiet⟩ := quiet
    have threshold' := threshold_step threshold move
    have final : r.run (move :: moves) = (r.step move).run moves := rfl
    rw [final]
    rcases quiet_step threshold calm counted with
      ⟨opened, closed⟩ | ⟨n, told, counted', saved, fired⟩
    · refine .inl ⟨opened, ?_⟩
      rcases saved_run threshold' quiet with same | none
      · exact same.trans closed
      · exact none
    · rcases ih threshold' quiet counted' with ⟨opened, closed⟩ | ⟨counted'', firings⟩
      · rw [saved] at opened
        exact .inl ⟨opened, closed⟩
      · have recorded : r.recorded (move :: moves) = n + (r.step move).recorded moves := by
          rw [Recording.recorded, results, List.countP_append, told]
          rfl
        rw [recorded, ← Nat.add_assoc, Recording.firings]
        refine .inr ⟨counted'', ?_⟩
        omega

/-- A quiet history tells and stores what the capture alone does. -/
theorem captured_eq (quiet : r.Quiet moves) :
    (r.results moves, (r.run moves).store) =
      captured r.ingestor.located r.store r.location (moves.filterMap Move.capture?) := by
  induction moves generalizing r with
  | nil => rfl
  | cons move moves ih =>
    obtain ⟨calm, quiet⟩ := quiet
    have rest := ih quiet
    have final : r.run (move :: moves) = (r.step move).run moves := rfl
    rw [r.ingestor_step move] at rest
    rw [final, results]
    cases move with
    | record e =>
      obtain ⟨told, stored, same⟩ := r.record_eq e
      rw [stored, same] at rest
      rw [told]
      simp only [List.filterMap_cons, Move.capture?, captured, ← rest]
      rfl
    | locate p => exact rest
    | forget => exact rest
    | erase =>
      rw [calm rfl] at rest
      exact rest
    | background move =>
      rw [calm rfl] at rest
      exact rest

/-- In any state, an event that is recorded triggers an attempt if the pending records are then a
multiple of the threshold, and otherwise nothing is triggered; so in any history there are as many
triggers as there are such multiples among the counts. While nothing is delivered or erased, and no
transaction of others is undone, they are the multiples that the growing count passes. What is told
of the events, and what is stored of them, is the same as without any attempts, and an attempt that
fails leaves the store. -/
theorem trigger_exact {T : Nat} {r : Recording γ} (threshold : r.ingestor.threshold = some T) :
    (∀ e,
      (∃ fault, r.result? (.record e) = some (.error fault) ∧
        (r.step (.record e)).scheduler = r.scheduler) ∨
      ∃ id n, r.result? (.record e) = some (.ok id) ∧
        (r.step (.record e)).store.countPending = .ok n ∧ 0 < n ∧
        (r.step (.record e)).scheduler =
          if max T 1 ∣ n then r.scheduler.trigger.2 else r.scheduler) ∧
    (∀ moves, (r.counts moves).length = r.recorded moves ∧
      r.firings moves = (r.counts moves).countP fun n => decide (max T 1 ∣ n)) ∧
    (∀ moves p, r.Quiet moves → r.store.countPending = .ok p →
      (r.run moves).store.saved = r.store.saved →
      r.firings moves = (p + r.recorded moves) / max T 1 - p / max T 1) ∧
    (∀ moves, r.Quiet moves → (r.results moves, (r.run moves).store) =
      captured r.ingestor.located r.store r.location (moves.filterMap Move.capture?)) ∧
    (∀ move, (∀ site, move ≠ .work site) →
      (∀ i n, r.scheduler.report? i = none →
        (r.step (.background move)).scheduler.report? i ≠ some (.success n)) →
      (r.step (.background move)).store = r.store) := by
  refine ⟨fun e => ?_, fun moves => ⟨length_counts threshold moves, firings_eq threshold moves⟩,
    fun moves p quiet counted settled => ?_, fun moves => captured_eq,
    fun move => Service.step_store⟩
  · rcases record_cases threshold e with
      ⟨fault, told, scheduler, -⟩ | ⟨id, p, told, -, counted, -, scheduler⟩
    · exact .inl ⟨fault, told, scheduler⟩
    · exact .inr ⟨id, p + 1, told, counted, Nat.succ_pos p, scheduler⟩
  · rcases quiet_run threshold quiet counted with ⟨opened, closed⟩ | ⟨-, firings⟩
    · rw [settled] at closed
      exact absurd closed opened
    · omega

/-- The recording of events on a store, with somebody logged in. -/
def watched (threshold : Nat) (store : Store) : Recording MemoryGate where
  ingestor := { threshold := some threshold }
  service := .start default { gate := ⟨some ⟨"token"⟩⟩, store }

/-- Two events, an attempt that fails, and two more events. -/
def refusedBetween : List (Move MemoryGate) :=
  [.record default, .record default, .background (.begin 0),
    .background (.finish 0 (.rejected 500)), .record default, .record default]

/-- The second and the fourth of the events trigger an attempt each. -/
theorem trigger_exact_refused :
    let r := watched 2 Store.inMemory.migrate.2
    r.ingestor.threshold = some 2 ∧ r.Quiet refusedBetween ∧ r.recorded refusedBetween = 4 ∧
      r.firings refusedBetween = 2 ∧
      r.results refusedBetween = [.ok 1, .ok 2, .ok 3, .ok 4] := by
  intro r
  have threshold : r.ingestor.threshold = some 2 := rfl
  have quiet : r.Quiet refusedBetween := by
    simp only [refusedBetween, Quiet]
    generalize hs : (r.step (.record default)).step (.record default) = s
    refine ⟨by simp [result?], by simp [result?], fun _ => s.service.background.begin_store 0,
      fun _ => ?_, by simp [result?], by simp [result?], trivial⟩
    generalize s.step (.background (.begin 0)) = s'
    refine s'.service.background.finish_store 0 fun attempt _ n success => ?_
    cases success
  obtain ⟨-, -, passed, captures, -⟩ := trigger_exact threshold
  have told : r.results refusedBetween = _ := congrArg Prod.fst (captures refusedBetween quiet)
  have ids : (captured false Store.inMemory.migrate.2 {}
      (List.replicate 4 (.record default))).1 = [.ok 1, .ok 2, .ok 3, .ok 4] := rfl
  have results := told.trans ids
  have all : r.recorded refusedBetween = 4 := congrArg (List.countP Except.isOk) results
  have settled : (r.run refusedBetween).store.saved = r.store.saved :=
    (saved_run threshold quiet).elim id id
  have made := passed refusedBetween 0 quiet rfl settled
  rw [all] at made
  exact ⟨threshold, quiet, all, made, results⟩

/-- In a transaction in which one number is left, the second event is refused and undoes the first
one. So two events are recorded, but the count never comes to two. -/
theorem trigger_undone :
    let r := watched 2 Ingestor.oneLeft
    let moves := List.replicate 3 (Move.record default)
    r.Quiet moves ∧ r.store.countPending = .ok 0 ∧
      r.results moves = [.ok Table.greatestId, .error (.database .full), .ok 1] ∧
      r.recorded moves = 2 ∧ r.firings moves = 0 ∧
      r.firings moves ≠ (0 + r.recorded moves) / max 2 1 - 0 / max 2 1 := by
  intro r moves
  have quiet : r.Quiet moves :=
    ⟨by simp [result?], by simp [result?], by simp [result?], trivial⟩
  have two : r.recorded moves = 2 := rfl
  have none : r.firings moves = 0 := rfl
  refine ⟨quiet, rfl, rfl, two, none, ?_⟩
  rw [two, none]
  decide

end Recording

end Outbox
