import Mathlib.Data.List.Induction
import Outbox.Proofs.Fleet.Counting

/-!
# The counts of a coordinator

Single attempts and series of them are made on one coordinator, several at a time and on whatever
gate and store there is; some are given up while their batch is on its way. The counts tell of the
attempts that ran to their end, and of nothing else (`Calls.stats_exact`).

A call is a computation that stops wherever it has handed a batch over (`Sending`). What all calls
share is then free for others, and the call goes on with what it finds there later.
-/

namespace Outbox

/-! ### Counts of reports -/

/-- What an attempt can fail by. -/
inductive SyncFailure.Kind where
  | unauthenticated
  | unauthorized
  | rejected
  | unreachable
  | storage
  | invalidCredential
  deriving DecidableEq

/-- What a failure is by. -/
def SyncFailure.kind : SyncFailure → Kind
  | .unauthenticated => .unauthenticated
  | .unauthorized => .unauthorized
  | .rejected _ => .rejected
  | .unreachable _ => .unreachable
  | .storage _ => .storage
  | .invalidCredential _ => .invalidCredential

namespace SyncReport

/-- The report is of a batch that was acknowledged. -/
def isSuccess : SyncReport → Bool
  | .success _ => true
  | _ => false

/-- The report is of a failure of this kind. -/
def failsBy (kind : SyncFailure.Kind) : SyncReport → Bool
  | .failed failure => decide (failure.kind = kind)
  | _ => false

end SyncReport

namespace SyncStats

open SyncFailure (Kind)

/-- The count of the failures of a kind. -/
def failuresOf (s : SyncStats) : Kind → Nat
  | .unauthenticated => s.unauthenticated
  | .unauthorized => s.unauthorized
  | .rejected => s.rejected
  | .unreachable => s.unreachable
  | .storage => s.storageFailures
  | .invalidCredential => s.invalidCredential

/-- The counts of reports. -/
def ofReports (reports : List SyncReport) : SyncStats := reports.foldl count {}

theorem ofReports_concat (reports : List SyncReport) (report : SyncReport) :
    ofReports (reports ++ [report]) = (ofReports reports).count report := by
  rw [ofReports, List.foldl_append]
  rfl

/-- What grows by one with some of the reports is their number. -/
theorem countP_ofReports (counter : SyncStats → Nat) (p : SyncReport → Bool)
    (zero : counter {} = 0)
    (grows : ∀ (s : SyncStats) report,
      counter (s.count report) = counter s + if p report then 1 else 0)
    (reports : List SyncReport) : counter (ofReports reports) = reports.countP p := by
  induction reports using List.reverseRecOn with
  | nil => exact zero
  | append_singleton reports report ih =>
    rw [ofReports_concat, grows, ih, List.countP_append, List.countP_singleton]

variable (reports : List SyncReport)

theorem attempts_ofReports : (ofReports reports).attempts = reports.length := by
  have counted := countP_ofReports attempts (fun _ => true) rfl attempts_count reports
  rwa [List.countP_true] at counted

/-- An attempt has found no data, or has delivered a batch, or has failed. -/
theorem parts_ofReports : (ofReports reports).noData + (ofReports reports).batchesDelivered +
    (ofReports reports).failures = reports.length := by
  let parts (s : SyncStats) : Nat := s.noData + s.batchesDelivered + s.failures
  have grows (s : SyncStats) (report : SyncReport) : parts (s.count report) = parts s + 1 := by
    cases report with
    | failed failure => cases failure <;> simp only [parts, count, countFailure, failures] <;> omega
    | _ =>
      simp only [parts, count, failures]
      omega
  have counted := countP_ofReports parts (fun _ => true) rfl grows reports
  rwa [List.countP_true] at counted

theorem noData_ofReports : (ofReports reports).noData = reports.count .noData := by
  refine countP_ofReports noData (· == .noData) rfl (fun s report => ?_) reports
  cases report with
  | failed failure => cases failure <;> rfl
  | _ => rfl

theorem batchesDelivered_ofReports :
    (ofReports reports).batchesDelivered = reports.countP SyncReport.isSuccess := by
  refine countP_ofReports batchesDelivered SyncReport.isSuccess rfl (fun s report => ?_) reports
  cases report with
  | failed failure => cases failure <;> rfl
  | _ => rfl

theorem failuresOf_ofReports (kind : Kind) :
    (ofReports reports).failuresOf kind = reports.countP (·.failsBy kind) := by
  refine countP_ofReports (failuresOf · kind) (·.failsBy kind) ?_ (fun s report => ?_) reports
  · cases kind <;> rfl
  · cases report with
    | failed failure => cases failure <;> cases kind <;> rfl
    | _ => cases kind <;> rfl

theorem eventsDelivered_ofReports : (ofReports reports).eventsDelivered = countedIn reports := by
  induction reports using List.reverseRecOn with
  | nil => rfl
  | append_singleton reports report ih =>
    rw [ofReports_concat, eventsDelivered_count, ih, countedIn_append, countedIn_singleton]

end SyncStats

/-! ### Computations that wait -/

/-- A computation that hands batches over. While it waits for the outcome of one, others work on the
state that it has left. -/
inductive Sending (σ α : Type) where
  | done (result : α)
  | send (batch : Batch) (credential : Credential) (state : σ) (next : Outcome → σ → Sending σ α)

namespace Sending

variable {σ α β : Type} {P : σ → Prop} {Q : α → Prop} {R : β → Prop}

/-- A computation followed by another one. -/
def andThen : Sending σ α → (α → Sending σ β) → Sending σ β
  | .done a, f => f a
  | .send batch credential state next, f =>
    .send batch credential state fun outcome state => (next outcome state).andThen f

instance : Monad (Sending σ) where
  pure := .done
  bind := andThen

theorem andThen_done (c : Sending σ α) : c.andThen .done = c := by
  induction c with
  | done a => rfl
  | send batch credential state next ih =>
    simp only [andThen]
    exact congrArg (Sending.send batch credential state) (funext fun o => funext (ih o))

theorem andThen_assoc {δ : Type} (c : Sending σ α) (f : α → Sending σ β) (g : β → Sending σ δ) :
    (c.andThen f).andThen g = c.andThen fun a => (f a).andThen g := by
  induction c with
  | done a => rfl
  | send batch credential state next ih =>
    simp only [andThen]
    exact congrArg (Sending.send batch credential state) (funext fun o => funext (ih o))

instance : LawfulMonad (Sending σ) :=
  LawfulMonad.mk' (Sending σ) andThen_done (fun _ _ => rfl) andThen_assoc

/-- The computation leaves a state with `P` wherever it waits, and has a result with `Q`, if it
finds states with `P`. -/
def Keeps (P : σ → Prop) (Q : α → Prop) : Sending σ α → Prop
  | .done a => Q a
  | .send _ _ state next => P state ∧ ∀ outcome state, P state → (next outcome state).Keeps P Q

theorem Keeps.bind {c : Sending σ α} {f : α → Sending σ β} (h : c.Keeps P Q)
    (hf : ∀ a, Q a → (f a).Keeps P R) : (c >>= f).Keeps P R := by
  show (c.andThen f).Keeps P R
  induction c with
  | done a => exact hf a h
  | send batch credential state next ih =>
    exact ⟨h.1, fun outcome state hs => ih outcome state (h.2 outcome state hs)⟩

end Sending

/-! ### Attempts that are noted down -/

/-- An attempt that ran to its end. -/
structure Ended (γ : Type) where
  /-- What it has found at its beginning. -/
  start : Site γ
  /-- The batches that it has handed over. -/
  sent : List Batch
  report : SyncReport

/-- What the calls on a coordinator share. -/
structure Shared (γ : Type) where
  site : Site γ
  /-- The attempts that ran to their end. -/
  ended : List (Ended γ) := []

/-- Others work on the gate and the store, but not on the counts. -/
def Shared.work {γ : Type} (s : Shared γ) (gate : γ) (store : Store) : Shared γ :=
  { s with site := { gate, store, stats := s.site.stats } }

/-- One more attempt has ended, and is counted. -/
def Shared.note {γ : Type} (s : Shared γ) (e : Ended γ) : Shared γ where
  site := { s.site with stats := s.site.stats.count e.report }
  ended := s.ended ++ [e]

variable {γ : Type} [CredentialGate γ]

/-- Hands a batch over, and notes it down among those of the attempt. -/
def handOver (batch : Batch) (credential : Credential) :
    StateT (Site γ) (StateT (List (Ended γ) × List Batch) (Sending (Shared γ))) Outcome :=
  fun site (ended, sent) => .send batch credential { site, ended } fun outcome shared =>
    .done ((outcome, shared.site), (shared.ended, sent ++ [batch]))

namespace Coordinator

/-- An attempt, which is noted down at its end. -/
def attempt (c : Coordinator) : StateT (Shared γ) (Sending (Shared γ)) SyncReport :=
  fun shared => do
    let ((report, site), (ended, sent)) ← c.runOnce handOver shared.site (shared.ended, [])
    return (report, { site, ended := ended ++ [{ start := shared.site, sent, report }] })

variable {c : Coordinator} {shared : Shared γ} {site : Site γ}

/-- An attempt hands one batch over, or ends without. -/
theorem attempt_eq (c : Coordinator) (shared : Shared γ) : c.attempt shared =
    match c.begin shared.site.gate shared.site.store with
    | .error report => .done (report, shared.note { start := shared.site, sent := [], report })
    | .ok a => .send a.batch a.credential shared fun outcome later =>
      let (report, gate, store) := a.finish outcome later.site.gate later.site.store
      .done (report,
        (later.work gate store).note { start := shared.site, sent := [a.batch], report }) := by
  unfold attempt
  rw [runOnce_bind]
  cases c.begin shared.site.gate shared.site.store with
  | error report => rfl
  | ok a => rfl

/-! ### What an attempt hands over -/

/-- The attempt has failed over the store when it selected its records. -/
def failedToSelect (c : Coordinator) (e : Ended γ) : Bool :=
  match CredentialGate.usable e.start.gate, e.start.store.selectPending c.limit with
  | some _, .error fault => decide (e.report = .failed (.storage fault.message))
  | _, _ => false

/-- The attempt has handed one batch over, or there is one reason why it did not. -/
def Accounted (c : Coordinator) (e : Ended γ) : Prop :=
  e.sent.length + (if e.report = .noData then 1 else 0) +
    (if e.report.failsBy .unauthenticated then 1 else 0) +
    (if c.failedToSelect e then 1 else 0) = 1

theorem accounted_of_begin_error {report : SyncReport}
    (h : c.begin site.gate site.store = .error report) :
    c.Accounted { start := site, sent := [], report } := by
  unfold Accounted failedToSelect
  rcases begin_error h with ⟨out, rfl⟩ | ⟨auth, ⟨fault, hs, rfl⟩ | ⟨hs, rfl⟩⟩
  · have none : CredentialGate.usable site.gate = none := by
      rw [authenticated_iff, not_exists] at out
      exact Option.eq_none_iff_forall_ne_some.mpr out
    simp [none, SyncReport.failsBy, SyncFailure.kind]
  · obtain ⟨credential, usable⟩ := authenticated_iff.mp auth
    simp [usable, hs, SyncReport.failsBy, SyncFailure.kind]
  · obtain ⟨credential, usable⟩ := authenticated_iff.mp auth
    simp [usable, hs, SyncReport.failsBy]

/-- An attempt whose batch was handed over has had a credential and records. -/
theorem finish_report (a : Attempt) (outcome : Outcome) (gate : γ) (store : Store) :
    (a.finish outcome gate store).1 ≠ .noData ∧
      (a.finish outcome gate store).1.failsBy .unauthenticated = false := by
  unfold Attempt.finish
  cases outcome with
  | delivered =>
    rcases store.markDelivered a.batch.ids with ⟨_ | _, store⟩
    · exact ⟨by simp, rfl⟩
    · exact ⟨by simp, rfl⟩
  | _ => exact ⟨by simp, rfl⟩

theorem accounted_of_begin_ok {a : Attempt} (h : c.begin site.gate site.store = .ok a)
    (outcome : Outcome) (gate : γ) (store : Store) :
    c.Accounted
      { start := site, sent := [a.batch], report := (a.finish outcome gate store).1 } := by
  obtain ⟨usable, records, -, hs, -⟩ := begin_ok h
  obtain ⟨some, told⟩ := finish_report a outcome gate store
  simp [Accounted, failedToSelect, usable, hs, some, told]

/-! ### What is kept -/

/-- The counts are those of the attempts that ran to their end. -/
structure Counted (c : Coordinator) (s : Shared γ) : Prop where
  stats : s.site.stats = .ofReports (s.ended.map (·.report))
  accounted : ∀ e ∈ s.ended, c.Accounted e

theorem Counted.work (h : c.Counted shared) (gate : γ) (store : Store) :
    c.Counted (shared.work gate store) :=
  ⟨h.stats, h.accounted⟩

theorem Counted.note {e : Ended γ} (h : c.Counted shared) (he : c.Accounted e) :
    c.Counted (shared.note e) := by
  refine ⟨?_, fun e' he' => ?_⟩
  · show shared.site.stats.count e.report = .ofReports ((shared.ended ++ [e]).map (·.report))
    rw [List.map_append, List.map_singleton, SyncStats.ofReports_concat, h.stats]
  · rcases List.mem_append.mp he' with old | new
    · exact h.accounted e' old
    · rw [List.mem_singleton.mp new]
      exact he

/-- An attempt is counted whenever it ends, whatever others do meanwhile. -/
theorem attempt_keeps (h : c.Counted shared) :
    (c.attempt shared).Keeps c.Counted fun r => c.Counted r.2 := by
  rw [attempt_eq]
  cases hb : c.begin shared.site.gate shared.site.store with
  | error report => exact h.note (accounted_of_begin_error hb)
  | ok a =>
    refine ⟨h, fun outcome later hl => ?_⟩
    exact (hl.work _ _).note (accounted_of_begin_ok hb outcome later.site.gate later.site.store)

end Coordinator

/-- A series keeps what each of its attempts keeps. -/
theorem drain_keeps {σ : Type} {P : σ → Prop} {attempt : StateT σ (Sending σ) SyncReport}
    (keeps : ∀ s, P s → (attempt s).Keeps P fun r => P r.2) (max : Nat) {s : σ} (h : P s) :
    (drain attempt max s).Keeps P fun r => P r.2 := by
  have go (rest : Nat) : ∀ (batches delivered : Nat) (s : σ), P s →
      (drain.go attempt batches delivered rest s).Keeps P fun r => P r.2 := by
    induction rest with
    | zero =>
      intro batches delivered s h
      refine (keeps s h).bind fun r hr => ?_
      obtain ⟨report, s'⟩ := r
      cases report <;> exact hr
    | succ rest ih =>
      intro batches delivered s h
      refine (keeps s h).bind fun r hr => ?_
      obtain ⟨report, s'⟩ := r
      cases report with
      | success n => exact ih (batches + 1) (delivered + n) s' hr
      | _ => exact hr
  exact go (max - 1) 0 0 s h

/-! ### Calls -/

/-- A call on a coordinator. -/
inductive SyncCall where
  | runOnce
  | drain (max : Nat)

/-- The computation of a call. -/
def Coordinator.call (c : Coordinator) : SyncCall → StateT (Shared γ) (Sending (Shared γ)) Unit
  | .runOnce => discard c.attempt
  | .drain max => discard (drain c.attempt max)

/-- A coordinator and the calls on it that wait for the outcome of a batch. -/
structure Calls (γ : Type) where
  shared : Shared γ
  waiting : List (Outcome → Shared γ → Sending (Shared γ) (Unit × Shared γ)) := []

namespace Calls

/-- What happens to the calls on a coordinator. -/
inductive Move (γ : Type) where
  | call (call : SyncCall)
  /-- A call that waits is told the outcome of its batch, and goes on. -/
  | answer (i : Nat) (outcome : Outcome)
  /-- A call that waits is given up. -/
  | abort (i : Nat)
  /-- Others work on the gate and the store. -/
  | work (gate : γ) (store : Store)

/-- A call goes on until it ends or waits. -/
def proceed (s : Calls γ) : Sending (Shared γ) (Unit × Shared γ) → Calls γ
  | .done (_, shared) => { s with shared }
  | .send _ _ shared next => { shared, waiting := s.waiting ++ [next] }

/-- The calls after a move. -/
def step (c : Coordinator) (s : Calls γ) : Move γ → Calls γ
  | .call call => s.proceed (c.call call s.shared)
  | .answer i outcome =>
    match s.waiting[i]? with
    | none => s
    | some next => { s with waiting := s.waiting.eraseIdx i }.proceed (next outcome s.shared)
  | .abort i => { s with waiting := s.waiting.eraseIdx i }
  | .work gate store => { s with shared := s.shared.work gate store }

/-- The calls after moves. -/
def run (c : Coordinator) (s : Calls γ) (moves : List (Move γ)) : Calls γ := moves.foldl (step c) s

/-- A new coordinator. -/
def start (gate : γ) (store : Store) : Calls γ where
  shared := { site := { gate, store } }

/-- What is shared is counted, now and whenever a call that waits goes on. -/
structure Sound (c : Coordinator) (s : Calls γ) : Prop where
  counted : c.Counted s.shared
  waiting : ∀ next ∈ s.waiting, ∀ outcome shared, c.Counted shared →
    (next outcome shared).Keeps c.Counted fun r => c.Counted r.2

variable {c : Coordinator} {s : Calls γ}

theorem call_keeps (call : SyncCall) {shared : Shared γ} (h : c.Counted shared) :
    (c.call call shared).Keeps c.Counted fun r => c.Counted r.2 := by
  cases call with
  | runOnce => exact (Coordinator.attempt_keeps h).bind fun r hr => hr
  | drain max => exact (drain_keeps (fun _ => Coordinator.attempt_keeps) max h).bind fun r hr => hr

theorem Sound.proceed {call : Sending (Shared γ) (Unit × Shared γ)} (h : s.Sound c)
    (keeps : call.Keeps c.Counted fun r => c.Counted r.2) : (s.proceed call).Sound c := by
  cases call with
  | done r => exact ⟨keeps, h.waiting⟩
  | send batch credential shared next =>
    refine ⟨keeps.1, fun next' hn => ?_⟩
    rcases List.mem_append.mp hn with old | new
    · exact h.waiting next' old
    · rw [List.mem_singleton.mp new]
      exact keeps.2

theorem Sound.eraseIdx (h : s.Sound c) (i : Nat) :
    { s with waiting := s.waiting.eraseIdx i }.Sound c :=
  ⟨h.counted, fun next hn => h.waiting next (List.mem_of_mem_eraseIdx hn)⟩

theorem Sound.step (h : s.Sound c) (move : Move γ) : (s.step c move).Sound c := by
  cases move with
  | call call => exact h.proceed (call_keeps call h.counted)
  | answer i outcome =>
    cases hi : s.waiting[i]? with
    | none =>
      simp only [Calls.step, hi]
      exact h
    | some next =>
      simp only [Calls.step, hi]
      exact (h.eraseIdx i).proceed
        (h.waiting next (List.mem_of_getElem? hi) outcome s.shared h.counted)
  | abort i => exact h.eraseIdx i
  | work gate store => exact ⟨h.counted.work gate store, h.waiting⟩

theorem Sound.run (h : s.Sound c) (moves : List (Move γ)) : (s.run c moves).Sound c := by
  induction moves generalizing s with
  | nil => exact h
  | cons move moves ih => exact ih (h.step move)

theorem sound_start (c : Coordinator) (gate : γ) (store : Store) : (start gate store).Sound c where
  counted := ⟨rfl, fun _ he => nomatch he⟩
  waiting _ hn := nomatch hn

/-! ### The counts -/

/-- Each attempt that ran to its end has handed one batch over, or one of three reasons why it did
not is counted. -/
theorem sent_accounted {ended : List (Ended γ)} (h : ∀ e ∈ ended, c.Accounted e) :
    (ended.map (·.sent.length)).sum + (ended.map (·.report)).count .noData +
      (ended.map (·.report)).countP (·.failsBy .unauthenticated) +
      ended.countP c.failedToSelect = ended.length := by
  induction ended with
  | nil => rfl
  | cons e ended ih =>
    have one : c.Accounted e := h e List.mem_cons_self
    have others := ih fun e' he' => h e' (List.mem_cons_of_mem e he')
    unfold Coordinator.Accounted at one
    simp only [List.map_cons, List.sum_cons, List.count_cons, List.countP_cons, List.length_cons,
      beq_iff_eq]
    omega

/-- After any calls on a new coordinator, some of them given up, whatever gates and stores they have
found and whatever they were answered, the counts are those of the attempts that ran to their
end. -/
theorem stats_exact (c : Coordinator) (gate : γ) (store : Store) (moves : List (Move γ)) :
    let shared := ((start gate store).run c moves).shared
    let stats := shared.site.stats
    let reports := shared.ended.map (·.report)
    stats.attempts = shared.ended.length ∧
    stats.attempts = stats.noData + stats.batchesDelivered + stats.failures ∧
    stats.noData = reports.count .noData ∧
    stats.batchesDelivered = reports.countP SyncReport.isSuccess ∧
    (∀ kind, stats.failuresOf kind = reports.countP (·.failsBy kind)) ∧
    stats.eventsDelivered = countedIn reports ∧
    (shared.ended.map (·.sent.length)).sum + stats.noData + stats.unauthenticated +
      shared.ended.countP c.failedToSelect = stats.attempts := by
  obtain ⟨⟨counted, accounted⟩, -⟩ := (sound_start c gate store).run moves
  intro shared stats reports
  have same : stats = .ofReports reports := counted
  have attempts : stats.attempts = shared.ended.length := by
    rw [same, SyncStats.attempts_ofReports, List.length_map]
  have parts := SyncStats.parts_ofReports reports
  have noData := SyncStats.noData_ofReports reports
  have kinds := SyncStats.failuresOf_ofReports reports
  rw [← same] at parts noData kinds
  refine ⟨attempts, ?_, noData, ?_, kinds, ?_, ?_⟩
  · rw [parts, attempts, List.length_map]
  · rw [same, SyncStats.batchesDelivered_ofReports]
  · rw [same, SyncStats.eventsDelivered_ofReports]
  · have unauthenticated : stats.unauthenticated = reports.countP (·.failsBy .unauthenticated) :=
      kinds .unauthenticated
    rw [noData, unauthenticated, attempts]
    exact sent_accounted accounted

/-- An attempt that is given up while its batch is on its way is not counted. -/
example : ((start (⟨some ⟨"token"⟩⟩ : MemoryGate) (Store.inMemory.migrate.2.append default).2).run
    {} [.call .runOnce, .abort 0, .call (.drain 2), .answer 0 .delivered]).shared.site.stats =
      { attempts := 2, batchesDelivered := 1, eventsDelivered := 1, noData := 1 } := rfl

end Calls

end Outbox
