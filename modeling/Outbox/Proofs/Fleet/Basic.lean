import Outbox.Proofs.Sync.Attempt

/-!
# Fleets

Any number of coordinators on one store. Their attempts overlap: between the two steps of an
attempt come steps of others, appends and erasures, an attempt can be dropped, and the store can be
closed and opened again. A gate is looked at only when a move needs it, and is then as the move
says, so that every gate is covered, shared or not.
-/

namespace Outbox

namespace Fleet

/-- A coordinator, and the counts of its attempts. -/
structure Member where
  coordinator : Coordinator
  stats : SyncStats := {}

/-- An attempt whose batch is on its way, and the member that makes it. -/
structure Flight where
  member : Nat
  attempt : Attempt

/-- What can happen next. -/
inductive Move (γ : Type) where
  /-- A member takes the first step of an attempt. -/
  | begin (k : Nat) (gate : γ)
  /-- The outcome of a batch is known, and its attempt takes the second step. -/
  | finish (i : Nat) (outcome : Outcome) (gate : γ)
  /-- An attempt is dropped while its batch is on its way. -/
  | drop (i : Nat)
  | append (e : Event)
  | erase
  /-- The store is closed and opened again, perhaps on a medium that can only be read. -/
  | reopen (readOnly : Bool)

end Fleet

/-- Coordinators on one store. -/
structure Fleet where
  store : Store
  members : List Fleet.Member
  flights : List Fleet.Flight := []
  /-- The flights whose batch was acknowledged. -/
  acknowledged : List Fleet.Flight := []
  /-- The reports of all attempts that have ended. -/
  reports : List SyncReport := []

namespace Fleet

/-- A member after one more attempt. -/
def Member.count (report : SyncReport) (m : Member) : Member :=
  { m with stats := m.stats.count report }

/-- A fleet before its first attempt. -/
def start (store : Store) (coordinators : List Coordinator) : Fleet where
  store := store
  members := coordinators.map fun coordinator => { coordinator }

/-- The fleet after an attempt of a member has ended. -/
def ended (f : Fleet) (k : Nat) (report : SyncReport) : Fleet :=
  { f with members := f.members.modify k (Member.count report), reports := f.reports ++ [report] }

variable {γ : Type} [CredentialGate γ]

/-- One move. -/
def step (f : Fleet) : Move γ → Fleet
  | .begin k gate =>
    match f.members[k]? with
    | none => f
    | some m =>
      match m.coordinator.begin gate f.store with
      | .error report => f.ended k report
      | .ok attempt => { f with flights := f.flights ++ [⟨k, attempt⟩] }
  | .finish i outcome gate =>
    match f.flights[i]? with
    | none => f
    | some flight =>
      let (report, _, store) := flight.attempt.finish outcome gate f.store
      let acknowledged :=
        if outcome = .delivered then f.acknowledged ++ [flight] else f.acknowledged
      { f with store, acknowledged, flights := f.flights.eraseIdx i }.ended flight.member report
  | .drop i => { f with flights := f.flights.eraseIdx i }
  | .append e => { f with store := (f.store.append e).2 }
  | .erase => { f with store := f.store.eraseAll.2 }
  | .reopen readOnly => { f with store := (f.store.reopened readOnly).2 }

/-- A run of moves. -/
def run (f : Fleet) (moves : List (Move γ)) : Fleet := moves.foldl step f

/-- The batch that a move commits, if it reports a success. -/
def commit? (f : Fleet) : Move γ → Option Batch
  | .finish i outcome gate =>
    match f.flights[i]? with
    | none => none
    | some flight =>
      match (flight.attempt.finish outcome gate f.store).1 with
      | .success _ => some flight.attempt.batch
      | _ => none
  | _ => none

/-- The event that a move appends, and the number that it gets. -/
def append? (f : Fleet) : Move γ → Option (RecordId × Event)
  | .append e =>
    match (f.store.append e).1 with
    | .ok id => some (id, e)
    | .error _ => none
  | _ => none

/-! ### What a move can do -/

/-- All that a move can do to a fleet on a log: the batch it commits, the fleet and the log after
it. -/
inductive Effect (f : Fleet) (l : Log) : Option Batch → Fleet → Log → Prop
  | idle : Effect f l none f l
  | refused {k : Nat} {m : Member} {report : SyncReport} (hm : f.members[k]? = some m)
      (hr : ∀ n, report ≠ .success n) : Effect f l none (f.ended k report) l
  | begun {k : Nat} {m : Member} (hm : f.members[k]? = some m) (credential : Credential) :
      Effect f l none
        { f with flights := f.flights ++ [⟨k, ⟨m.coordinator.batchOf l, credential⟩⟩] } l
  | failed {i : Nat} {flight : Flight} {acknowledged : List Flight} (failure : SyncFailure)
      (hi : f.flights[i]? = some flight)
      (ha : acknowledged = f.acknowledged ∨ acknowledged = f.acknowledged ++ [flight]) :
      Effect f l none
        (Fleet.ended { f with acknowledged, flights := f.flights.eraseIdx i } flight.member
          (.failed failure)) l
  | committed {i : Nat} {flight : Flight} {store : Store} (hi : f.flights[i]? = some flight)
      (hs : store.Holds (l.deliver flight.attempt.batch.ids)) :
      Effect f l (some flight.attempt.batch)
        (Fleet.ended
          { f with
            store
            acknowledged := f.acknowledged ++ [flight]
            flights := f.flights.eraseIdx i }
          flight.member (.success flight.attempt.batch.size))
        (l.deliver flight.attempt.batch.ids)
  | dropped (i : Nat) : Effect f l none { f with flights := f.flights.eraseIdx i } l
  | appended {id : RecordId} {store : Store} (e : Event) (hid : l.last < id)
      (hs : store.Holds (l.append id e hid)) :
      Effect f l none { f with store } (l.append id e hid)
  | erased {store : Store} (hs : store.Holds l.clear) : Effect f l none { f with store } l.clear
  | reopened {store : Store} (hs : store.Holds l) : Effect f l none { f with store } l

variable {f : Fleet} {l : Log}

theorem begin_effect (h : f.store.Holds l) (k : Nat) (gate : γ) :
    Effect f l none (f.step (.begin k gate)) l := by
  cases hm : f.members[k]? with
  | none =>
    simp only [step, hm]
    exact .idle
  | some m =>
    rcases m.coordinator.begin_cases h gate with ⟨report, hb, hr⟩ | ⟨credential, -, hb⟩
    · simp only [step, hm, hb]
      exact .refused hm hr
    · simp only [step, hm, hb]
      exact .begun hm credential

theorem finish_effect (h : f.store.Holds l) (i : Nat) (outcome : Outcome) (gate : γ) :
    Effect f l (f.commit? (.finish i outcome gate)) (f.step (.finish i outcome gate))
      (l.deliver ((f.commit? (.finish i outcome gate)).elim [] Batch.ids)) := by
  cases hi : f.flights[i]? with
  | none =>
    simp only [step, commit?, hi, Option.elim_none, Log.deliver_nil]
    exact .idle
  | some flight =>
    rcases flight.attempt.finish_cases h outcome gate with
      ⟨rfl, store, hf, hs⟩ | ⟨failure, gate', hf⟩
    · simp only [step, commit?, hi, hf]
      exact .committed hi hs
    · simp only [step, commit?, hi, hf, Option.elim_none, Log.deliver_nil]
      refine .failed failure hi ?_
      split
      · exact .inr rfl
      · exact .inl rfl

/-- The record of an event that has just got a number. -/
def recordOf (p : RecordId × Event) : Record := ⟨p.1, .pending, p.2⟩

theorem append_effect (h : f.store.Holds l) (e : Event) :
    ∃ l', Effect f l none (f.step (.append e : Move γ)) l' ∧
      l'.records = l.records ++ (f.append? (.append e : Move γ)).toList.map recordOf := by
  rcases Store.append_cases h e with ⟨fault, ha⟩ | ⟨id, hid, store, ha, hs⟩
  · simp only [step, append?, ha]
    exact ⟨l, .idle, (List.append_nil _).symm⟩
  · simp only [step, append?, ha]
    exact ⟨_, .appended e hid hs, rfl⟩

theorem reopen_effect (h : f.store.Holds l) (readOnly : Bool) :
    Effect f l none (f.step (.reopen readOnly : Move γ)) l := by
  refine .reopened ?_
  rw [Store.reopened_eq h]
  exact h.withMedium readOnly

/-- Every move has one of the effects. -/
theorem step_effect (h : f.store.Holds l) (move : Move γ) :
    ∃ l', Effect f l (f.commit? move) (f.step move) l' := by
  cases move with
  | begin k gate => exact ⟨l, begin_effect h k gate⟩
  | finish i outcome gate => exact ⟨_, finish_effect h i outcome gate⟩
  | drop i => exact ⟨l, .dropped i⟩
  | append e =>
    obtain ⟨l', he, -⟩ := append_effect (γ := γ) h e
    exact ⟨l', he⟩
  | erase =>
    rcases Store.eraseAll_cases h with ⟨fault, he⟩ | ⟨store, he, hs⟩
    · exact ⟨l, by simp only [step, commit?, he]; exact .idle⟩
    · exact ⟨_, by simp only [step, commit?, he]; exact .erased hs⟩
  | reopen readOnly => exact ⟨l, reopen_effect h readOnly⟩

/-- The store after a move holds the log after it. -/
theorem Effect.holds {b : Option Batch} {f' : Fleet} {l' : Log} (h : Effect f l b f' l')
    (hold : f.store.Holds l) : f'.store.Holds l' := by
  cases h with
  | committed hi hs => exact hs
  | appended e hid hs => exact hs
  | erased hs => exact hs
  | reopened hs => exact hs
  | _ => exact hold

/-- The log goes on with every move. -/
theorem Effect.evolves {b : Option Batch} {f' : Fleet} {l' : Log} (h : Effect f l b f' l') :
    l.Evolves l' := by
  cases h with
  | committed hi hs => exact l.evolves_deliver _
  | appended e hid hs => exact l.evolves_append e hid
  | erased hs => exact l.evolves_clear
  | _ => exact .refl l

/-- What is on its way after a move was so before, or has a batch of the log. -/
theorem Effect.flight_cases {b : Option Batch} {f' : Fleet} {l' : Log} (h : Effect f l b f' l')
    {flight : Flight} (hf : flight ∈ f'.flights) :
    flight ∈ f.flights ∨ ∃ m credential, f.members[flight.member]? = some m ∧
      flight.attempt = ⟨m.coordinator.batchOf l, credential⟩ := by
  cases h with
  | begun hm credential =>
    rcases List.mem_append.mp hf with hf | hf
    · exact .inl hf
    · rw [List.mem_singleton.mp hf]
      exact .inr ⟨_, credential, hm, rfl⟩
  | failed => exact .inl (List.mem_of_mem_eraseIdx hf)
  | committed => exact .inl (List.mem_of_mem_eraseIdx hf)
  | dropped => exact .inl (List.mem_of_mem_eraseIdx hf)
  | _ => exact .inl hf

/-- A move commits the batch of a flight, and delivers its records. -/
theorem Effect.of_commit {batch : Batch} {f' : Fleet} {l' : Log}
    (h : Effect f l (some batch) f' l') :
    (∃ flight ∈ f.flights, flight.attempt.batch = batch) ∧ l' = l.deliver batch.ids := by
  cases h with
  | committed hi hs => exact ⟨⟨_, List.mem_of_getElem? hi, rfl⟩, rfl⟩

end Fleet

end Outbox
