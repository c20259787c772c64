import Outbox.Proofs.Session.Silence
import Outbox.Proofs.Store.History

/-!
# What an erasure reaches

An erasure takes the records out of the store. It does not know of the batches that are on their
way, and they go on. So the only batches that still carry a record that was erased are those that
were on their way when the erasure ended; what is sent later was appended later (`erased_not_sent`).
-/

namespace Outbox

/-- The batch holds records none of which is one of these. -/
def Batch.Spares (b : Batch) (removed : List Record) : Prop :=
  ∃ (a : Anonymizer) (records : List Record), b = .assemble a records ∧
    ∀ r ∈ records, ∀ q ∈ removed, q.id ≠ r.id

/-- What comes after an erasure has none of the numbers of before. -/
theorem Log.Evolves.id_ne {l m : Log} (h : l.clear.Evolves m) {q r : Record} (hq : q ∈ l.records)
    (hr : r ∈ m.records) : q.id ≠ r.id := by
  intro same
  have old : r.id ≤ l.clear.last := same ▸ l.bounded q hq
  obtain ⟨p, hp, -⟩ := h.origin r hr old
  cases hp

/-- A batch that is taken after an erasure spares what was erased. -/
theorem Coordinator.batchOf_spares {l m : Log} (h : l.clear.Evolves m) (c : Coordinator) :
    (c.batchOf m).Spares (l.records.map Record.kept) := by
  refine ⟨c.anonymizer, (m.pending.take c.limit).map Record.kept, rfl, ?_⟩
  intro r' hr' q' hq'
  obtain ⟨r, hr, rfl⟩ := List.mem_map.mp hr'
  obtain ⟨q, hq, rfl⟩ := List.mem_map.mp hq'
  rw [Record.kept_id, Record.kept_id]
  exact h.id_ne hq (Log.mem_pending.mp (List.mem_of_mem_take hr)).1

namespace Session

variable {γ : Type} [CredentialGate γ] {s : Session γ} {l m : Log}
  {old : List (Errand × Credential)}

/-- Others only append events to the store. -/
def Appends : Session γ → List (Move γ) → Prop
  | _, [] => True
  | s, move :: moves =>
    (∀ store, move = .work store → ∃ e, store = (s.store.append e).2) ∧ (s.step move).Appends moves

theorem run_append (s : Session γ) (moves later : List (Move γ)) :
    s.run (moves ++ later) = (s.run moves).run later := List.foldl_append

theorem appends_append {moves later : List (Move γ)} :
    s.Appends (moves ++ later) ↔ s.Appends moves ∧ (s.run moves).Appends later := by
  induction moves generalizing s with
  | nil => exact (iff_of_eq (true_and _)).symm
  | cons move moves ih =>
    show (_ ∧ (s.step move).Appends (moves ++ later)) ↔ (_ ∧ (s.step move).Appends moves) ∧ _
    rw [ih, and_assoc]
    rfl

/-- Where others leave the store alone they append nothing else. -/
theorem appends_of_no_work {moves : List (Move γ)} (h : ∀ store, .work store ∉ moves) :
    s.Appends moves := by
  induction moves generalizing s with
  | nil => trivial
  | cons move moves ih =>
    refine ⟨?_, ih fun store hs => h store (List.mem_cons_of_mem move hs)⟩
    rintro store rfl
    exact absurd List.mem_cons_self (h store)

/-- An append by others is one. -/
theorem appends_work (s : Session γ) (e : Event) : s.Appends [.work (s.store.append e).2] :=
  ⟨fun _ hs => ⟨e, (Move.work.inj hs).symm⟩, trivial⟩

/-- With this answer an erasure ends, and the local store is erased as well. -/
def Erases (s : Session γ) (i : Nat) : Prop :=
  (∃ credential since, s.requests[i]? = some ⟨.eraseData, credential, since⟩) ∧
    (Account.finishErase (.ok ()) s.gate s.store).1 = .ok ()

/-- A batch was taken from what has become of a log. -/
def Errand.TakenSince (l : Log) : Errand → Prop
  | .upload batch => ∃ (c : Coordinator) (past : Log), l.Evolves past ∧ batch = c.batchOf past
  | _ => True

/-- The store holds what has become of a log, and each request is one of the old ones or has a batch
that was taken since then, if any. -/
structure Since (old : List (Errand × Credential)) (l : Log) (s : Session γ) : Prop where
  store : ∃ m, l.Evolves m ∧ s.store.Holds m
  requests : ∀ r ∈ s.requests, r.carried ∈ old ∨ r.errand.TakenSince l

omit [CredentialGate γ] in
/-- A session from now on. -/
theorem since_now (h : s.store.Holds l) : Since (s.requests.map Request.carried) l s where
  store := ⟨l, .refl l, h⟩
  requests _ hr := .inl (List.mem_map_of_mem hr)

namespace Since

omit [CredentialGate γ] in
theorem send {errand : Errand} (h : Since old l s) (credential : Credential)
    (taken : errand.TakenSince l) : Since old l (s.send errand credential) where
  store := h.store
  requests := by
    intro r hr
    rcases List.mem_append.mp hr with hr | hr
    · exact h.requests r hr
    · rw [List.mem_singleton.mp hr]
      exact .inr taken

theorem answer (h : Since old l s) {store : Store} (hs : ∃ m, l.Evolves m ∧ store.Holds m) (i : Nat)
    (r : Request) (refused : Bool) (gate : γ) : Since old l (s.answer i r refused gate store) := by
  unfold Session.answer
  cases refused with
  | false => exact ⟨hs, fun q hq => h.requests q (List.mem_of_mem_eraseIdx hq)⟩
  | true =>
    refine ⟨hs, fun q hq => ?_⟩
    obtain ⟨p, hp, rfl⟩ := List.mem_map.mp hq
    exact h.requests p (List.mem_of_mem_eraseIdx hp)

end Since

/-- The end of an erasure empties the store, or leaves it as it is. -/
theorem finishErase_store {store : Store} (h : store.Holds m) (result : Except Error Unit)
    (gate : γ) :
    (Account.finishErase result gate store).2.2.Holds m ∧
        (Account.finishErase result gate store).1 ≠ .ok () ∨
      (Account.finishErase result gate store).2.2.Holds m.clear := by
  unfold Account.finishErase
  cases result with
  | error e => exact .inl ⟨h, by simp⟩
  | ok u =>
    rcases Store.eraseAll_cases h with ⟨fault, he⟩ | ⟨store', he, hs⟩
    · simp only [he]
      exact .inl ⟨h, by simp⟩
    · simp only [he]
      exact .inr hs

/-! Whatever a move does to the store, its log has become another one. -/

theorem finishErase_evolves {store : Store} (h : store.Holds m) (result : Except Error Unit)
    (gate : γ) :
    ∃ m', m.Evolves m' ∧ (Account.finishErase result gate store).2.2.Holds m' := by
  rcases finishErase_store h result gate with ⟨hs, -⟩ | hs
  · exact ⟨m, .refl m, hs⟩
  · exact ⟨m.clear, m.evolves_clear, hs⟩

theorem finish_evolves {store : Store} (h : store.Holds m) (a : Attempt) (outcome : Outcome)
    (gate : γ) : ∃ m', m.Evolves m' ∧ (a.finish outcome gate store).2.2.Holds m' := by
  rcases a.finish_cases h outcome gate with ⟨-, store', hf, hs⟩ | ⟨failure, gate', hf⟩
  · exact ⟨_, m.evolves_deliver a.batch.ids, by rw [hf]; exact hs⟩
  · exact ⟨m, .refl m, by rw [hf]; exact h⟩

omit [CredentialGate γ] in
theorem append_evolves {store : Store} (h : store.Holds m) (e : Event) :
    ∃ m', m.Evolves m' ∧ (store.append e).2.Holds m' := by
  rcases Store.append_cases h e with ⟨fault, ha⟩ | ⟨id, hid, store', ha, hs⟩
  · exact ⟨m, .refl m, by rw [ha]; exact h⟩
  · exact ⟨_, m.evolves_append e hid, by rw [ha]; exact hs⟩

/-- Each move keeps to what was said of the log. -/
theorem Since.step (h : Since old l s) (move : Move γ)
    (appends : ∀ store, move = .work store → ∃ e, store = (s.store.append e).2) :
    Since old l (s.step move) := by
  obtain ⟨m, hl, hm⟩ := h.store
  have on {store : Store} (hs : ∃ m', m.Evolves m' ∧ store.Holds m') :
      ∃ m', l.Evolves m' ∧ store.Holds m' := by
    obtain ⟨m', hm', hs⟩ := hs
    exact ⟨m', hl.trans hm', hs⟩
  cases move with
  | attempt c =>
    rcases c.begin_cases hm s.gate with ⟨report, hb, -⟩ | ⟨credential, -, hb⟩
    · simp only [Session.step, hb]
      exact h
    · simp only [Session.step, hb]
      exact h.send credential ⟨c, m, hl, rfl⟩
  | exportData =>
    simp only [Session.step]
    split
    · exact h
    · exact h.send _ trivial
  | eraseData =>
    simp only [Session.step]
    split
    · exact h
    · exact h.send _ trivial
  | uploaded i outcome =>
    simp only [Session.step]
    split
    · exact h.answer (on (finish_evolves hm _ outcome s.gate)) _ _ _ _
    · exact h
  | exported i result =>
    simp only [Session.step]
    split
    · exact h.answer h.store _ _ _ _
    · exact h
  | erased i result =>
    simp only [Session.step]
    split
    · exact h.answer (on (finishErase_evolves hm result s.gate)) _ _ _ _
    · exact h
  | drop i => exact ⟨h.store, fun r hr => h.requests r (List.mem_of_mem_eraseIdx hr)⟩
  | change gate =>
    refine ⟨h.store, fun r hr => ?_⟩
    obtain ⟨p, hp, rfl⟩ := List.mem_map.mp hr
    exact h.requests p hp
  | work store =>
    obtain ⟨e, rfl⟩ := appends store rfl
    exact ⟨on (append_evolves hm e), h.requests⟩

theorem Since.run (h : Since old l s) {moves : List (Move γ)} (appends : s.Appends moves) :
    Since old l (s.run moves) := by
  induction moves generalizing s with
  | nil => exact h
  | cons move moves ih => exact ih (h.step move appends.1) appends.2

/-- After an erasure the store is empty, and so is the log. -/
theorem Erases.store {i : Nat} (h : s.Erases i) (hm : s.store.Holds m) :
    (s.step (.erased i (.ok ()))).store.Holds m.clear := by
  obtain ⟨⟨credential, since, hi⟩, well⟩ := h
  simp only [Session.step, hi]
  rcases finishErase_store hm (.ok ()) s.gate with ⟨-, failed⟩ | hs
  · exact absurd well failed
  · exact hs

/-- The requests that are on their way after an erasure were so before. -/
theorem Erases.carried {i : Nat} (h : s.Erases i) {r : Request}
    (hr : r ∈ (s.step (.erased i (.ok ()))).requests) :
    r.carried ∈ s.requests.map Request.carried := by
  obtain ⟨⟨credential, since, hi⟩, -⟩ := h
  simp only [Session.step, hi] at hr
  exact List.mem_map_of_mem (List.mem_of_mem_eraseIdx hr)

/-- From an erasure on, the log is one that has no records yet. -/
theorem Erases.since {i : Nat} (h : s.Erases i) (hm : s.store.Holds m) :
    Since (s.requests.map Request.carried) m.clear (s.step (.erased i (.ok ()))) where
  store := ⟨m.clear, .refl _, h.store hm⟩
  requests _ hr := .inl (h.carried hr)

/-- What has come since an erasure has nothing of what was erased. -/
theorem Since.spares (h : Since old l.clear s) :
    (∀ (c : Coordinator) (a : Attempt), c.begin s.gate s.store = .ok a →
      a.batch.Spares (l.records.map Record.kept)) ∧
    ∀ r ∈ s.requests, ∀ batch, r.errand = .upload batch →
      r.carried ∈ old ∨ batch.Spares (l.records.map Record.kept) := by
  refine ⟨fun c a ha => ?_, fun r hr batch hb => ?_⟩
  · obtain ⟨m, hm, holds⟩ := h.store
    rcases c.begin_cases holds s.gate with ⟨report, hc, -⟩ | ⟨credential, -, hc⟩
    · rw [hc] at ha
      cases ha
    · rw [hc] at ha
      cases ha
      exact Coordinator.batchOf_spares hm c
  · rcases h.requests r hr with was | taken
    · exact .inl was
    · rw [hb] at taken
      obtain ⟨c, past, hp, rfl⟩ := taken
      exact .inr (Coordinator.batchOf_spares hp c)

/-- In a run in which others only append events, the records that an erasure has removed are in no
batch of an attempt that begins after it. The only uploads that may still carry one of them are
those that were on their way when the erasure ended. -/
theorem erased_not_sent {history : List Store.Entry} {store : Store}
    (reached : Store.Reached history store) (gate : γ) {before after : List (Move γ)} {i : Nat}
    (erases : (run { gate, store } before).Erases i)
    (appends : Appends { gate, store } (before ++ .erased i (.ok ()) :: after)) :
    let s := run { gate, store } before
    let later := run { gate, store } (before ++ .erased i (.ok ()) :: after)
    ∃ removed, s.store.contents = .ok removed ∧
      (∀ (c : Coordinator) (a : Attempt), c.begin later.gate later.store = .ok a →
        a.batch.Spares removed) ∧
      ∀ r ∈ later.requests, ∀ batch, r.errand = .upload batch →
        r.carried ∈ s.requests.map Request.carried ∨ batch.Spares removed := by
  intro s later
  obtain ⟨appends, -, appends'⟩ := appends_append.mp appends
  obtain ⟨l, hl⟩ := reached.traced
  have start : Since _ l ({ gate, store } : Session γ) := since_now hl.holds
  obtain ⟨m, -, hm⟩ := (start.run appends).store
  have kept : Since (s.requests.map Request.carried) m.clear later := by
    show Since _ _ (run _ _)
    rw [run_append]
    exact (erases.since hm).run appends'
  exact ⟨_, Store.contents_eq hm, kept.spares⟩

/-- A batch is on its way, and then an erasure begins. -/
def erasing : Session MemoryGate := loggedIn.run [.attempt default, .eraseData]

/-- The erasure ends well and leaves no record, and the batch with the record that was erased is
still on its way. -/
theorem sent_erased :
    let s := erasing.step (.erased 1 (.ok ()))
    erasing.Erases 1 ∧ erasing.store.contents = .ok [⟨1, .pending, default⟩] ∧
      s.store.contents = .ok [] ∧
      ∃ batch, s.requests.map Request.carried = [(.upload batch, ⟨"old"⟩)] ∧ batch.ids = [1] :=
  ⟨⟨⟨_, _, rfl⟩, rfl⟩, rfl, rfl, _, rfl, rfl⟩

/-- An event that is appended after the erasure is sent alone. -/
theorem erased_not_sent_appended :
    let s := erasing.step (.erased 1 (.ok ()))
    ∃ a, (default : Coordinator).begin s.gate (s.store.append default).2 = .ok a ∧
      a.batch.ids = [2] ∧ a.batch.Spares [⟨1, .pending, default⟩] := by
  intro s
  have reached : Store.Reached _ loggedIn.store :=
    ⟨Store.inMemory, _, [.append default], by decide, rfl, rfl, rfl⟩
  have erases : erasing.Erases 1 := ⟨⟨_, _, rfl⟩, rfl⟩
  have appends : loggedIn.Appends ([.attempt default, .eraseData] ++
      .erased 1 (.ok ()) :: [.work (s.store.append default).2]) :=
    appends_append.mpr ⟨appends_of_no_work (by simp),
      fun _ answer => (by cases answer), appends_work s default⟩
  obtain ⟨removed, contents, spared, -⟩ := erased_not_sent reached loggedIn.gate erases appends
  have one : Except.ok [⟨1, .pending, default⟩] = Except.ok removed := contents
  cases one
  exact ⟨_, rfl, rfl, spared default _ rfl⟩

end Session

end Outbox
