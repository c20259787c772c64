import Outbox.Proofs.Fleet.Invariant

/-!
# Nothing is lost or sent again

As long as nothing is erased, a log keeps all its records (`Log.Retains`), so that the store has
every event that was ever appended, once. What a commit has delivered is never selected again,
while attempts that have selected it before may still send it. So an attempt that finds nothing to
send has found everything delivered (`kept_and_delivered_once`).
-/

namespace Outbox

namespace Log

variable {l m n : Log}

/-- A log and what has become of it without an erasure: every number is still that of a record, and
what was delivered has stayed so. -/
def Retains (old new : Log) : Prop :=
  ∀ r ∈ old.records, ∃ s ∈ new.records, s.id = r.id ∧ (r.state = .delivered → s.state = .delivered)

theorem Retains.trans (h : l.Retains m) (h' : m.Retains n) : l.Retains n := by
  intro r hr
  obtain ⟨s, hs, hid, hd⟩ := h r hr
  obtain ⟨t, ht, hid', hd'⟩ := h' s hs
  exact ⟨t, ht, hid'.trans hid, fun h => hd' (hd h)⟩

/-- A log that is delivered in part, and goes on with new records. -/
theorem retains_deliver {ids : List RecordId} {new : List Record}
    (h : m.records = (l.deliver ids).records ++ new) : l.Retains m := by
  intro r hr
  refine ⟨r.deliverIn ids, ?_, Record.deliverIn_id, fun hs => ?_⟩
  · rw [h]
    exact List.mem_append_left _ (List.mem_map_of_mem hr)
  · rwa [Record.deliverIn_of_delivered hs]

end Log

namespace Fleet

variable {γ : Type} [CredentialGate γ] {f : Fleet} {l : Log}

/-- The events that a run appends, with their numbers. -/
def appended (f : Fleet) : List (Move γ) → List (RecordId × Event)
  | [] => []
  | move :: moves => (f.append? move).toList ++ (f.step move).appended moves

/-- The batches that a run commits with a report of success. -/
def committed (f : Fleet) : List (Move γ) → List Batch
  | [] => []
  | move :: moves => (f.commit? move).toList ++ (f.step move).committed moves

/-- All that a move other than an erasure does to the records: those of the batch it commits are
delivered, and one may be appended. -/
theorem step_records (h : f.store.Holds l) {move : Move γ} (hm : .erase ≠ move) :
    ∃ l', Effect f l (f.commit? move) (f.step move) l' ∧
      l'.records = (l.deliver ((f.commit? move).elim [] Batch.ids)).records ++
        (f.append? move).toList.map recordOf := by
  have same : l.records = (l.deliver []).records ++ [] := by
    rw [Log.deliver_nil, List.append_nil]
  cases move with
  | begin k gate => exact ⟨l, begin_effect h k gate, same⟩
  | finish i outcome gate =>
    exact ⟨_, finish_effect h i outcome gate, (List.append_nil _).symm⟩
  | drop i => exact ⟨l, .dropped i, same⟩
  | append e =>
    obtain ⟨l', he, hr⟩ := append_effect (γ := γ) h e
    refine ⟨l', he, ?_⟩
    rw [hr]
    simp only [commit?, Option.elim_none, Log.deliver_nil]
  | erase => exact absurd rfl hm
  | reopen readOnly => exact ⟨l, reopen_effect h readOnly, same⟩

/-- A flight has a batch of records that are still there. -/
def Flight.Kept (flight : Flight) (l : Log) : Prop :=
  ∃ (c : Coordinator) (past : Log), past.Retains l ∧ flight.attempt.batch = c.batchOf past

theorem Flight.Kept.mono {flight : Flight} {m : Log} (h : flight.Kept l) (hr : l.Retains m) :
    flight.Kept m := by
  obtain ⟨c, past, hp, hb⟩ := h
  exact ⟨c, past, hp.trans hr, hb⟩

/-- The records of the batch are there, and delivered. -/
def Done (b : Batch) (l : Log) : Prop :=
  ∀ id ∈ b.ids, ∃ r ∈ l.records, r.id = id ∧ r.state = .delivered

theorem Done.mono {b : Batch} {m : Log} (h : Done b l) (hr : l.Retains m) : Done b m := by
  intro id hid
  obtain ⟨r, hr', rfl, hs⟩ := h id hid
  obtain ⟨s, hs', hid', hd⟩ := hr r hr'
  exact ⟨s, hs', hid', hd hs⟩

/-- The commit of a batch whose records are there delivers them. -/
theorem Flight.Kept.done {flight : Flight} (h : flight.Kept l) :
    Done flight.attempt.batch (l.deliver flight.attempt.batch.ids) := by
  obtain ⟨c, past, hp, hb⟩ := h
  intro id hid
  rw [hb] at hid ⊢
  obtain ⟨r, hr, rfl, -⟩ := Coordinator.pending_of_mem_batchOf hid
  obtain ⟨s, hs, hsid, -⟩ := hp r hr
  rw [← hsid] at hid
  refine ⟨s.deliverIn (c.batchOf past).ids, List.mem_map_of_mem hs, ?_, ?_⟩
  · rw [Record.deliverIn_id, hsid]
  · rw [Record.deliverIn_of_mem hid, Record.deliver_state]

/-- What moves without an erasure keep up: the log has the events that were given to it, the batches
that are on their way are of records that are there, and those that were committed are done. -/
structure Retained (given : List (RecordId × Event)) (done : List Batch) (f : Fleet) (l : Log) :
    Prop where
  holds : f.store.Holds l
  records : l.records.map (fun r => (r.id, r.event)) = given
  flights : ∀ flight ∈ f.flights, flight.Kept l
  done : ∀ b ∈ done, Done b l

namespace Retained

variable {given : List (RecordId × Event)} {done : List Batch} {b : Option Batch} {f' : Fleet}
  {l' : Log}

theorem flights_effect (h : Retained given done f l) (he : Effect f l b f' l')
    (hr : l.Retains l') : ∀ flight ∈ f'.flights, flight.Kept l' := by
  intro flight hf
  rcases he.flight_cases hf with hf | ⟨m, credential, -, ha⟩
  · exact (h.flights flight hf).mono hr
  · exact ⟨m.coordinator, l, hr, by rw [ha]⟩

/-- What a move commits is done. -/
theorem done_effect (h : Retained given done f l) (he : Effect f l b f' l') (hr : l.Retains l') :
    ∀ b' ∈ done ++ b.toList, Done b' l' := by
  intro b' hb
  rcases List.mem_append.mp hb with hb | hb
  · exact (h.done b' hb).mono hr
  · obtain rfl := Option.mem_toList.mp hb
    obtain ⟨⟨flight, hf, rfl⟩, rfl⟩ := he.of_commit
    exact (h.flights flight hf).done

variable {move : Move γ}

theorem step (h : Retained given done f l) (hm : .erase ≠ move) :
    ∃ l', Retained (given ++ (f.append? move).toList) (done ++ (f.commit? move).toList)
      (f.step move) l' := by
  obtain ⟨l', he, hr⟩ := step_records h.holds hm
  have retains : l.Retains l' := Log.retains_deliver hr
  refine ⟨l', he.holds h.holds, ?_, h.flights_effect he retains, h.done_effect he retains⟩
  rw [hr, List.map_append, ← h.records, Log.deliver, List.map_map, List.map_map]
  congr 1
  · exact List.map_congr_left fun r _ => by simp
  · exact List.map_id' _

theorem run {moves : List (Move γ)} (h : Retained given done f l) (hm : .erase ∉ moves) :
    ∃ l', Retained (given ++ f.appended moves) (done ++ f.committed moves) (f.run moves) l' := by
  induction moves generalizing f l given done with
  | nil => exact ⟨l, by simpa [appended, committed, Fleet.run] using h⟩
  | cons move moves ih =>
    obtain ⟨first, rest⟩ := List.ne_and_not_mem_of_not_mem_cons hm
    obtain ⟨m, hstep⟩ := h.step first
    obtain ⟨n, hrun⟩ := ih hstep rest
    refine ⟨n, ?_⟩
    rw [List.append_assoc, List.append_assoc] at hrun
    exact hrun

end Retained

/-- An attempt that finds nothing to send has found every record delivered. -/
theorem delivered_of_noData {c : Coordinator} {gate : γ} (h : f.store.Holds l)
    (hb : c.begin gate f.store = .error .noData) : ∀ r ∈ l.records, r.state = .delivered := by
  have none : l.pending = [] := by
    rw [Coordinator.begin_eq h] at hb
    split at hb
    · cases hb
    · split at hb
      · assumption
      · cases hb
  intro r hr
  refine Record.not_isPending_iff.mp (Bool.eq_false_iff.mpr fun hs => ?_)
  have waiting : r ∈ l.pending := List.mem_filter.mpr ⟨hr, hs⟩
  rw [none] at waiting
  cases waiting

/-- After a run without an erasure on a store that a migration has made anew, every event that was
appended is in the store once, under its number, and every batch that was committed is delivered. An
attempt that begins then takes no record of a committed batch, and if it finds nothing to send, all
records are delivered. -/
theorem kept_and_delivered_once {old store : Store}
    (hold : old.live.version < Database.currentVersion) (hm : old.migrate = (.ok (), store))
    (coordinators : List Coordinator) {moves : List (Move γ)} (he : .erase ∉ moves) :
    ∃ records, ((start store coordinators).run moves).store.contents = .ok records ∧
      records.map (fun r => (r.id, r.event)) =
        ((start store coordinators).appended moves).map (fun p => (p.1, p.2.kept)) ∧
      (records.Pairwise fun a b => a.id < b.id) ∧
      (∀ b ∈ (start store coordinators).committed moves, ∀ id ∈ b.ids,
        ∃ r ∈ records, r.id = id ∧ r.state = .delivered) ∧
      ∀ (c : Coordinator) (gate : γ),
        (∀ a, c.begin gate ((start store coordinators).run moves).store = .ok a →
          ∀ b ∈ (start store coordinators).committed moves, ∀ id ∈ b.ids, id ∉ a.batch.ids) ∧
        (c.begin gate ((start store coordinators).run moves).store = .error .noData →
          ∀ r ∈ records, r.state = .delivered) := by
  obtain ⟨last, hs⟩ := Store.holds_of_migrate hold hm
  have first : Retained [] [] (start store coordinators) (.empty last) :=
    ⟨hs, rfl, by simp [start], by simp⟩
  obtain ⟨l, hl⟩ := first.run he
  rw [List.nil_append, List.nil_append] at hl
  refine ⟨_, Store.contents_eq hl.holds, ?_, List.pairwise_map.mpr l.ascending, ?_, ?_⟩
  · rw [← hl.records, List.map_map, List.map_map]
    rfl
  · intro b hb id hid
    obtain ⟨r, hr, hrid, hrs⟩ := hl.done b hb id hid
    exact ⟨r.kept, List.mem_map_of_mem hr, hrid, hrs⟩
  · intro c gate
    constructor
    · intro a ha b hb id hid hin
      obtain ⟨r, hr, rfl, hrs⟩ := hl.done b hb id hid
      rcases c.begin_cases hl.holds gate with ⟨report, hc, -⟩ | ⟨credential, -, hc⟩
      · rw [hc] at ha
        cases ha
      · rw [hc] at ha
        cases ha
        -- a batch has pending records only, and the number names a delivered one
        obtain ⟨q, hq, hqid, hqs⟩ := Coordinator.pending_of_mem_batchOf hin
        obtain rfl := l.eq_of_id_eq hq hr hqid
        rw [hrs] at hqs
        cases hqs
    · intro hb r hr
      obtain ⟨q, hq, rfl⟩ := List.mem_map.mp hr
      exact delivered_of_noData hl.holds hb q hq

/-- Two coordinators select the same record, and the second commit comes after another append. -/
def sentTwice : List (Move MemoryGate) :=
  [.append default, .begin 0 ⟨some ⟨"token"⟩⟩, .begin 1 ⟨some ⟨"token"⟩⟩,
    .finish 0 .delivered ⟨some ⟨"token"⟩⟩, .append default,
    .finish 0 .delivered ⟨some ⟨"token"⟩⟩]

/-- After `sentTwice` the first record was committed twice. The next attempt takes the second record
only, and not the first one. -/
theorem kept_and_delivered_once_sentTwice :
    ((start Store.inMemory.migrate.2 [{}, {}]).committed sentTwice).map Batch.ids = [[1], [1]] ∧
      ∃ a, Coordinator.begin {} (⟨some ⟨"token"⟩⟩ : MemoryGate)
        ((start Store.inMemory.migrate.2 [{}, {}]).run sentTwice).store = .ok a ∧
        a.batch.ids = [2] ∧ 1 ∉ a.batch.ids := by
  have fresh : Store.inMemory.live.version < Database.currentVersion := by decide
  have kept : Move.erase ∉ sentTwice := by simp [sentTwice]
  obtain ⟨records, -, -, -, -, once⟩ := kept_and_delivered_once fresh rfl [{}, {}] kept
  refine ⟨rfl, _, rfl, rfl, ?_⟩
  exact (once {} ⟨some ⟨"token"⟩⟩).1 _ rfl _ (List.mem_of_getElem? (i := 0) rfl) 1
    (List.mem_cons_self)

end Fleet

end Outbox
