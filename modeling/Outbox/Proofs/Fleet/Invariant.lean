import Outbox.Proofs.Fleet.Basic

/-!
# What overlapping attempts keep up

Every batch was taken from the log as it once was, and that log has only gone on since
(`Flight.Selected`). From this follows that a commit leaves no gap (`gapFree_deliver`), and that a
delivered record is one of an acknowledged batch. `Sound` is what every move keeps up.
-/

namespace Outbox

namespace Log

/-- Every delivered record is older than every pending one. -/
def GapFree (l : Log) : Prop :=
  ∀ d ∈ l.records, ∀ p ∈ l.records, d.state = .delivered → p.state = .pending → d.id < p.id

variable {past l : Log} {c : Coordinator}

theorem gapFree_append {id : RecordId} (h : l.GapFree) (e : Event) (hid : l.last < id) :
    (l.append id e hid).GapFree := by
  intro d hd p hp hds hps
  have old : d ∈ l.records := mem_of_mem_append hd hds
  rcases mem_append.mp hp with hp | rfl
  · exact h d old p hp hds hps
  · exact Int.lt_of_le_of_lt (l.bounded d old) hid

/-- What is older than a record of a batch and still pending is in the batch as well. -/
theorem Evolves.mem_batchOf (h : past.Evolves l) {id : RecordId} (hid : id ∈ (c.batchOf past).ids)
    {p : Record} (hp : p ∈ l.records) (hs : p.state = .pending) (hle : p.id ≤ id) :
    p.id ∈ (c.batchOf past).ids := by
  obtain ⟨d, hd, rfl⟩ := Coordinator.mem_batchOf_ids.mp hid
  have hlast : p.id ≤ past.last :=
    Int.le_trans hle (Coordinator.le_last_of_mem_batchOf hid)
  obtain ⟨q, hq, hqid, -, hqs⟩ := h.origin p hp hlast
  have waiting : q.state = .pending := by
    cases hstate : q.state with
    | pending => rfl
    | delivered =>
      rw [hqs hstate] at hs
      cases hs
  have taken : q ∈ past.pending.take c.limit :=
    mem_take_of_id_le past.pending_ascending (mem_pending.mpr ⟨hq, waiting⟩) hd (hqid ▸ hle)
  exact Coordinator.mem_batchOf_ids.mpr ⟨q, taken, hqid⟩

/-- The commit of a batch leaves no gap, however old the batch is. -/
theorem gapFree_deliver (h : l.GapFree) (hpast : past.Evolves l) :
    (l.deliver (c.batchOf past).ids).GapFree := by
  intro d hd p hp hds hps
  obtain ⟨d₀, hd₀, rfl⟩ := List.mem_map.mp hd
  obtain ⟨p₀, hp₀, rfl⟩ := List.mem_map.mp hp
  rw [Record.deliverIn_id, Record.deliverIn_id]
  rw [Record.deliverIn_state] at hds hps
  -- the pending record is not one of the batch
  split at hps
  · cases hps
  next out =>
    split at hds
    · next hin =>
      refine Int.not_le.mp fun hle => out ?_
      exact hpast.mem_batchOf hin hp₀ hps hle
    · exact h d₀ hd₀ p₀ hp₀ hds hps

/-- The event of a batch at the place of a number is that of the record with this number. -/
theorem Evolves.batchOf_at (h : past.Evolves l) {r : Record} (hr : r ∈ l.records)
    (hid : r.id ∈ (c.batchOf past).ids) :
    ∃ i : Nat, (c.batchOf past).ids[i]? = some r.id ∧
      (c.batchOf past).events[i]? = some (c.anonymizer.transform r.kept) := by
  obtain ⟨s, hs, hsid, i, hi, he⟩ := Coordinator.batchOf_at hid
  obtain ⟨t, ht, htid, hte, -⟩ := h.origin r hr (Coordinator.le_last_of_mem_batchOf hid)
  obtain rfl : s = t := past.eq_of_id_eq hs ht (hsid.trans htid.symm)
  have same : c.anonymizer.transform s.kept = c.anonymizer.transform r.kept := by
    unfold Anonymizer.transform
    rw [Record.kept_event, Record.kept_event, hte]
  exact ⟨i, hi, same ▸ he⟩

end Log

namespace Fleet

variable {f f' : Fleet} {l l' : Log} {coordinators : List Coordinator} {b : Option Batch}

/-- The batch of the flight is one that its coordinator took from the log as it once was. -/
def Flight.Selected (flight : Flight) (coordinators : List Coordinator) (l : Log) : Prop :=
  ∃ c past, coordinators[flight.member]? = some c ∧ past.Evolves l ∧
    flight.attempt.batch = c.batchOf past

theorem Flight.Selected.mono {flight : Flight} (h : flight.Selected coordinators l)
    (hl : l.Evolves l') : flight.Selected coordinators l' := by
  obtain ⟨c, past, hc, hp, hb⟩ := h
  exact ⟨c, past, hc, hp.trans hl, hb⟩

/-- What every move keeps up. -/
structure Sound (coordinators : List Coordinator) (f : Fleet) (l : Log) : Prop where
  holds : f.store.Holds l
  members : f.members.map (·.coordinator) = coordinators
  flights : ∀ flight ∈ f.flights, flight.Selected coordinators l
  acknowledged : ∀ flight ∈ f.acknowledged, flight.Selected coordinators l
  delivered : ∀ r ∈ l.records, r.state = .delivered →
    ∃ flight ∈ f.acknowledged, r.id ∈ flight.attempt.batch.ids
  gapFree : l.GapFree

@[simp] theorem ended_coordinators (f : Fleet) (k : Nat) (report : SyncReport) :
    (f.ended k report).members.map (·.coordinator) = f.members.map (·.coordinator) := by
  unfold ended
  refine List.ext_getElem? fun i => ?_
  simp only [List.getElem?_map, List.getElem?_modify]
  split <;> cases f.members[i]? <;> rfl

theorem sound_start {store : Store} {last : RecordId} (h : store.Holds (.empty last))
    (coordinators : List Coordinator) :
    Sound coordinators (start store coordinators) (.empty last) where
  holds := h
  members := List.map_map.trans (List.map_id' coordinators)
  flights := by simp [start]
  acknowledged := by simp [start]
  delivered := fun _ hr => nomatch hr
  gapFree := fun _ hd => nomatch hd

namespace Sound

/-- The coordinators stay. -/
theorem members_effect (h : Sound coordinators f l) (he : Effect f l b f' l') :
    f'.members.map (·.coordinator) = coordinators := by
  cases he <;> simpa using h.members

/-- A new flight has a batch of the log; the others are those of before. -/
theorem flights_effect (h : Sound coordinators f l) (he : Effect f l b f' l') :
    ∀ flight ∈ f'.flights, flight.Selected coordinators l' := by
  intro flight hf
  rcases he.flight_cases hf with hf | ⟨m, credential, hm, ha⟩
  · exact (h.flights flight hf).mono he.evolves
  · refine ⟨m.coordinator, l, ?_, he.evolves, by rw [ha]⟩
    rw [← h.members, List.getElem?_map, hm, Option.map_some]

/-- What is acknowledged was a flight before. -/
theorem acknowledged_effect (h : Sound coordinators f l) (he : Effect f l b f' l') :
    ∀ flight ∈ f'.acknowledged, flight.Selected coordinators l' := by
  have old : ∀ flight ∈ f.acknowledged, flight.Selected coordinators l' :=
    fun flight hf => (h.acknowledged flight hf).mono he.evolves
  have new : ∀ (i : Nat) flight, f.flights[i]? = some flight → ∀ g ∈ f.acknowledged ++ [flight],
      g.Selected coordinators l' := by
    intro i flight hi g hg
    rcases List.mem_append.mp hg with hg | hg
    · exact old g hg
    · rw [List.mem_singleton.mp hg]
      exact (h.flights flight (List.mem_of_getElem? hi)).mono he.evolves
  cases he with
  | failed failure hi ha =>
    rcases ha with rfl | rfl
    · exact old
    · exact new _ _ hi
  | committed hi hs => exact new _ _ hi
  | _ => exact old

/-- What a move delivers is in the batch that was acknowledged by it. -/
theorem delivered_effect (h : Sound coordinators f l) (he : Effect f l b f' l') :
    ∀ r ∈ l'.records, r.state = .delivered →
      ∃ flight ∈ f'.acknowledged, r.id ∈ flight.attempt.batch.ids := by
  cases he with
  | failed failure hi ha =>
    intro r hr hs
    obtain ⟨flight, hf, hid⟩ := h.delivered r hr hs
    refine ⟨flight, ?_, hid⟩
    rcases ha with rfl | rfl
    · exact hf
    · exact List.mem_append_left _ hf
  | @committed i flight store hi hs =>
    intro r hr hrs
    obtain ⟨r₀, hr₀, rfl⟩ := List.mem_map.mp hr
    rw [Record.deliverIn_state] at hrs
    rw [Record.deliverIn_id]
    split at hrs
    · next hin => exact ⟨flight, List.mem_append_right _ (List.mem_singleton_self _), hin⟩
    · obtain ⟨g, hg, hid⟩ := h.delivered r₀ hr₀ hrs
      exact ⟨g, List.mem_append_left _ hg, hid⟩
  | appended e hid hs =>
    exact fun r hr hrs => h.delivered r (Log.mem_of_mem_append hr hrs) hrs
  | erased hs => exact fun _ hr => nomatch hr
  | _ => exact h.delivered

theorem gapFree_effect (h : Sound coordinators f l) (he : Effect f l b f' l') : l'.GapFree := by
  cases he with
  | @committed i flight store hi hs =>
    obtain ⟨c, past, -, hp, hb⟩ := h.flights flight (List.mem_of_getElem? hi)
    rw [hb]
    exact Log.gapFree_deliver h.gapFree hp
  | appended e hid hs => exact Log.gapFree_append h.gapFree e hid
  | erased hs => exact fun _ hd => nomatch hd
  | _ => exact h.gapFree

/-- Every move keeps up what is sound. -/
theorem effect (h : Sound coordinators f l) (he : Effect f l b f' l') :
    Sound coordinators f' l' where
  holds := he.holds h.holds
  members := h.members_effect he
  flights := h.flights_effect he
  acknowledged := h.acknowledged_effect he
  delivered := h.delivered_effect he
  gapFree := h.gapFree_effect he

variable {γ : Type} [CredentialGate γ]

theorem run (h : Sound coordinators f l) (moves : List (Move γ)) :
    ∃ l', l.Evolves l' ∧ Sound coordinators (f.run moves) l' := by
  induction moves generalizing f l with
  | nil => exact ⟨l, .refl l, h⟩
  | cons move moves ih =>
    obtain ⟨m, he⟩ := step_effect h.holds move
    obtain ⟨n, hn, hrun⟩ := ih (h.effect he)
    exact ⟨n, he.evolves.trans hn, hrun⟩

end Sound

variable {γ : Type} [CredentialGate γ]

/-- What coordinators come to on a store that a migration has made anew. -/
def Reached (γ : Type) [CredentialGate γ] (coordinators : List Coordinator) (f : Fleet) : Prop :=
  ∃ (old store : Store) (moves : List (Move γ)), old.live.version < Database.currentVersion ∧
    old.migrate = (.ok (), store) ∧ (start store coordinators).run moves = f

theorem Reached.sound (h : Reached γ coordinators f) : ∃ l, Sound coordinators f l := by
  obtain ⟨old, store, moves, hv, hm, rfl⟩ := h
  obtain ⟨last, hold⟩ := Store.holds_of_migrate hv hm
  obtain ⟨l, -, hl⟩ := (sound_start hold coordinators).run moves
  exact ⟨l, hl⟩

theorem reached_inMemory (coordinators : List Coordinator) (moves : List (Move γ)) :
    Reached γ coordinators ((start Store.inMemory.migrate.2 coordinators).run moves) :=
  ⟨Store.inMemory, _, moves, by decide, rfl, rfl⟩

end Fleet

end Outbox
