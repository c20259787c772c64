import Outbox.Proofs.Fleet.Invariant

/-!
# Delivered means acknowledged

A record is delivered only after a batch that told of it was acknowledged, however the attempts
overlap with each other and with what else happens to the store. An erasure does not change this:
the numbers of a batch never come to name records that are newer than the batch.
-/

namespace Outbox.Fleet

variable {γ : Type} [CredentialGate γ] {f g : Fleet} {l m : Log} {coordinators : List Coordinator}

/-- A flight that has come this far commits no record that was not there yet. -/
theorem Flight.Selected.not_mem_ids {flight : Flight} (h : flight.Selected coordinators l)
    (hm : l.Evolves m) {r : Record} (hr : r ∈ m.records)
    (new : ∀ q ∈ l.records, q.id ≠ r.id) : r.id ∉ flight.attempt.batch.ids := by
  obtain ⟨c, past, -, hp, hb⟩ := h
  intro hid
  rw [hb] at hid
  have hlast : r.id ≤ l.last :=
    Int.le_trans (Coordinator.le_last_of_mem_batchOf hid) hp.last_le
  obtain ⟨q, hq, hqid, -⟩ := hm.origin r hr hlast
  exact new q hq hqid

/-- The second step of an attempt keeps the records apart from those of its batch. -/
theorem finish_contents {store : Store} (h : store.Holds l) (a : Attempt) (outcome : Outcome)
    (gate : γ) : ∃ after, (a.finish outcome gate store).2.2.contents = .ok after ∧
      ∀ r ∈ after, ∃ q ∈ l.records, q.id = r.id ∧ (q.id ∉ a.batch.ids → q.kept = r) := by
  rcases a.finish_cases h outcome gate with ⟨-, store', hf, hs⟩ | ⟨failure, gate', hf⟩
  · rw [hf]
    refine ⟨_, Store.contents_eq hs, fun r hr => ?_⟩
    obtain ⟨d, hd, rfl⟩ := List.mem_map.mp hr
    obtain ⟨q, hq, rfl⟩ := List.mem_map.mp hd
    refine ⟨q, hq, by rw [Record.kept_id, Record.deliverIn_id], fun hid => ?_⟩
    rw [Record.deliverIn_of_not_mem hid]
  · rw [hf]
    refine ⟨_, Store.contents_eq h, fun r hr => ?_⟩
    obtain ⟨q, hq, rfl⟩ := List.mem_map.mp hr
    exact ⟨q, hq, q.kept_id.symm, fun _ => rfl⟩

/-- Every delivered record is told of in a batch that was acknowledged, at the place of its number.
And no commit, however late, changes a record that came after the batch was on its way. -/
theorem delivered_acknowledged (h : Reached γ coordinators f) :
    ∃ records, f.store.contents = .ok records ∧
      (∀ r ∈ records, r.state = .delivered →
        ∃ flight ∈ f.acknowledged, ∃ c, coordinators[flight.member]? = some c ∧
          ∃ i : Nat, flight.attempt.batch.ids[i]? = some r.id ∧
            flight.attempt.batch.events[i]? = some (c.anonymizer.transform r)) ∧
      ∀ flight ∈ f.flights, ∀ (later : List (Move γ)) (outcome : Outcome) (gate : γ),
        ∃ before after, (f.run later).store.contents = .ok before ∧
          (flight.attempt.finish outcome gate (f.run later).store).2.2.contents = .ok after ∧
          ∀ r ∈ after, (∀ q ∈ records, q.id ≠ r.id) → r ∈ before := by
  obtain ⟨l, hl⟩ := h.sound
  refine ⟨_, Store.contents_eq hl.holds, ?_, ?_⟩
  · intro r hr hs
    obtain ⟨r₀, hr₀, rfl⟩ := List.mem_map.mp hr
    obtain ⟨flight, hf, hid⟩ := hl.delivered r₀ hr₀ hs
    obtain ⟨c, past, hc, hp, hb⟩ := hl.acknowledged flight hf
    rw [hb] at hid
    obtain ⟨i, hi, he⟩ := hp.batchOf_at hr₀ hid
    exact ⟨flight, hf, c, hc, i, by rw [hb, hi, Record.kept_id], by rw [hb, he]⟩
  · intro flight hf later outcome gate
    obtain ⟨m, hm, hrun⟩ := hl.run later
    obtain ⟨after, ha, apart⟩ := finish_contents hrun.holds flight.attempt outcome gate
    refine ⟨_, after, Store.contents_eq hrun.holds, ha, fun r hr new => ?_⟩
    obtain ⟨q, hq, hid, same⟩ := apart r hr
    have out : q.id ∉ flight.attempt.batch.ids := by
      refine (hl.flights flight hf).not_mem_ids hm hq fun p hp => ?_
      rw [hid]
      exact new p.kept (List.mem_map_of_mem hp)
    rw [← same out]
    exact List.mem_map_of_mem hq

/-- A record is erased and another one appended while a batch is on its way; the other one is
uploaded by a second attempt. -/
def lateCommit : List (Move MemoryGate) :=
  [.append default, .begin 0 ⟨some ⟨"token"⟩⟩, .erase, .append default,
    .begin 0 ⟨some ⟨"token"⟩⟩, .finish 1 .delivered ⟨some ⟨"token"⟩⟩]

/-- After `lateCommit` the second record is delivered, as a batch has told of it, and the first
batch is still on its way. -/
theorem delivered_acknowledged_lateCommit :
    ((start Store.inMemory.migrate.2 [{}]).run lateCommit).flights.map (·.attempt.batch.ids) =
        [[1]] ∧
      ∃ flight ∈ ((start Store.inMemory.migrate.2 [{}]).run lateCommit).acknowledged,
        ∃ i : Nat, flight.attempt.batch.ids[i]? = some 2 := by
  refine ⟨rfl, ?_⟩
  obtain ⟨records, hr, told, -⟩ := delivered_acknowledged (reached_inMemory [{}] lateCommit)
  have contents : ((start Store.inMemory.migrate.2 [{}]).run lateCommit).store.contents =
      .ok [⟨2, .delivered, default⟩] := rfl
  rw [contents] at hr
  injection hr with hr
  subst hr
  obtain ⟨flight, hf, -, -, i, hi, -⟩ := told _ List.mem_cons_self rfl
  exact ⟨flight, hf, i, hi⟩

end Outbox.Fleet
