import Outbox.Proofs.Fleet.Invariant

/-!
# Delivery in order

Records are delivered in the order in which they were appended, whatever attempts overlap: the
delivered records are the oldest ones.
-/

namespace Outbox

/-- Records without a gap in their delivery are delivered ones, and then pending ones. -/
theorem Log.GapFree.split {l : Log} (h : l.GapFree) :
    ∃ delivered pending, l.records = delivered ++ pending ∧
      (∀ r ∈ delivered, r.state = .delivered) ∧ ∀ r ∈ pending, r.state = .pending := by
  have ascending := l.ascending
  unfold GapFree at h
  generalize l.records = rs at h ascending
  induction rs with
  | nil => exact ⟨[], [], rfl, by simp, by simp⟩
  | cons r rs ih =>
    obtain ⟨first, rest⟩ := List.pairwise_cons.mp ascending
    cases hs : r.state with
    | delivered =>
      obtain ⟨delivered, pending, rfl, hd, hp⟩ := ih (fun d hd p hp =>
        h d (List.mem_cons_of_mem r hd) p (List.mem_cons_of_mem r hp)) rest
      exact ⟨r :: delivered, pending, rfl, List.forall_mem_cons.mpr ⟨hs, hd⟩, hp⟩
    | pending =>
      -- what comes later cannot be delivered any more
      have later : ∀ s ∈ rs, s.state = .pending := by
        intro s hr
        cases hs' : s.state with
        | pending => rfl
        | delivered =>
          have hlt := h s (List.mem_cons_of_mem r hr) r List.mem_cons_self hs' hs
          exact absurd (Int.lt_trans hlt (first s hr)) (Int.lt_irrefl _)
      exact ⟨[], r :: rs, rfl, by simp, List.forall_mem_cons.mpr ⟨hs, later⟩⟩

namespace Fleet

variable {γ : Type} [CredentialGate γ] {f : Fleet} {coordinators : List Coordinator}

/-- The delivered records come first in the order of the numbers, and the pending ones follow. -/
theorem delivered_prefix (h : Reached γ coordinators f) :
    ∃ delivered pending, f.store.contents = .ok (delivered ++ pending) ∧
      (delivered ++ pending).Pairwise (fun a b => a.id < b.id) ∧
      (∀ r ∈ delivered, r.state = .delivered) ∧ (∀ r ∈ pending, r.state = .pending) ∧
      ∀ d ∈ delivered, ∀ p ∈ pending, d.id < p.id := by
  obtain ⟨l, hl⟩ := h.sound
  obtain ⟨delivered, pending, hr, hd, hp⟩ := hl.gapFree.split
  have ascending : (l.records.map Record.kept).Pairwise fun a b => a.id < b.id :=
    List.pairwise_map.mpr l.ascending
  have contents := Store.contents_eq hl.holds
  rw [hr, List.map_append] at ascending contents
  refine ⟨_, _, contents, ascending, ?_, ?_, (List.pairwise_append.mp ascending).2.2⟩
  · intro r hr
    obtain ⟨d, hd', rfl⟩ := List.mem_map.mp hr
    exact hd d hd'
  · intro r hr
    obtain ⟨p, hp', rfl⟩ := List.mem_map.mp hr
    exact hp p hp'

/-- Two coordinators with different limits take batches, and the larger one is committed first. -/
def overlapping : List (Move MemoryGate) :=
  [.append default, .append default, .append default, .begin 0 ⟨some ⟨"token"⟩⟩,
    .begin 1 ⟨some ⟨"token"⟩⟩, .finish 1 .delivered ⟨some ⟨"token"⟩⟩, .append default,
    .finish 0 .delivered ⟨some ⟨"token"⟩⟩]

/-- After `overlapping` the two oldest of four records are delivered. -/
theorem delivered_prefix_overlapping :
    ∃ delivered pending : List Record,
      (delivered ++ pending).map (·.state) = [.delivered, .delivered, .pending, .pending] ∧
        ∀ d ∈ delivered, ∀ p ∈ pending, d.id < p.id := by
  obtain ⟨delivered, pending, hr, -, -, -, lt⟩ := delivered_prefix
    (reached_inMemory [{ limit := 1 }, { limit := 2 }] overlapping)
  refine ⟨delivered, pending, ?_, lt⟩
  have contents : ((start Store.inMemory.migrate.2 [{ limit := 1 }, { limit := 2 }]).run
      overlapping).store.contents = .ok [⟨1, .delivered, default⟩, ⟨2, .delivered, default⟩,
        ⟨3, .pending, default⟩, ⟨4, .pending, default⟩] := rfl
  rw [contents] at hr
  injection hr with hr
  rw [← hr]
  rfl

end Fleet

end Outbox
