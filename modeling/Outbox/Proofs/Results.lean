/-!
# Results

What the success of a composed step tells of its parts.
-/

namespace Outbox

variable {ε α β γ : Type}

/-- Steps that succeed have each succeeded. -/
theorem bind_eq_ok {x : Except ε α} {f : α → Except ε β} {b : β} :
    x >>= f = .ok b ↔ ∃ a, x = .ok a ∧ f a = .ok b := by
  cases x with
  | error e =>
    constructor
    · intro h
      cases h
    · rintro ⟨a, ha, -⟩
      cases ha
  | ok a =>
    constructor
    · exact fun h => ⟨a, rfl, h⟩
    · rintro ⟨a', ha, h⟩
      cases ha
      exact h

/-- A function of a success has succeeded. -/
theorem map_eq_ok {x : Except ε α} {f : α → β} {b : β} :
    x.map f = .ok b ↔ ∃ a, x = .ok a ∧ f a = b := by
  cases x with
  | error e => simp [Except.map]
  | ok a => simp [Except.map]

section Lists

variable {f : α → Except ε β} {as : List α} {bs : List β}

/-- Each element of a list has succeeded where the list has, and the results are listed. -/
theorem mapM_cons_eq_ok {a : α} : (a :: as).mapM f = .ok bs ↔
    ∃ b cs, f a = .ok b ∧ as.mapM f = .ok cs ∧ bs = b :: cs := by
  rw [List.mapM_cons]
  constructor
  · intro h
    obtain ⟨b, hb, h⟩ := bind_eq_ok.mp h
    obtain ⟨cs, hcs, h⟩ := bind_eq_ok.mp h
    exact ⟨b, cs, hb, hcs, (Except.ok.inj h).symm⟩
  · rintro ⟨b, cs, hb, hcs, rfl⟩
    exact bind_eq_ok.mpr ⟨b, hb, bind_eq_ok.mpr ⟨cs, hcs, rfl⟩⟩

/-- What every result has in common with its element, the lists have in common. -/
theorem map_of_mapM {g : α → γ} {k : β → γ} (same : ∀ a b, f a = .ok b → k b = g a)
    (h : as.mapM f = .ok bs) : bs.map k = as.map g := by
  induction as generalizing bs with
  | nil =>
    cases h
    rfl
  | cons a as ih =>
    obtain ⟨b, cs, hb, hcs, rfl⟩ := mapM_cons_eq_ok.mp h
    rw [List.map_cons, List.map_cons, same a b hb, ih hcs]

/-- A list of successes has one for each element. -/
theorem length_of_mapM (h : as.mapM f = .ok bs) : bs.length = as.length := by
  have same := map_of_mapM (g := fun _ => ()) (k := fun _ => ()) (fun _ _ _ => rfl) h
  simpa using congrArg List.length same

end Lists

end Outbox
