import Outbox.Http.Exchange

/-!
# Conversations

How computations that make requests follow each other: a computation and what comes after it talk to
one server, the second where the first has left it (`run_bind`), and what is asked first is asked by
the first of them that asks anything (`asks_bind`).
-/

namespace Outbox.Http.Conversation

variable {α β σ : Type}

theorem andThen_done (c : Conversation α) : c.andThen .done = c := by
  induction c with
  | done a => rfl
  | ask request next ih =>
    simp only [andThen]
    exact congrArg (Conversation.ask request) (funext ih)

theorem andThen_assoc {δ : Type} (c : Conversation α) (f : α → Conversation β)
    (g : β → Conversation δ) : (c.andThen f).andThen g = c.andThen fun a => (f a).andThen g := by
  induction c with
  | done a => rfl
  | ask request next ih =>
    simp only [andThen]
    exact congrArg (Conversation.ask request) (funext ih)

instance : LawfulMonad Conversation :=
  LawfulMonad.mk' Conversation andThen_done (fun _ _ => rfl) andThen_assoc

/-! ### Running -/

section Run

variable {serve : Request → σ → Reply × σ}

@[simp] theorem run_pure (a : α) (server : σ) :
    (pure a : Conversation α).run serve server = (a, server) := rfl

theorem run_bind (c : Conversation α) (f : α → Conversation β) (server : σ) :
    (c >>= f).run serve server =
      (f (c.run serve server).1).run serve (c.run serve server).2 := by
  show (c.andThen f).run serve server = _
  induction c generalizing server with
  | done a => rfl
  | ask request next ih => exact ih (serve request server).1 (serve request server).2

/-- The requests that the computation makes of a server, with its replies. -/
def exchanges (serve : Request → σ → Reply × σ) :
    Conversation α → σ → List (Request × Reply)
  | .done _, _ => []
  | .ask request next, server =>
    (request, (serve request server).1) ::
      (next (serve request server).1).exchanges serve (serve request server).2

@[simp] theorem exchanges_pure (a : α) (server : σ) :
    (pure a : Conversation α).exchanges serve server = [] := rfl

theorem exchanges_bind (c : Conversation α) (f : α → Conversation β) (server : σ) :
    (c >>= f).exchanges serve server = c.exchanges serve server ++
      (f (c.run serve server).1).exchanges serve (c.run serve server).2 := by
  show (c.andThen f).exchanges serve server = _
  induction c generalizing server with
  | done a => rfl
  | ask request next ih => exact congrArg _ (ih (serve request server).1 (serve request server).2)

end Run

/-- How the computation ends if all its requests get one reply, and the requests. -/
def told (c : Conversation α) (reply : Reply) : α × List Request :=
  ((c.run (fun _ _ => (reply, ())) ()).1, (c.exchanges (fun _ _ => (reply, ())) ()).map Prod.fst)

@[simp] theorem told_done (a : α) (reply : Reply) : (done a : Conversation α).told reply = (a, []) :=
  rfl

/-- What is made of the end of a computation, requests nothing. -/
theorem told_map (c : Conversation α) (f : α → β) (reply : Reply) :
    (c >>= fun a => pure (f a)).told reply = (f (c.told reply).1, (c.told reply).2) := by
  unfold told
  rw [run_bind, run_pure, exchanges_bind, exchanges_pure, List.append_nil]

/-! ### Asking -/

/-- The first thing that the computation does is to make the request. -/
def Asks (c : Conversation α) (request : Request) : Prop := ∃ next, c = .ask request next

theorem not_asks_done {a : α} {request : Request} : ¬ (done a : Conversation α).Asks request := by
  rintro ⟨next, h⟩
  cases h

@[simp] theorem asks_ask {r request : Request} {next : Reply → Conversation α} :
    (ask r next).Asks request ↔ r = request := by
  constructor
  · rintro ⟨next', h⟩
    exact (ask.inj h).1
  · rintro rfl
    exact ⟨next, rfl⟩

theorem asks_bind {c : Conversation α} {f : α → Conversation β} {request : Request} :
    (c >>= f).Asks request ↔ c.Asks request ∨ ∃ a, c = .done a ∧ (f a).Asks request := by
  cases c with
  | done a =>
    constructor
    · exact fun h => .inr ⟨a, rfl, h⟩
    · rintro (h | ⟨a', ha, h⟩)
      · exact absurd h not_asks_done
      · cases ha
        exact h
  | ask r next =>
    have asked : (ask r next >>= f).Asks request ↔ r = request := asks_ask
    rw [asked, asks_ask]
    constructor
    · exact .inl
    · rintro (h | ⟨a, ha, -⟩)
      · exact h
      · cases ha

/-- What is done without a request was done without one in both parts. -/
theorem bind_eq_done {c : Conversation α} {f : α → Conversation β} {b : β} :
    c >>= f = .done b ↔ ∃ a, c = .done a ∧ f a = .done b := by
  cases c with
  | done a =>
    constructor
    · exact fun h => ⟨a, rfl, h⟩
    · rintro ⟨a', ha, h⟩
      cases ha
      exact h
  | ask request next =>
    constructor
    · intro h
      cases h
    · rintro ⟨a, ha, -⟩
      cases ha

end Outbox.Http.Conversation
