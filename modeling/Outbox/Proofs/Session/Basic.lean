import Outbox.Account
import Outbox.Proofs.Credential.Gates
import Outbox.Proofs.Sync.Attempt

/-!
# Sessions

One gate, and all that use it: the attempts of coordinators and the calls for the data of the user.
Each of them reads the credential when its request is sent, and may let go of one when the answer is
there. In between others can answer, and the gate can be given another credential, as by
`MemoryGate.set` and `FileGate.store`.
-/

namespace Outbox

namespace Session

/-- What a request is for. -/
inductive Errand where
  | upload (batch : Batch)
  | exportData
  | eraseData

/-- A request that was sent and not answered yet. -/
structure Request where
  errand : Errand
  /-- The credential it was sent with. -/
  credential : Credential
  /-- What the last change of the gate since then has left in it, if there was one. -/
  since : Option (Option Credential) := none

/-- A request whose credential was refused. -/
structure Refusal where
  sent : Credential
  since : Option (Option Credential)
  /-- What the gate held when it was told to let go. -/
  held : Option Credential
  deriving DecidableEq

/-- What can happen next. -/
inductive Move (γ : Type) where
  /-- A coordinator takes the first step of an attempt. -/
  | attempt (c : Coordinator)
  | exportData
  | eraseData
  /-- The outcome of the batch of a request is known. -/
  | uploaded (i : Nat) (outcome : Outcome)
  | exported (i : Nat) (result : Except Error Text.Bytes)
  | erased (i : Nat) (result : Except Error Unit)
  /-- A request is dropped before its answer is there. -/
  | drop (i : Nat)
  /-- The gate is given another credential, or is emptied, by others. -/
  | change (gate : γ)
  /-- Others change the store. -/
  | work (store : Store)

end Session

/-- A gate and a store with all that use them. -/
structure Session (γ : Type) where
  gate : γ
  store : Store
  requests : List Session.Request := []
  refusals : List Session.Refusal := []

namespace Session

open CredentialGate

variable {γ : Type} [CredentialGate γ]

/-- The request after a change of the gate. -/
def Request.after (held : Option Credential) (r : Request) : Request :=
  { r with since := some held }

/-- The session after a request was sent. -/
def send (s : Session γ) (errand : Errand) (credential : Credential) : Session γ :=
  { s with requests := s.requests ++ [{ errand, credential }] }

/-- The session after a request was answered, with the gate and the store that this leaves. -/
def answer (s : Session γ) (i : Nat) (r : Request) (refused : Bool) (gate : γ) (store : Store) :
    Session γ :=
  if refused then
    { gate, store
      requests := (s.requests.eraseIdx i).map (Request.after none)
      refusals := s.refusals ++ [⟨r.credential, r.since, current s.gate⟩] }
  else { s with gate, store, requests := s.requests.eraseIdx i }

/-- Whether a result says that the credential was refused. -/
def refuses {α : Type} : Except Error α → Bool
  | .error .unauthorized => true
  | _ => false

/-- One move. -/
def step (s : Session γ) : Move γ → Session γ
  | .attempt c =>
    match c.begin s.gate s.store with
    | .error _ => s
    | .ok attempt => s.send (.upload attempt.batch) attempt.credential
  | .exportData =>
    match Account.credential s.gate with
    | .error _ => s
    | .ok credential => s.send .exportData credential
  | .eraseData =>
    match Account.credential s.gate with
    | .error _ => s
    | .ok credential => s.send .eraseData credential
  | .uploaded i outcome =>
    match s.requests[i]? with
    | some ⟨.upload batch, credential, since⟩ =>
      let (_, gate, store) := Attempt.finish ⟨batch, credential⟩ outcome s.gate s.store
      s.answer i ⟨.upload batch, credential, since⟩ (outcome = .unauthorized) gate store
    | _ => s
  | .exported i result =>
    match s.requests[i]? with
    | some ⟨.exportData, credential, since⟩ =>
      s.answer i ⟨.exportData, credential, since⟩ (refuses result)
        (Account.observe result s.gate) s.store
    | _ => s
  | .erased i result =>
    match s.requests[i]? with
    | some ⟨.eraseData, credential, since⟩ =>
      let (_, gate, store) := Account.finishErase result s.gate s.store
      s.answer i ⟨.eraseData, credential, since⟩ (refuses result) gate store
    | _ => s
  | .drop i => { s with requests := s.requests.eraseIdx i }
  | .change gate => { s with gate, requests := s.requests.map (Request.after (current gate)) }
  | .work store => { s with store }

/-- A run of moves. -/
def run (s : Session γ) (moves : List (Move γ)) : Session γ := moves.foldl step s

/-! ### What a move can do -/

/-- The move brings the answer that the credential of a request was refused. -/
inductive Move.Refuses : Move γ → Nat → Prop
  | uploaded (i : Nat) : Refuses (.uploaded i .unauthorized) i
  | exported (i : Nat) : Refuses (.exported i (.error .unauthorized)) i
  | erased (i : Nat) : Refuses (.erased i (.error .unauthorized)) i

/-- All that a move can do to a session. -/
inductive Effect (s : Session γ) : Move γ → Session γ → Prop
  | idle (move : Move γ) : Effect s move s
  | sent {credential : Credential} (move : Move γ) (errand : Errand)
      (h : current s.gate = some credential) : Effect s move (s.send errand credential)
  | answered {i : Nat} {r : Request} (move : Move γ) (store : Store)
      (hi : s.requests[i]? = some r) : Effect s move (s.answer i r false s.gate store)
  | refused {i : Nat} {r : Request} {move : Move γ} (store : Store) (hm : move.Refuses i)
      (hi : s.requests[i]? = some r) :
      Effect s move (s.answer i r true (invalidate s.gate) store)
  | dropped (move : Move γ) (i : Nat) : Effect s move { s with requests := s.requests.eraseIdx i }
  | changed (gate : γ) :
      Effect s (.change gate)
        { s with gate, requests := s.requests.map (Request.after (current gate)) }
  | worked (move : Move γ) (store : Store) : Effect s move { s with store }

/-- Only a refusal makes an attempt let go of the credential. -/
theorem finish_gate (a : Attempt) (outcome : Outcome) (gate : γ) (store : Store) :
    (a.finish outcome gate store).2.1 =
      if outcome = .unauthorized then invalidate gate else gate := by
  cases outcome with
  | delivered =>
    unfold Attempt.finish
    rcases store.markDelivered a.batch.ids with ⟨_ | _, _⟩ <;> rfl
  | _ => rfl

theorem refuses_iff {α : Type} {result : Except Error α} :
    refuses result = true ↔ result = .error .unauthorized := by
  cases result with
  | ok a => simp [refuses]
  | error e => cases e <;> simp [refuses]

theorem observe_gate {α : Type} (result : Except Error α) (gate : γ) :
    Account.observe result gate = if refuses result then invalidate gate else gate := by
  cases result with
  | ok a => rfl
  | error e => cases e <;> rfl

theorem finishErase_gate (result : Except Error Unit) (gate : γ) (store : Store) :
    (Account.finishErase result gate store).2.1 =
      if refuses result then invalidate gate else gate := by
  rw [← observe_gate]
  cases result with
  | error e => rfl
  | ok u =>
    unfold Account.finishErase
    rcases store.eraseAll with ⟨_ | _, _⟩ <;> rfl

variable {s : Session γ}

theorem credential_cases (gate : γ) :
    (current gate = none ∧ Account.credential gate = .error .unauthenticated) ∨
      ∃ c, Account.credential gate = .ok c ∧ current gate = some c := by
  unfold Account.credential
  cases current gate with
  | none => exact .inl ⟨rfl, rfl⟩
  | some c => exact .inr ⟨c, rfl, rfl⟩

theorem attempt_effect (c : Coordinator) : Effect s (.attempt c) (s.step (.attempt c)) := by
  cases hb : c.begin s.gate s.store with
  | error report =>
    simp only [step, hb]
    exact .idle _
  | ok attempt =>
    simp only [step, hb]
    exact .sent _ _ (usable_eq_some.mp (Coordinator.begin_ok hb).1).2

/-- An answer is a refusal, or leaves the gate alone. -/
theorem answer_effect {move : Move γ} {i : Nat} {r : Request} {refused : Bool} {gate : γ}
    (hi : s.requests[i]? = some r) (hg : gate = if refused then invalidate s.gate else s.gate)
    (hm : refused = true → move.Refuses i) (store : Store) :
    Effect s move (s.answer i r refused gate store) := by
  rw [hg]
  cases refused with
  | false => exact .answered move store hi
  | true => exact .refused store (hm rfl) hi

theorem uploaded_effect (i : Nat) (outcome : Outcome) :
    Effect s (.uploaded i outcome) (s.step (.uploaded i outcome)) := by
  cases hi : s.requests[i]? with
  | none =>
    simp only [step, hi]
    exact .idle _
  | some r =>
    obtain ⟨errand, credential, since⟩ := r
    cases errand with
    | upload batch =>
      simp only [step, hi]
      refine answer_effect hi ?_ ?_ _
      · simpa using finish_gate ⟨batch, credential⟩ outcome s.gate s.store
      · intro ho
        obtain rfl := of_decide_eq_true ho
        exact .uploaded i
    | _ =>
      simp only [step, hi]
      exact .idle _

theorem exported_effect (i : Nat) (result : Except Error Text.Bytes) :
    Effect s (.exported i result) (s.step (.exported i result)) := by
  cases hi : s.requests[i]? with
  | none =>
    simp only [step, hi]
    exact .idle _
  | some r =>
    obtain ⟨errand, credential, since⟩ := r
    cases errand with
    | exportData =>
      simp only [step, hi]
      refine answer_effect hi (observe_gate result s.gate) (fun hr => ?_) _
      rw [refuses_iff.mp hr]
      exact .exported i
    | _ =>
      simp only [step, hi]
      exact .idle _

theorem erased_effect (i : Nat) (result : Except Error Unit) :
    Effect s (.erased i result) (s.step (.erased i result)) := by
  cases hi : s.requests[i]? with
  | none =>
    simp only [step, hi]
    exact .idle _
  | some r =>
    obtain ⟨errand, credential, since⟩ := r
    cases errand with
    | eraseData =>
      simp only [step, hi]
      refine answer_effect hi (finishErase_gate result s.gate s.store) (fun hr => ?_) _
      rw [refuses_iff.mp hr]
      exact .erased i
    | _ =>
      simp only [step, hi]
      exact .idle _

/-- Every move has one of the effects. -/
theorem step_effect (move : Move γ) : Effect s move (s.step move) := by
  cases move with
  | attempt c => exact attempt_effect c
  | exportData =>
    rcases credential_cases s.gate with ⟨-, hc⟩ | ⟨c, hc, hg⟩
    · simp only [step, hc]
      exact .idle _
    · simp only [step, hc]
      exact .sent _ _ hg
  | eraseData =>
    rcases credential_cases s.gate with ⟨-, hc⟩ | ⟨c, hc, hg⟩
    · simp only [step, hc]
      exact .idle _
    · simp only [step, hc]
      exact .sent _ _ hg
  | uploaded i outcome => exact uploaded_effect i outcome
  | exported i result => exact exported_effect i result
  | erased i result => exact erased_effect i result
  | drop i => exact .dropped _ i
  | change gate => exact .changed gate
  | work store => exact .worked _ store

end Session

end Outbox
