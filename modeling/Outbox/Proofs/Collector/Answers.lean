import Outbox.Proofs.Collector.Calls

/-!
# What calls make of an answer

The three calls treat a credential alike, and an answer too: whatever the collector says to all of
them, they take it for a success, for a refusal of the credential or for another refusal together
(`Client.agree`).
-/

namespace Outbox

open Http (Conversation Reply Request Status)

/-- The reply is an answer with such a status. -/
def Http.Reply.Says (reply : Reply) (p : Status → Bool) : Prop :=
  ∃ status body complete, reply = .answer status body complete ∧ p status = true

@[simp] theorem Http.Reply.not_says_nothing {p : Status → Bool} : ¬ Reply.nothing.Says p := by
  rintro ⟨_, _, _, answer, -⟩
  cases answer

@[simp] theorem Http.Reply.says_answer {p : Status → Bool} {status : Status} {body : Text.Bytes}
    {complete : Bool} : (Reply.answer status body complete).Says p ↔ p status = true := by
  constructor
  · rintro ⟨_, _, _, ⟨⟩, h⟩
    exact h
  · exact fun h => ⟨status, body, complete, rfl, h⟩

/-! ### Credentials -/

/-- A token with a byte that no header can carry: a control character other than a tab. -/
def Credential.Unsendable (c : Credential) : Prop :=
  ∃ b ∈ Text.encode c.token, (b.toNat < 0x20 ∧ b.toNat ≠ 9) ∨ b.toNat = 0x7F

theorem Credential.unsendable_iff {c : Credential} : c.Unsendable ↔ c.isSendable = false := by
  have byte : ∀ b : UInt8, (b = 9 || (decide (32 ≤ b.toNat) && decide (b.toNat ≠ 127))) = false ↔
      (b.toNat < 0x20 ∧ b.toNat ≠ 9) ∨ b.toNat = 0x7F := by
    intro b
    have tab : b = 9 ↔ b.toNat = 9 := UInt8.toNat_inj.symm
    simp only [Bool.or_eq_false_iff, Bool.and_eq_false_iff, decide_eq_false_iff_not, tab]
    omega
  simp only [Unsendable, isSendable, List.all_eq_false, Bool.not_eq_true, byte]

/-! ### Answers -/

namespace Client

variable {client : Client} {credential : Credential} {reply : Reply} {status : Status}
  {content : Text.Bytes} {complete : Bool}

/-- What the three calls have made of what they heard is the same. -/
structure Agree (outcome : Outcome) (exported : Except Error Text.Bytes)
    (erased : Except Error Unit) : Prop where
  exported_ok : outcome = .delivered ↔ ∃ content, exported = .ok content
  erased_ok : outcome = .delivered ↔ erased = .ok ()
  exported_unauthorized : outcome = .unauthorized ↔ exported = .error .unauthorized
  erased_unauthorized : outcome = .unauthorized ↔ erased = .error .unauthorized
  exported_refused : (∃ code, outcome = .rejected code) ↔
    ∃ fault, exported = .error (.collector fault)
  erased_refused : (∃ code, outcome = .rejected code) ↔ ∃ fault, erased = .error (.collector fault)

/-- What a download is after an answer. -/
def downloaded (status : Status) (content : Text.Bytes) (complete : Bool) :
    Except Error Text.Bytes :=
  match checked status content complete with
  | .error e => .error e
  | .ok (content, true) => .ok content
  | .ok (_, false) => .error (.collector .brokenBody)

/-- A status means success, or that the credential is refused, or another refusal. -/
theorem checked_cases (status : Status) (content : Text.Bytes) (complete : Bool) :
    (status.isSuccess = true ∧ status.isUnauthorized = false ∧
      checked status content complete = .ok (content, complete) ∧
      Outcome.ofStatus status = .delivered) ∨
    (status.isSuccess = false ∧ status.isUnauthorized = true ∧
      checked status content complete = .error .unauthorized ∧
      Outcome.ofStatus status = .unauthorized) ∨
    status.isSuccess = false ∧ status.isUnauthorized = false ∧
      (∃ fault, checked status content complete = .error (.collector fault)) ∧
      Outcome.ofStatus status = .rejected status.code := by
  cases refuses : status.isUnauthorized with
  | true =>
    simp [checked, Outcome.ofStatus, not_isSuccess refuses, refuses]
  | false =>
    cases succeeds : status.isSuccess with
    | true => simp [checked, Outcome.ofStatus, succeeds]
    | false => simp [checked, Outcome.ofStatus, succeeds, refuses]

/-- The three calls make the same of an answer that they have heard to its end. -/
theorem agree (status : Status) (content : Text.Bytes) :
    Agree (.ofStatus status) (downloaded status content true)
      ((checked status content true).map fun _ => ()) := by
  unfold downloaded
  rcases checked_cases status content true with
    ⟨-, -, hc, ho⟩ | ⟨-, -, hc, ho⟩ | ⟨-, -, ⟨fault, hc⟩, ho⟩
  · constructor <;> simp [hc, ho, Except.map]
  · constructor <;> simp [hc, ho, Except.map]
  · constructor <;> simp [hc, ho, Except.map]

/-! ### The end of a call -/

/-- How a call ends: over its credential or its address before anything is sent, or as it is made
of the reply to its one request. -/
theorem run_cases {α σ : Type} (client : Client) (method path body : String)
    (credential : Credential) (refused : α) (failed : RequestFault → α)
    (answered : Status → Text.Bytes → Bool → α) (serve : Http.Request → σ → Reply × σ)
    (server : σ) :
    let call := if credential.isSendable then
      client.call method path body credential failed answered else .done refused
    (call.exchanges serve server = [] ∧
      ((call.run serve server).1 = refused ∨ ∃ fault, (call.run serve server).1 = failed fault)) ∨
    ∃ request, call.exchanges serve server = [(request, (serve request server).1)] ∧
      (((serve request server).1 = .nothing ∧ ∃ fault, (call.run serve server).1 = failed fault) ∨
        ∃ status content complete, (serve request server).1 = .answer status content complete ∧
          (call.run serve server).1 = answered status content complete) := by
  intro call
  cases sendable : credential.isSendable with
  | false =>
    have unsent : call = .done refused := if_neg (by simp [sendable])
    rw [unsent]
    exact .inl ⟨rfl, .inl rfl⟩
  | true =>
    have made : call = client.call method path body credential failed answered := if_pos sendable
    rw [made, Client.call]
    cases client.request method path body credential with
    | error fault => exact .inl ⟨rfl, .inr ⟨fault, rfl⟩⟩
    | ok request =>
      refine .inr ⟨request, ?_⟩
      rcases hr : serve request server with ⟨reply, server'⟩
      cases reply with
      | nothing =>
        simp only [Conversation.exchanges, Conversation.run, hr]
        exact ⟨trivial, .inl ⟨trivial, _, rfl⟩⟩
      | answer status content complete =>
        simp only [Conversation.exchanges, Conversation.run, hr]
        exact ⟨trivial, .inr ⟨status, content, complete, rfl, rfl⟩⟩

/-- An upload is delivered exactly if the collector has been asked and its answer says so. -/
theorem sendBatch_run {σ : Type} (client : Client) (batch : Batch) (credential : Credential)
    (serve : Http.Request → σ → Reply × σ) (server : σ) :
    let call := client.sendBatch batch credential
    ((call.run serve server).1 = .delivered ∧
      ∃ x, call.exchanges serve server = [x] ∧ x.2.Says Status.isSuccess) ∨
    (call.run serve server).1 ≠ .delivered ∧ (call.exchanges serve server = [] ∨
      ∃ x, call.exchanges serve server = [x] ∧ ¬ x.2.Says Status.isSuccess) := by
  intro call
  rcases client.run_cases "POST" batchPath batch.bodyText credential
    (.invalidCredential (Error.config .badCredential).message)
    (fun fault => .unreachable fault.message) (fun status _ _ => Outcome.ofStatus status) serve
    server with
    ⟨unsent, ended⟩ | ⟨request, sent, ⟨silent, fault, h⟩ | ⟨status, content, complete, ha, h⟩⟩
  · have failed : (call.run serve server).1 ≠ .delivered := by
      rcases ended with h | ⟨fault, h⟩ <;> exact fun no => nomatch h.symm.trans no
    exact .inr ⟨failed, .inl unsent⟩
  · have failed : (call.run serve server).1 ≠ .delivered := fun no => nomatch h.symm.trans no
    exact .inr ⟨failed, .inr ⟨_, sent, by simp [silent]⟩⟩
  · have outcome : (call.run serve server).1 = .ofStatus status := h
    rcases checked_cases status content complete with
      ⟨yes, -, -, ho⟩ | ⟨no, -, -, ho⟩ | ⟨no, -, -, ho⟩
    · exact .inl ⟨outcome.trans ho, _, sent, by simp [ha, yes]⟩
    · exact .inr ⟨by simp [outcome, ho], .inr ⟨_, sent, by simp [ha, no]⟩⟩
    · exact .inr ⟨by simp [outcome, ho], .inr ⟨_, sent, by simp [ha, no]⟩⟩

/-- How a call ends if it is told one reply. -/
theorem told_cases {α : Type} (client : Client) (method path body : String)
    (credential : Credential) (refused : α) (failed : RequestFault → α)
    (answered : Status → Text.Bytes → Bool → α) (reply : Reply) :
    let call := if credential.isSendable then
      client.call method path body credential failed answered else .done refused
    call.told reply = (refused, []) ∨
    (∃ fault, (call.told reply).1 = failed fault ∧
      ((call.told reply).2 = [] ∨ reply = .nothing)) ∨
    ∃ request status content complete, reply = .answer status content complete ∧
      call.told reply = (answered status content complete, [request]) := by
  intro call
  rcases client.run_cases method path body credential refused failed answered
    (fun _ _ => (reply, ())) () with
    ⟨unsent, h | ⟨fault, h⟩⟩ | ⟨request, sent, ⟨silent, fault, h⟩ | ⟨status, content, complete, ha, h⟩⟩
  · exact .inl (Prod.ext h (congrArg (List.map Prod.fst) unsent))
  · exact .inr (.inl ⟨fault, h, .inl (congrArg (List.map Prod.fst) unsent)⟩)
  · exact .inr (.inl ⟨fault, h, .inr silent⟩)
  · exact .inr (.inr ⟨request, status, content, complete, ha,
      Prod.ext h (congrArg (List.map Prod.fst) sent)⟩)

/-- A call that has sent its request makes of the answer what it says. -/
theorem told_answer {α : Type} {method path body : String} {refused : α}
    {failed : RequestFault → α} {answered : Status → Text.Bytes → Bool → α}
    (sent : ((if credential.isSendable then
      client.call method path body credential failed answered else .done refused).told
        (.answer status content complete)).2 ≠ []) :
    ((if credential.isSendable then
      client.call method path body credential failed answered else .done refused).told
        (.answer status content complete)).1 = answered status content complete := by
  rcases client.told_cases method path body credential refused failed answered
    (.answer status content complete) with h | ⟨fault, -, h | h⟩ | ⟨_, _, _, _, ha, h⟩
  · exact absurd (congrArg Prod.snd h) sent
  · exact absurd h sent
  · cases h
  · cases ha
    exact congrArg Prod.fst h

theorem sendBatch_told {batch : Batch}
    (sent : ((client.sendBatch batch credential).told (.answer status content complete)).2 ≠ []) :
    ((client.sendBatch batch credential).told (.answer status content complete)).1 =
      .ofStatus status :=
  told_answer sent

theorem exportData_told
    (sent : ((client.exportData credential).told (.answer status content complete)).2 ≠ []) :
    ((client.exportData credential).told (.answer status content complete)).1 =
      downloaded status content complete :=
  told_answer sent

theorem eraseData_told
    (sent : ((client.eraseData credential).told (.answer status content complete)).2 ≠ []) :
    ((client.eraseData credential).told (.answer status content complete)).1 =
      (checked status content complete).map fun _ => () :=
  told_answer sent

/-- What holds of a call after answers with certain statuses only, tells that its request was sent
and has got one of these. -/
theorem told_says {α : Type} {method path body : String} {refused : α}
    {failed : RequestFault → α} {answered : Status → Text.Bytes → Bool → α} {p : Status → Bool}
    {P : α → Prop} (hr : ¬ P refused) (hf : ∀ fault, ¬ P (failed fault))
    (ha : ∀ status content complete, P (answered status content complete) ↔ p status = true) :
    let call := if credential.isSendable then
      client.call method path body credential failed answered else .done refused
    P (call.told reply).1 ↔ (call.told reply).2 ≠ [] ∧ reply.Says p := by
  intro call
  rcases client.told_cases method path body credential refused failed answered reply with
    h | ⟨fault, h, unheard⟩ | ⟨request, status, content, complete, rfl, h⟩
  · rw [h]
    exact iff_of_false hr fun both => both.1 rfl
  · rw [h]
    refine iff_of_false (hf fault) ?_
    rintro ⟨sent, said⟩
    rcases unheard with unsent | rfl
    · exact sent unsent
    · exact Reply.not_says_nothing said
  · rw [h, ha, Reply.says_answer]
    exact (and_iff_right (List.cons_ne_nil _ _)).symm

/-- A download says that the credential is refused exactly if the answer has said so. -/
theorem exportData_unauthorized :
    ((client.exportData credential).told reply).1 = .error .unauthorized ↔
      ((client.exportData credential).told reply).2 ≠ [] ∧ reply.Says Status.isUnauthorized := by
  refine told_says (P := fun result : Except Error Text.Bytes => result = .error .unauthorized)
    (by simp) (by simp) fun status content complete => ?_
  rcases checked_cases status content complete with
    ⟨-, no, hc, -⟩ | ⟨-, yes, hc, -⟩ | ⟨-, no, ⟨fault, hc⟩, -⟩
  · cases complete <;> simp [hc, no]
  · simp [hc, yes]
  · simp [hc, no]

theorem eraseData_unauthorized :
    ((client.eraseData credential).told reply).1 = .error .unauthorized ↔
      ((client.eraseData credential).told reply).2 ≠ [] ∧ reply.Says Status.isUnauthorized := by
  refine told_says (P := fun result : Except Error Unit => result = .error .unauthorized)
    (by simp) (by simp) fun status content complete => ?_
  rcases checked_cases status content complete with
    ⟨-, no, hc, -⟩ | ⟨-, yes, hc, -⟩ | ⟨-, no, ⟨fault, hc⟩, -⟩
  · simp [hc, no, Except.map]
  · simp [hc, yes, Except.map]
  · simp [hc, no, Except.map]

/-- The collector has erased the data exactly if its answer has said so. -/
theorem eraseData_ok :
    ((client.eraseData credential).told reply).1 = .ok () ↔
      ((client.eraseData credential).told reply).2 ≠ [] ∧ reply.Says Status.isSuccess := by
  refine told_says (P := fun result : Except Error Unit => result = .ok ())
    (by simp) (by simp) fun status content complete => ?_
  rcases checked_cases status content complete with
    ⟨yes, -, hc, -⟩ | ⟨no, -, hc, -⟩ | ⟨no, -, ⟨fault, hc⟩, -⟩
  · simp [hc, yes, Except.map]
  · simp [hc, no, Except.map]
  · simp [hc, no, Except.map]

/-! ### Refused credentials -/

/-- A call refuses its credential before anything is sent, exactly if no header can carry it. -/
theorem refused_iff {α : Type} {method path body : String} {refused : α}
    {failed : RequestFault → α} {answered : Status → Text.Bytes → Bool → α}
    (differs : ∀ fault, refused ≠ failed fault) :
    (if credential.isSendable then
      client.call method path body credential failed answered else .done refused) =
        .done refused ↔ credential.Unsendable := by
  rw [Credential.unsendable_iff]
  cases credential.isSendable with
  | false => simp
  | true =>
    refine iff_of_false (fun sent => ?_) nofun
    obtain ⟨fault, hf⟩ := call_done sent
    exact differs fault hf

theorem sendBatch_refused {batch : Batch} :
    client.sendBatch batch credential =
        .done (.invalidCredential (Error.config .badCredential).message) ↔
      credential.Unsendable :=
  refused_iff nofun

theorem exportData_refused :
    client.exportData credential = .done (.error (.config .badCredential)) ↔
      credential.Unsendable :=
  refused_iff nofun

theorem eraseData_refused :
    client.eraseData credential = .done (.error (.config .badCredential)) ↔
      credential.Unsendable :=
  refused_iff nofun

end Client

end Outbox
