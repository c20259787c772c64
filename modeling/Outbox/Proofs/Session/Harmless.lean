import Outbox.Proofs.Collector.Answers
import Outbox.Proofs.Session.Locked
import Outbox.Proofs.Sync.Exits

/-!
# Calls that do no harm

The calls for the data of the user take credentials and answers as an upload does. A download leaves
the records alone. An erasure removes all of them or none: it takes the word of the collector that
its own are gone, and a store that lets go of them (`alike_and_harmless`).
-/

namespace Outbox

open CredentialGate
open Http (Conversation Reply Status)

/-! ### Erasing a store -/

namespace Store

/-- An erasure fails and changes nothing, or it leaves an empty store. -/
theorem eraseAll_empty (s : Store) :
    (∃ fault, s.eraseAll = (.error fault, s)) ∨
      ∃ s', s.eraseAll = (.ok (), s') ∧ s'.countTotal = .ok 0 := by
  rcases s.eraseAll_result with ⟨fault, he⟩ | ⟨events, usable, hc, he⟩
  · exact .inl ⟨fault, he⟩
  · exact .inr ⟨_, he, read_eq_ok.mpr ⟨usable, Events.clear_total hc⟩⟩

/-- A table is erased unless a rule keeps one of its rows, or nothing can be written at all. -/
theorem eraseAll_ok {s : Store} {t : Table} (ht : s.live.events = .table t) :
    s.eraseAll.1 = .ok () ↔ s.poisoned = false ∧ s.readOnly = false ∧
      ∀ g, t.guards.deletion = some g → ∀ r ∈ t.rows, r.id ≠ g.subject := by
  have cleared : (∃ u, t.clear = .ok u) ↔
      ∀ g, t.guards.deletion = some g → ∀ r ∈ t.rows, r.id ≠ g.subject := by
    unfold Table.clear
    cases t.guards.deletion with
    | none => simp
    | some g =>
      by_cases absent : ∀ r ∈ t.rows, r.id ≠ g.subject
      · have unkept : ¬ ∃ r ∈ t.rows, r.id = g.subject := fun ⟨r, hr, kept⟩ => absent r hr kept
        simpa [Option.filter, unkept] using absent
      · have kept : ∃ r ∈ t.rows, r.id = g.subject := by simpa using absent
        simp [Option.filter, kept]
  rw [← cleared]
  unfold eraseAll write
  simp only [ht]
  cases s.poisoned with
  | true => simp
  | false =>
    cases hc : t.clear with
    | error fault => simp [Events.clear, hc, Except.map]
    | ok u => cases s.readOnly <;> simp [Events.clear, hc, Except.map]

end Store

namespace Account

variable {γ : Type} [CredentialGate γ] {gate : γ} {c : Credential} {client : Client} {store : Store}
  {reply : Reply}

/-! ### What is left after a call -/

theorem exportData_told (h : current gate = some c) :
    (exportData client gate).told reply =
      ((((client.exportData c).told reply).1, observe ((client.exportData c).told reply).1 gate),
        ((client.exportData c).told reply).2) := by
  have held : credential gate = .ok c := by rw [credential, h]
  unfold exportData
  rw [held]
  exact Conversation.told_map _ (fun result => (result, observe result gate)) reply

theorem erase_told (h : current gate = some c) :
    (erase client gate store).told reply =
      (finishErase ((client.eraseData c).told reply).1 gate store,
        ((client.eraseData c).told reply).2) := by
  have held : credential gate = .ok c := by rw [credential, h]
  unfold erase
  rw [held]
  exact Conversation.told_map _ (fun result => finishErase result gate store) reply

/-- A download lets go of the credential exactly if the answer refuses it. -/
theorem exportData_gate (client : Client) (gate : γ) (reply : Reply) :
    let told := (exportData client gate).told reply
    ((told.2 ≠ [] ∧ reply.Says Status.isUnauthorized) → told.1.2 = invalidate gate) ∧
    (¬ (told.2 ≠ [] ∧ reply.Says Status.isUnauthorized) → told.1.2 = gate) := by
  intro told
  cases h : current gate with
  | none =>
    have silent : told = ((.error .unauthenticated, gate), []) := by
      simp only [told, exportData, credential, h, Conversation.told_done]
    rw [silent]
    exact ⟨fun heard => absurd rfl heard.1, fun _ => rfl⟩
  | some c =>
    simp only [told, exportData_told h, ← Client.exportData_unauthorized, Session.observe_gate,
      ← Session.refuses_iff]
    exact ⟨fun refused => if_pos refused, fun taken => if_neg taken⟩

/-- How an erasure ends: in the store exactly if the collector has erased its data, and with the
gate as the answer says. -/
theorem erase_end (client : Client) (gate : γ) (store : Store) (reply : Reply) :
    let told := (erase client gate store).told reply
    ((∃ fault, told.1 = (.error fault, told.1.2.1, store)) ∧
        ¬ (told.2 ≠ [] ∧ reply.Says Status.isSuccess) ∨
      told.1 = (store.eraseAll.1.mapError Error.store, told.1.2.1, store.eraseAll.2) ∧
        told.2 ≠ [] ∧ reply.Says Status.isSuccess) ∧
    ((told.2 ≠ [] ∧ reply.Says Status.isUnauthorized) → told.1.2.1 = invalidate gate) ∧
    (¬ (told.2 ≠ [] ∧ reply.Says Status.isUnauthorized) → told.1.2.1 = gate) := by
  intro told
  cases h : current gate with
  | none =>
    have silent : told = ((.error .unauthenticated, gate, store), []) := by
      simp only [told, erase, credential, h, Conversation.told_done]
    rw [silent]
    exact ⟨.inl ⟨⟨_, rfl⟩, fun heard => heard.1 rfl⟩, fun heard => absurd rfl heard.1,
      fun _ => rfl⟩
  | some c =>
    simp only [told, erase_told h, ← Client.eraseData_unauthorized, ← Client.eraseData_ok,
      Session.finishErase_gate, ← Session.refuses_iff]
    refine ⟨?_, fun refused => if_pos refused, fun taken => if_neg taken⟩
    cases ((client.eraseData c).told reply).1 with
    | error fault => exact .inl ⟨⟨fault, by simp [finishErase, Session.observe_gate]⟩, nofun⟩
    | ok _ =>
      refine .inr ⟨?_, rfl⟩
      unfold finishErase
      rcases store.eraseAll_empty with ⟨fault, he⟩ | ⟨s', he, -⟩
      · simp only [he]
        rfl
      · simp only [he]
        rfl

/-- An erasure is done where the collector and the store have erased everything. Where it is not,
the store is as before. -/
theorem erase_store (client : Client) (gate : γ) (store : Store) (reply : Reply) :
    let told := (erase client gate store).told reply
    let success := told.2 ≠ [] ∧ reply.Says Status.isSuccess
    (told.1.1 = .ok () ↔ success ∧ store.eraseAll.1 = .ok ()) ∧
    (success → told.1.1 = store.eraseAll.1.mapError Error.store) ∧
    (told.1.1 = .ok () → told.1.2.2.countTotal = .ok 0) ∧
    (told.1.1 ≠ .ok () → told.1.2.2 = store) := by
  intro told success
  rcases (erase_end client gate store reply).1 with ⟨⟨fault, ended⟩, unheard⟩ | ⟨ended, heard⟩
  · have failed : told.1.1 = .error fault := congrArg Prod.fst ended
    have left : told.1.2.2 = store := congrArg (fun r => r.2.2) ended
    rw [failed, left]
    exact ⟨iff_of_false nofun fun both => unheard both.1, fun heard => absurd heard unheard, nofun,
      fun _ => rfl⟩
  · have result : told.1.1 = store.eraseAll.1.mapError Error.store := congrArg Prod.fst ended
    have left : told.1.2.2 = store.eraseAll.2 := congrArg (fun r => r.2.2) ended
    rw [result, left]
    rcases store.eraseAll_empty with ⟨fault, he⟩ | ⟨s', he, empty⟩
    · rw [he]
      exact ⟨iff_of_false nofun (fun both => nomatch both.2), fun _ => rfl, nofun, fun _ => rfl⟩
    · rw [he]
      exact ⟨iff_of_true rfl ⟨heard, rfl⟩, fun _ => rfl, fun _ => empty,
        fun failed => absurd rfl failed⟩

/-- A download does not touch the store when it begins, nor when it ends. -/
theorem exportData_store (s : Session γ) : (s.step .exportData).store = s.store ∧
    ∀ i result, (s.step (.exported i result)).store = s.store := by
  constructor
  · simp only [Session.step]
    cases credential s.gate <;> rfl
  · intro i result
    simp only [Session.step]
    rcases s.requests[i]? with _ | ⟨_ | _ | _, c, since⟩
    · rfl
    · rfl
    · cases Session.refuses result <;> rfl
    · rfl

/-! ### Alike, and without harm -/

/-- The calls for the data of the user and an upload refuse the same credentials before they send
anything, and make the same of an answer that they have heard to its end. After an answer of success
an erasure ends as the local one does, and it has failed and changed nothing without one; a download
leaves the store alone. The gate lets go of its credential exactly if the answer refuses it. -/
theorem alike_and_harmless (client : Client) :
    (∀ batch credential,
      (client.sendBatch batch credential =
        .done (.invalidCredential (Error.config .badCredential).message) ↔ credential.Unsendable) ∧
      (client.exportData credential = .done (.error (.config .badCredential)) ↔
        credential.Unsendable) ∧
      (client.eraseData credential = .done (.error (.config .badCredential)) ↔
        credential.Unsendable)) ∧
    (∀ batch status content (c₁ c₂ c₃ : Credential),
      let upload := (client.sendBatch batch c₁).told (.answer status content true)
      let download := (client.exportData c₂).told (.answer status content true)
      let erasure := (client.eraseData c₃).told (.answer status content true)
      upload.2 ≠ [] → download.2 ≠ [] → erasure.2 ≠ [] →
        Client.Agree upload.1 download.1 erasure.1) ∧
    (∀ (gate : γ) (store : Store) reply,
      let told := (erase client gate store).told reply
      let success := told.2 ≠ [] ∧ reply.Says Status.isSuccess
      (told.1.1 = .ok () ↔ success ∧ store.eraseAll.1 = .ok ()) ∧
      (success → told.1.1 = store.eraseAll.1.mapError Error.store) ∧
      (told.1.1 = .ok () → told.1.2.2.countTotal = .ok 0) ∧
      (told.1.1 ≠ .ok () → told.1.2.2 = store) ∧
      ∀ t, store.live.events = .table t → (store.eraseAll.1 = .ok () ↔
        store.poisoned = false ∧ store.readOnly = false ∧
          ∀ g, t.guards.deletion = some g → ∀ r ∈ t.rows, r.id ≠ g.subject)) ∧
    (∀ s : Session γ, (s.step .exportData).store = s.store ∧
      ∀ i result, (s.step (.exported i result)).store = s.store) ∧
    ∀ (gate : γ) (store : Store) reply,
      let download := (exportData client gate).told reply
      let erasure := (erase client gate store).told reply
      ((download.2 ≠ [] ∧ reply.Says Status.isUnauthorized) → download.1.2 = invalidate gate) ∧
      (¬ (download.2 ≠ [] ∧ reply.Says Status.isUnauthorized) → download.1.2 = gate) ∧
      ((erasure.2 ≠ [] ∧ reply.Says Status.isUnauthorized) → erasure.1.2.1 = invalidate gate) ∧
      (¬ (erasure.2 ≠ [] ∧ reply.Says Status.isUnauthorized) → erasure.1.2.1 = gate) := by
  refine ⟨fun batch credential => ?_, fun batch status content c₁ c₂ c₃ => ?_,
    fun gate store reply => ?_, exportData_store, fun gate store reply => ?_⟩
  · exact ⟨Client.sendBatch_refused, Client.exportData_refused, Client.eraseData_refused⟩
  · intro upload download erasure uploaded downloaded erased
    rw [show upload.1 = _ from Client.sendBatch_told uploaded,
      show download.1 = _ from Client.exportData_told downloaded,
      show erasure.1 = _ from Client.eraseData_told erased]
    exact Client.agree status content
  · obtain ⟨done, success, erased, unchanged⟩ := erase_store client gate store reply
    exact ⟨done, success, erased, unchanged, fun t ht => Store.eraseAll_ok ht⟩
  · obtain ⟨refused, taken⟩ := exportData_gate client gate reply
    exact ⟨refused, taken, (erase_end client gate store reply).2⟩

/-- A gate with a credential. -/
def loggedIn : MemoryGate := ⟨some ⟨"token"⟩⟩

/-- The answer that a credential is refused. -/
def refusal : Reply := .answer ⟨401, by decide⟩ [] true

theorem alike_and_harmless_refusal :
    Client.Agree ((nearby.sendBatch ⟨[], []⟩ ⟨"token"⟩).told refusal).1
      ((nearby.exportData ⟨"token"⟩).told refusal).1 ((nearby.eraseData ⟨"token"⟩).told refusal).1 ∧
    ((erase nearby loggedIn .inMemory).told refusal).1.2.1 = ⟨none⟩ := by
  have both := @alike_and_harmless MemoryGate _ nearby
  refine ⟨both.2.1 ⟨[], []⟩ ⟨401, by decide⟩ [] _ _ _ ?_ ?_ ?_, ?_⟩
  · decide +kernel
  · decide +kernel
  · decide +kernel
  · refine (both.2.2.2.2 loggedIn .inMemory refusal).2.2.1 ⟨?_, _, _, _, rfl, rfl⟩
    decide +kernel

/-- A store with a record that a rule of its database keeps. -/
def keptStore : Store :=
  .ofDatabase {
    version := Database.currentVersion
    events := .table {
      rows := [Row.ofEvent 1 default], sequence := 1
      guards := { deletion := some ⟨1, "kept by order"⟩ } }
    settings := some none }

/-- The collector has erased its data, and the erasure fails all the same: the store keeps its
record. -/
theorem erase_kept : keptStore.migrate.1 = .ok () ∧
    let told := (erase nearby loggedIn keptStore).told (.answer ⟨200, by decide⟩ [] true)
    told.2.length = 1 ∧ told.1.1 = .error (.store (.database (.refused "kept by order"))) ∧
      told.1.2.2.countTotal = .ok 1 := by
  refine ⟨rfl, ?_⟩
  intro told
  have sent : told.2.length = 1 := by decide +kernel
  have kept : keptStore.eraseAll = (.error (.database (.refused "kept by order")), keptStore) := rfl
  rcases (erase_end nearby loggedIn keptStore (.answer ⟨200, by decide⟩ [] true)).1 with
    ⟨-, unheard⟩ | ⟨ended, -⟩
  · refine absurd ⟨?_, _, _, _, rfl, rfl⟩ unheard
    exact List.ne_nil_of_length_eq_add_one sent
  · rw [kept] at ended
    exact ⟨sent, congrArg Prod.fst ended, congrArg (fun r => r.2.2.countTotal) ended⟩

end Account

end Outbox
