import Outbox.Proofs.Files.Writing
import Outbox.Proofs.Store.Refinement
import Outbox.Store.Open

/-!
# Closing and opening

What is written to a file is read there (`Node.get_write`). So a store that is closed and then
opened at its place is, after its migration, the one that `Store.reopened` gives
(`reopened_of_close`), and what it held is there.
-/

namespace Outbox

namespace Store

variable {o : Opened} {fs : Files} {place : Place}

/-- A store that was closed, and is then opened at its place, has the database that closing it has
left. -/
theorem openPlace_close (hp : o.place = some place) (hr : o.store.readOnly = false)
    (hw : (fs.writeDatabase place o.store.close).1 = .ok ()) (a : Address) (path : String) :
    (openPlace (o.close fs) a place path).1 =
      .ok { store := { ofDatabase o.store.close with readOnly := a.isReadOnly }, place } := by
  have there : (o.close fs).get place = .ok (.database o.store.close) := by
    unfold Opened.close
    simp only [hp, hr, Bool.false_eq_true, if_false]
    unfold Files.writeDatabase Files.change at hw ⊢
    split at hw
    · next root hroot => exact Node.get_write hroot
    · cases hw
  simp only [openPlace, there]

/-- Closing a store, opening it at its place and migrating it is what `reopened` says: a store that
holds a log holds it still. -/
theorem reopened_of_close {l : Log} (h : o.store.Holds l) (hp : o.place = some place)
    (hr : o.store.readOnly = false) (hw : (fs.writeDatabase place o.store.close).1 = .ok ())
    (a : Address) (path : String) :
    ∃ o', (openPlace (o.close fs) a place path).1 = .ok o' ∧ o'.place = some place ∧
      o'.store.migrate = o.store.reopened a.isReadOnly ∧ o'.store.Holds l := by
  refine ⟨_, openPlace_close hp hr hw a path, rfl, rfl, ?_⟩
  have live : o.store.close = o.store.live := by rw [Store.close, h.settled]; rfl
  rw [live]
  exact ⟨rfl, rfl, h.current, h.table⟩

/-! ### Stores that were just opened -/

variable {files files' : Files} {opened : Opened} {a : Address} {content : Text.Bytes}

theorem openFile_settled (h : openFile a place content = .ok opened) :
    opened.store.saved = none := by
  unfold openFile at h
  split at h
  · cases h
  · split at h
    · cases h
    · split at h
      · cases h
      · cases h
        rfl

theorem openPlace_settled {shown : String}
    (h : openPlace files a place shown = (.ok opened, files')) : opened.store.saved = none := by
  unfold openPlace at h
  cases hg : files.get place with
  | ok node =>
    simp only [hg] at h
    cases node with
    | database d =>
      cases h
      rfl
    | file content =>
      dsimp only at h
      split at h
      next => cases h
      next ho =>
        cases h
        exact openFile_settled ho
    | directory entries => cases h
  | error e =>
    simp only [hg] at h
    split at h
    · cases h
    · split at h
      next => cases h
      next ho =>
        cases h
        exact openFile_settled ho

theorem openIn_settled {path : Path} (h : openIn files path = (.ok opened, files')) :
    opened.store.saved = none := by
  unfold openIn at h
  split at h
  · cases h
  · split at h
    · cases h
    · split at h
      · cases h
        rfl
      · split at h
        · cases h
        · exact openPlace_settled h

/-- No transaction is open on a store that was just opened. -/
theorem openAt_settled {path : Path} (h : openAt files path = (.ok opened, files')) :
    opened.store.saved = none := by
  unfold openAt at h
  split at h
  · cases h
  · split at h
    · cases h
    · next hi =>
      cases h
      exact openIn_settled hi

/-- A migration opens none, and needs a store that can be used. -/
theorem migrate_settled {s s' : Store} (h : s.migrate = (.ok (), s')) (settled : s.saved = none) :
    s'.saved = none ∧ s'.poisoned = false := by
  unfold migrate at h
  cases usable : s.poisoned with
  | true => simp [usable] at h
  | false =>
    simp only [usable, settled, Bool.false_eq_true, if_false, Option.isSome_none] at h
    split at h
    · cases h
      exact ⟨settled, usable⟩
    · split at h
      · cases h
      · split at h
        · cases h
        · cases h
        · cases h
          exact ⟨rfl, rfl⟩

/-- As many records are pending in what such a store leaves when it is closed. -/
theorem countPending_close {s : Store} (settled : s.saved = none) (usable : s.poisoned = false) :
    (ofDatabase s.close).countPending = s.countPending := by
  unfold countPending read close
  rw [settled, usable]
  rfl

end Store

end Outbox
