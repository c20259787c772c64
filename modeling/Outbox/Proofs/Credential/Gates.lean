import Outbox.Credential.FileGate
import Outbox.Proofs.Files.Removal

/-!
# Gates that let go

A gate that has let go of its credential holds none. The gate in memory does so, and so does the one
on a file: what could be read there could be removed as well.
-/

namespace Outbox

open CredentialGate

/-- A gate that holds nothing after it has let go of its credential. -/
class LawfulGate (γ : Type) [CredentialGate γ] : Prop where
  current_invalidate (g : γ) : current (invalidate g) = none

instance : LawfulGate MemoryGate := ⟨fun _ => rfl⟩

namespace FileGate

/-- The credential in a text is what is left without the blanks at its ends. -/
theorem credentialOf?_of_trimmed {content token : String}
    (trimmed : Text.trimChars content.toList = token.toList) (nonempty : token.isEmpty = false) :
    credentialOf? content = some ⟨token⟩ := by
  have bare : Text.trim content = token := by rw [Text.trim, trimmed, String.ofList_toList]
  simp only [credentialOf?, bare, nonempty, Bool.false_eq_true, if_false]

theorem clear_eq (g : FileGate) :
    g.clear.2 = { g with files := (g.files.removeFile g.path).2 } := by
  unfold clear
  split
  · next h => rw [h]
  · next h => rw [h]

instance : LawfulGate FileGate where
  current_invalidate g := by
    obtain ⟨e, he⟩ := g.files.readBytes_removeFile g.path
    show g.clear.2.current? = none
    rw [clear_eq]
    simp only [current?, Files.readText, he]

end FileGate

end Outbox
