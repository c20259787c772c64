import Outbox.Text.Utf8

/-!
# Credentials

The token by which the collector knows a user, and where it comes from: a gate that holds the
current one, and lets go of it when the collector has refused it.
-/

namespace Outbox

/-- A token that the collector accepts. -/
structure Credential where
  token : String
  deriving DecidableEq, Repr, Inhabited

/-- How a credential is shown: without its token. -/
def Credential.shown (_ : Credential) : String := "Credential(<redacted>)"

/-- A header can carry the credential: it has no control characters but tabs. -/
def Credential.isSendable (c : Credential) : Bool :=
  (Text.encode c.token).all fun b =>
    b = 9 || (decide (32 ≤ b.toNat) && decide (b.toNat ≠ 127))

/-- A place that credentials come from. -/
class CredentialGate (γ : Type) where
  /-- The credential that would be sent. -/
  current : γ → Option Credential
  /-- Whether there is a session at all. -/
  isAuthenticated : γ → Bool := fun g => (current g).isSome
  /-- Lets go of the current credential. -/
  invalidate : γ → γ

namespace CredentialGate

variable {γ : Type} [CredentialGate γ]

/-- The credential of a session. -/
def usable (g : γ) : Option Credential := if isAuthenticated g then current g else none

end CredentialGate

/-- A gate that holds its credential in memory. -/
structure MemoryGate where
  held : Option Credential := none
  deriving DecidableEq, Repr, Inhabited

namespace MemoryGate

/-- Puts a credential in the place of the one that is held. -/
def set (_ : MemoryGate) (c : Credential) : MemoryGate := ⟨some c⟩

instance : CredentialGate MemoryGate where
  current g := g.held
  invalidate _ := {}

end MemoryGate

/-- A gate with a credential that is never good, and that it never lets go of. -/
structure ClosedGate where
  held : Credential
  deriving DecidableEq, Repr, Inhabited

instance : CredentialGate ClosedGate where
  current g := some g.held
  isAuthenticated _ := false
  invalidate g := g

end Outbox
