import Outbox.Event.Basic

/-!
# The last known position
-/

namespace Outbox

/-- The last position that was told, if any. -/
structure LastLocation where
  point : Option GeoPoint := none
  deriving DecidableEq, Repr, Inhabited

namespace LastLocation

/-- Takes note of a position; one that is not finite is ignored. -/
def update (l : LastLocation) (p : GeoPoint) : LastLocation :=
  if p.isFinite then ⟨some p⟩ else l

/-- Forgets the position. -/
def clear (_ : LastLocation) : LastLocation := {}

end LastLocation

end Outbox
