import Outbox.Ingest.Location
import Outbox.Sync.Scheduler

/-!
# Recording events

What is observed goes into the store. An event without a position gets the last known one, and what
was seen of a request is only kept for HTTP without encryption. When the count of pending records
comes to a multiple of a threshold, an attempt to upload them is triggered.
-/

namespace Outbox

/-- An event as it is recorded, with the last known position at hand. -/
def Event.prepared (e : Event) (position : Option GeoPoint) : Event :=
  let e := if e.location.isNone then { e with location := position } else e
  if e.isCleartextHttp then e else { e with http := none }

/-- How events are recorded. -/
structure Ingestor where
  /-- The last known position is used. -/
  located : Bool := false
  /-- The step in which pending records trigger attempts, if they do. -/
  threshold : Option Nat := none
  deriving DecidableEq, Repr, Inhabited

namespace Ingestor

/-- Whether a count of pending records is one that triggers an attempt. A threshold of zero acts as
one. -/
def isDue (threshold pending : Nat) : Bool :=
  decide (0 < pending) && decide (pending % max threshold 1 = 0)

/-- Triggers an attempt if the count of pending records is due. -/
def trigger (i : Ingestor) (store : Store) (scheduler : Scheduler) : Scheduler :=
  match i.threshold with
  | none => scheduler
  | some threshold =>
    match store.countPending with
    | .ok pending => if isDue threshold pending then scheduler.trigger.2 else scheduler
    | .error _ => scheduler

/-- Where events are recorded. -/
structure Target where
  store : Store
  scheduler : Scheduler := {}
  location : LastLocation := {}

/-- Records an event. A failure of the store is told, and no attempt is triggered. -/
def record (i : Ingestor) (e : Event) (t : Target) : Except StoreFault RecordId × Target :=
  match t.store.append (e.prepared (if i.located then t.location.point else none)) with
  | (.error fault, store) => (.error fault, { t with store })
  | (.ok id, store) => (.ok id, { t with store, scheduler := i.trigger store t.scheduler })

end Ingestor

end Outbox
