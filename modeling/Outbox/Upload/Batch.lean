import Outbox.Upload.Anonymizer

/-!
# Batches

The records of one upload: their numbers, which stay on the device, and what is told of them.
-/

namespace Outbox

/-- The records of one upload, in the order of their selection. -/
structure Batch where
  ids : List RecordId
  events : List AnonymizedEvent
  deriving DecidableEq, Repr, Inhabited

namespace Batch

/-- The batch of the given records. -/
def assemble (anonymizer : Anonymizer) (records : List Record) : Batch where
  ids := records.map (·.id)
  events := records.map anonymizer.transform

/-- How many records a batch has. -/
def size (b : Batch) : Nat := b.events.length

/-- A batch without records. -/
def isEmpty (b : Batch) : Bool := b.events.isEmpty

/-- The body of the request that uploads a batch. -/
def body (b : Batch) : List Char :=
  Json.printObject [("requests", Json.printList (b.events.map AnonymizedEvent.print))]

/-- The body as a text. -/
def bodyText (b : Batch) : String := String.ofList b.body

end Batch

end Outbox
