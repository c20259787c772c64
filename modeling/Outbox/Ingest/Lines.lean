import Outbox.Event.Format
import Outbox.Files.Fault
import Outbox.Ingest.Basic
import Outbox.Text.Utf8

/-!
# Importing events

A file of events has one of them in each line. Lines without any text are passed over; lines that
are no event, and events that the store refuses, are told with their numbers. Bytes that are no
text end the import, and so does a failure to read on.
-/

namespace Outbox

/-- The lines of a sequence of bytes, without line feeds and one carriage return before each. -/
def byteLines (bs : Text.Bytes) : List Text.Bytes :=
  match bs with
  | [] => []
  | b :: rest =>
    let line := (b :: rest).takeWhile (· != 10)
    let next := ((b :: rest).drop line.length).drop 1
    (if line.getLast? = some 13 ∧ line.length ≤ rest.length then line.dropLast else line) ::
      byteLines next
  termination_by bs.length
  decreasing_by
    simp only [List.length_drop, List.length_cons]; omega

/-- What is read to its end, or until reading fails. -/
structure Source where
  content : Text.Bytes
  fault : Option FileFault := none
  deriving DecidableEq, Repr

/-- The bytes up to the last line feed. -/
def wholeLines (bs : Text.Bytes) : Text.Bytes := (bs.reverse.dropWhile (· != 10)).reverse

/-- The lines of a source. Of a line in which reading fails nothing is known. -/
def Source.lines (s : Source) : List Text.Bytes :=
  byteLines (if s.fault.isSome then wholeLines s.content else s.content)

/-- What has become of an import. Its count and its numbers of lines have no bound, and counters of
64 bits show the same below `2 ^ 64`. -/
structure ImportSummary where
  inserted : Nat := 0
  /-- The lines that are no event, with the reason. -/
  failed : List (Nat × Json.Fault) := []
  /-- The lines whose event the store has refused, with the reason. -/
  refused : List (Nat × StoreFault) := []
  deriving DecidableEq, Repr, Inhabited

namespace Ingestor

/-- An event with a user, if it had none. -/
def withUser (user : String) (e : Event) : Event :=
  if e.userId.isEmpty then { e with userId := user } else e

/-- Imports the text of one line. -/
def importLine (i : Ingestor) (user : String) (number : Nat) (line : String)
    (state : ImportSummary × Target) : ImportSummary × Target :=
  let (summary, target) := state
  if Text.isBlankText line then state
  else
    match Event.ofJson line with
    | .error fault => ({ summary with failed := summary.failed ++ [(number, fault)] }, target)
    | .ok e =>
      match i.record (withUser user e) target with
      | (.ok _, target) => ({ summary with inserted := summary.inserted + 1 }, target)
      | (.error fault, target) =>
        ({ summary with refused := summary.refused ++ [(number, fault)] }, target)

/-- Imports lines, the first of which has the given number. -/
def importFrom (i : Ingestor) (user : String) :
    Nat → List Text.Bytes → ImportSummary × Target → Except FileFault ImportSummary × Target
  | _, [], (summary, target) => (.ok summary, target)
  | number, line :: lines, state =>
    match Text.decode? line with
    | none => (.error .notText, state.2)
    | some line => importFrom i user (number + 1) lines (i.importLine user number line state)

/-- Imports a source. Events without a user get the given one. -/
def importSource (i : Ingestor) (user : String) (source : Source) (target : Target) :
    Except FileFault ImportSummary × Target :=
  match i.importFrom user 1 source.lines ({}, target) with
  | (.ok summary, target) =>
    match source.fault with
    | none => (.ok summary, target)
    | some fault => (.error fault, target)
  | (.error fault, target) => (.error fault, target)

end Ingestor

end Outbox
