import Outbox.Files.Fault
import Outbox.Text.Split

/-!
# Paths

A path is a text of names between slashes, seen from a directory. It is walked name by name, so that
a path through something that is not there, or that is no directory, leads nowhere, even if its next
name leads back.
-/

namespace Outbox

/-- A place in a tree: the names of the directories on the way, and the last name. -/
abbrev Place := List String

/-- A path as it is written. -/
structure Path where
  /-- The directory in which the path begins, unless it begins with a slash. -/
  base : Place := []
  text : String
  deriving DecidableEq, Repr, Inhabited

/-- A path continued by a relative one. -/
def joinPath (base path : String) : String :=
  if base = "" ∨ base.endsWith "/" then base ++ path else base ++ "/" ++ path

namespace Path

/-- The largest number of bytes in a name. -/
def longestName : Nat := 255

/-- The largest number of bytes in a path. -/
def longestText : Nat := 4095

/-- The name of the directory itself. -/
def here : String := "."

/-- The name of the directory above. -/
def above : String := ".."

/-- Whether the path begins at the root. -/
def isAbsolute (p : Path) : Bool := p.text.startsWith "/"

/-- Where the path begins. -/
def start (p : Path) : Place := if p.isAbsolute then [] else p.base

/-- The names between the slashes. -/
def names (p : Path) : List String :=
  ((Text.splitOn '/' p.text.toList).filter (· ≠ [])).map String.ofList

/-- Whether the path can only be that of a directory. -/
def endsInSlash (p : Path) : Bool := p.text.endsWith "/"

/-- The fault of a path that no operation accepts. -/
def fault? (p : Path) : Option FileFault :=
  if p.text.contains '\x00' then some .nulInName
  else if p.text = "" then some .notFound
  else if longestText < p.text.utf8ByteSize then some .nameTooLong
  else none

/-- Whether a name can be that of an entry of a directory. -/
def isEntryName (name : String) : Bool := name ≠ here && name ≠ above

/-- The paths of the directories on the way, the nearest first. -/
def ancestors (p : Path) : List Path :=
  let parts := p.names.filter (· ≠ here)
  (List.range parts.length).reverse.map fun n =>
    { p with text := (if p.isAbsolute then "/" else "") ++ "/".intercalate (parts.take n) }

/-- The place that a name leads to where it is only read, not walked. -/
def follow (place : Place) (name : String) : Place :=
  if name = here then place else if name = above then place.dropLast else place ++ [name]

/-- The places that a path comes past, from its start to its end. -/
def way (p : Path) : List Place :=
  (List.range (p.names.length + 1)).map fun n => (p.names.take n).foldl follow p.start

end Path

end Outbox
