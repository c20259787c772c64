import Outbox.Files.Path
import Outbox.Http.Percent
import Outbox.Store.Fault
import Outbox.Text.Quoted

/-!
# Addresses of stores

Where a store is, as a text says it: a path, or an address with the scheme `file:`, whose options say
how the file is to be used. Some texts mean a store that is there only as long as it is open.
-/

namespace Outbox.Store

-- Powers are those of numbers, also where a monoid brings its own.
attribute [local instance (high)] instPowNat

/-- What may be done with the file of a store. -/
inductive Access where
  | read
  | write
  /-- The file is made if it is missing. -/
  | create
  /-- There is no file. -/
  | memory
  deriving DecidableEq, Repr

namespace Access

/-- The word for an access. -/
def ofWord? : String → Option Access
  | "ro" => some .read
  | "rw" => some .write
  | "rwc" => some .create
  | "memory" => some .memory
  | _ => none

/-- How much an access asks for. -/
def demand : Access → Nat
  | .read => 1
  | .write => 2
  | .create => 6
  | .memory => 0

/-- How much may be asked for after an access. -/
def limit : Access → Nat
  | .memory => 128
  | a => a.demand

end Access

/-- Where a store is, and how it is used. -/
structure Address where
  path : Path
  access : Access := .create
  /-- The name of the system that reads and writes the file, if one is named. -/
  system : Option String := none
  /-- The file is taken as one that nobody changes. -/
  immutable : Bool := false
  deriving Repr

namespace Address

/-- The system that has no files. -/
def memorySystem : String := "memdb"

/-- The systems there are. -/
def systems : List String := ["unix", "unix-none", "unix-dotfile", "unix-excl", memorySystem]

/-- The text of a part of an address: percent signs are decoded, and a NUL ends it. -/
def part (s : List Char) : String :=
  Text.decodeLossy ((Http.Percent.decode s).takeWhile (· ≠ 0))

/-- The options of an address, those without a name left out. -/
def options (query : List Char) : List (String × String) :=
  let all := (Text.splitOn '&' query).map fun s =>
    (part (s.takeWhile (· ≠ '=')), part ((s.dropWhile (· ≠ '=')).drop 1))
  all.filter fun option => option.1 ≠ ""

/-- Whether a value says yes. -/
def affirms (value : String) : Bool :=
  match value.toList with
  | c :: s =>
    if c.isDigit then
      let n := Nat.ofDigitChars 10 ((c :: s).takeWhile Char.isDigit) 0
      decide (n < 2 ^ (31 : Nat)) && decide (n % 256 ≠ 0)
    else ["on", "yes", "true"].contains value.toLower
  | [] => false

/-- The address after one more option. -/
def withOption (a : Address) : String × String → Except DatabaseFault Address
  | ("vfs", value) => .ok { a with system := some value }
  | ("cache", value) =>
    if value = "shared" ∨ value = "private" then .ok a else .error (.unknownMode "cache" value)
  | ("mode", value) =>
    match Access.ofWord? value with
    | none => .error (.unknownMode "access" value)
    | some access =>
      if a.access.limit < access.demand then .error (.modeRefused "access" value)
      else .ok { a with access }
  | _ => .ok a

/-- The address in what follows the scheme. -/
def ofRest (base : Place) (s : List Char) : Except DatabaseFault Address := do
  let (authority, s) := match s with
    | '/' :: '/' :: s => (s.takeWhile (· ≠ '/'), s.dropWhile (· ≠ '/'))
    | s => ([], s)
  if authority ≠ [] ∧ authority ≠ "localhost".toList then
    throw (.badAuthority (String.ofList authority))
  let s := s.takeWhile (· ≠ '#')
  let options := options ((s.dropWhile (· ≠ '?')).drop 1)
  let address ← options.foldlM withOption { path := ⟨base, part (s.takeWhile (· ≠ '?'))⟩ }
  return { address with immutable := ((options.lookup "immutable").map affirms).getD false }

/-- The address that a path spells. -/
def ofPath (p : Path) : Except DatabaseFault Address := do
  let address ← match p.text.toList with
    | 'f' :: 'i' :: 'l' :: 'e' :: ':' :: s => ofRest p.base s
    | _ => pure { path := p }
  match address.system with
  | none => return address
  | some name => if systems.contains name then return address else throw (.unknownSystem name)

/-- The name of a store that is kept nowhere. -/
def memoryName : String := ":memory:"

/-- Whether the store is there only as long as it is open. -/
def isPassing (a : Address) : Bool :=
  a.path.text = "" || a.path.text = memoryName || a.access = .memory ||
    a.system = some memorySystem

/-- Whether the store can only be read. What is kept nowhere can be said not to change only where it
has a name. -/
def isReadOnly (a : Address) : Bool :=
  a.access = .read ||
    (a.immutable && a.access ≠ .memory && a.path.text ≠ "" && a.path.text ≠ memoryName)

end Address

end Outbox.Store
