/-!
# Values of a configuration text

A table is built up from keys with dots and from headings. Where a part of it comes from decides
what may be added to it later.
-/

namespace Outbox.Toml

/-- Where a table comes from. -/
inductive Origin where
  /-- From a heading of its own. -/
  | headed
  /-- From the heading of a table inside it. -/
  | implied
  /-- From a key with dots. -/
  | dotted
  /-- It is written in braces, and complete. -/
  | inline
  deriving DecidableEq, Repr

/-- A value. Doubles and times are only known to be there. -/
inductive Value where
  | text (value : String)
  | integer (value : Int)
  | double
  | boolean (value : Bool)
  | time
  | array (items : List Value)
  | table (origin : Origin) (entries : List (String × Value))
  /-- Tables with one heading, which may come several times. -/
  | tables (items : List Value)
  deriving Inhabited

/-- The entries of a table. -/
abbrev Entries := List (String × Value)

namespace Entries

/-- The value of a key. -/
def get? (entries : Entries) (key : String) : Option Value :=
  (entries.find? fun e => e.1 == key).map (·.2)

/-- The entries with another value for a key. -/
def put (entries : Entries) (key : String) (value : Value) : Entries :=
  if entries.any fun e => e.1 == key then
    entries.map fun e => if e.1 == key then (key, value) else e
  else entries ++ [(key, value)]

/-- The entries after a change of the table at a path of keys. Tables on the way that are missing
are made; one that is complete cannot be changed, nor can a key with dots go through a table with a
heading of its own. Of tables with one heading the last one counts. -/
def modify (byDots : Bool) (change : Origin → Entries → Option Entries) :
    List String → Origin → Entries → Option Entries
  | [], origin, entries => change origin entries
  | key :: path, _, entries =>
    match entries.get? key with
    | none =>
      let origin := if byDots then Origin.dotted else .implied
      (modify byDots change path origin []).map fun inner => entries.put key (.table origin inner)
    | some (.table origin inner) =>
      if origin = .inline ∨ (byDots = true ∧ origin = .headed) then none
      else
        (modify byDots change path origin inner).map fun inner =>
          entries.put key (.table origin inner)
    | some (.tables items) =>
      match items.reverse with
      | .table origin inner :: before =>
        (modify byDots change path origin inner).map fun inner =>
          entries.put key (.tables (before.reverse ++ [.table origin inner]))
      | _ => none
    | some _ => none

/-- The entries with a value for a key with dots, unless the key has one. -/
def insert (path : List String) (key : String) (value : Value) (entries : Entries) :
    Option Entries :=
  modify true (fun origin entries =>
    if (path ≠ [] ∧ origin ≠ .dotted) ∨ (entries.get? key).isSome then none
    else some (entries.put key value)) path .headed entries

/-- The entries with a heading for a table, unless it has one. -/
def openTable (path : List String) (key : String) (entries : Entries) : Option Entries :=
  modify false (fun _ entries =>
    match entries.get? key with
    | none => some (entries.put key (.table .headed []))
    | some (.table .implied inner) => some (entries.put key (.table .headed inner))
    | some _ => none) path .headed entries

/-- The entries with one more table among those of a heading. -/
def openNextTable (path : List String) (key : String) (entries : Entries) : Option Entries :=
  modify false (fun _ entries =>
    match entries.get? key with
    | none => some (entries.put key (.tables [.table .headed []]))
    | some (.tables items) => some (entries.put key (.tables (items ++ [.table .headed []])))
    | some _ => none) path .headed entries

/-- The entries with a value under the table of the last heading. -/
def insertUnder (heading path : List String) (key : String) (value : Value) (entries : Entries) :
    Option Entries :=
  modify false (fun _ entries => insert path key value entries) heading .headed entries

end Entries

end Outbox.Toml
