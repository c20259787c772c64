import Outbox.Http.Host

/-!
# Addresses

The address of a request, taken apart and brought into its normal form: the host in lower case, the
path without `.` and `..`, and every character outside of the plain ones written as the numbers of
its bytes.
-/

namespace Outbox.Http

/-- An address with the scheme `http` or `https`. -/
structure Url where
  secure : Bool
  user : String
  password : Option String
  host : String
  /-- The port, unless it is the usual one of the scheme. -/
  port : Option Nat
  /-- The path from its first slash on. -/
  path : String
  query : Option String
  fragment : Option String
  deriving DecidableEq, Repr

namespace Url

/-! ### Parts -/

/-- A slash in either direction. -/
def isSlash (c : Char) : Bool := c == '/' || c == '\\'

/-- A part of a path that stands for the place itself. -/
def isHere (s : List Char) : Bool :=
  let s := s.map Char.toLower
  s == ['.'] || s == ['%', '2', 'e']

/-- A part of a path that stands for the place above. -/
def isAbove (s : List Char) : Bool :=
  let s := s.map Char.toLower
  s == ['.', '.'] || s == ['.', '%', '2', 'e'] || s == ['%', '2', 'e', '.'] ||
    s == ['%', '2', 'e', '%', '2', 'e']

/-- The parts of a path after `.` and `..` have been followed. `kept` holds those before, the last
one first. -/
def follow (kept : List (List Char)) : List (List Char) → List (List Char)
  | [] => kept.reverse
  | part :: parts =>
    if isAbove part then
      if parts.isEmpty then ([] :: kept.drop 1).reverse else follow (kept.drop 1) parts
    else if isHere part then
      if parts.isEmpty then ([] :: kept).reverse else follow kept parts
    else follow (Percent.encode Percent.inPath part :: kept) parts

/-- A path in its normal form. -/
def normalPath (s : List Char) : String :=
  let s := s.map fun c => if c = '\\' then '/' else c
  let parts := match s with
    | '/' :: s => Text.splitOn '/' s
    | s => Text.splitOn '/' s
  String.ofList ((follow [] parts).flatMap fun part => '/' :: part)

/-- The port after a colon, with `usual` for none. -/
def port? (usual : Nat) (s : List Char) : Option (Option Nat) :=
  if s.all Char.isDigit then
    let n := Nat.ofDigitChars 10 s 0
    if s.isEmpty ∨ n = usual then some none
    else if n ≤ 65535 then some (some n)
    else none
  else none

/-- The host and the port of an authority: the last colon outside of brackets parts them. -/
def splitPort (s : List Char) : List Char × List Char :=
  let tail := s.reverse.takeWhile fun c => c != ':' && c != ']'
  match s.reverse.drop tail.length with
  | ':' :: front => (front.reverse, tail.reverse)
  | _ => (s, [])

/-- The user and the rest of an authority: the last `@` parts them. -/
def splitUser (s : List Char) : Option (List Char) × List Char :=
  let tail := s.reverse.takeWhile (· != '@')
  match s.reverse.drop tail.length with
  | _ :: front => (some front.reverse, tail.reverse)
  | [] => (none, s)

/-- What an address is read from: without control characters and blanks at its ends, and without
line breaks and tabs. -/
def cleaned (s : String) : List Char :=
  let isEdge (c : Char) : Bool := decide (c.toNat ≤ 0x20)
  let s := ((s.toList.dropWhile isEdge).reverse.dropWhile isEdge).reverse
  s.filter fun c => ! (c == '\t' || c == '\n' || c == '\r')

/-- The address after its scheme. -/
def ofRest? (secure : Bool) (s : List Char) : Option Url := do
  let s := s.dropWhile isSlash
  let isEnd (c : Char) : Bool := isSlash c || c == '?' || c == '#'
  let authority := s.takeWhile fun c => ! isEnd c
  let s := s.dropWhile fun c => ! isEnd c
  let (credentials, server) := splitUser authority
  let (name, port) := splitPort server
  let host ← Host.ofText? name
  let port ← port? (if secure then 443 else 80) port
  let path := s.takeWhile fun c => c != '?' && c != '#'
  let s := s.dropWhile fun c => c != '?' && c != '#'
  let (query, s) := match s with
    | '?' :: s => (some (s.takeWhile (· != '#')), s.dropWhile (· != '#'))
    | s => (none, s)
  let fragment := match s with
    | '#' :: s => some s
    | _ => none
  let encoded (keeps : Char → Bool) (part : List Char) : String :=
    String.ofList (Percent.encode keeps part)
  let credentials := credentials.getD []
  let user := credentials.takeWhile (· != ':')
  let password := credentials.dropWhile (· != ':')
  return {
    secure
    user := encoded Percent.inUser user
    password := if password.length ≤ 1 then none else some (encoded Percent.inUser (password.drop 1))
    host
    port
    path := normalPath path
    query := query.map (encoded Percent.inQuery)
    fragment := fragment.map (encoded Percent.inFragment) }

/-- The address that a text spells. -/
def ofText? (s : String) : Option Url :=
  let cs := cleaned s
  let scheme := (cs.takeWhile (· != ':')).map Char.toLower
  match cs.dropWhile (· != ':') with
  | _ :: rest =>
    if scheme = "http".toList then ofRest? false rest
    else if scheme = "https".toList then ofRest? true rest
    else none
  | [] => none

/-- The scheme, the host and the port: where a request goes. -/
def origin (u : Url) : String :=
  (if u.secure then "https://" else "http://") ++ u.host ++
    (match u.port with
      | some p => ":" ++ toString p
      | none => "")

/-- What is asked of the server: the path and the query. -/
def target (u : Url) : String :=
  u.path ++
    (match u.query with
      | some q => "?" ++ q
      | none => "")

/-- The characters in the name of a host with which a server can be asked for it. -/
def isAskable (c : Char) : Bool := ! (c == '"' || c == '`' || c == '\x7b' || c == '\x7d')

/-- The whole address, as it is shown. Who the user is, is not shown. -/
def text (u : Url) : String :=
  u.origin ++ u.target ++
    (match u.fragment with
      | some f => "#" ++ f
      | none => "")

/-- The largest number of characters in the address of a request. -/
def longest : Nat := 65534

/-- Whether a request can be made for an address. -/
def isRequestable (u : Url) : Bool :=
  u.host.toList.all isAskable && decide (u.text.length ≤ longest)

end Url

end Outbox.Http
