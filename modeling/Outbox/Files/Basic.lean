import Outbox.Files.Path
import Outbox.Store.Database
import Outbox.Text.Utf8

/-!
# Files

A tree of directories and files, and the operations on it. A file holds bytes, or a database in
the form in which stores keep it.
-/

namespace Outbox

/-- A directory or a file. -/
inductive Node where
  | file (content : Text.Bytes)
  | database (content : Database)
  | directory (entries : List (String × Node))

instance : Inhabited Node := ⟨.directory []⟩

namespace Node

/-- The entry of a name. -/
def find? (entries : List (String × Node)) (name : String) : Option Node :=
  (entries.find? fun e => e.1 == name).map (·.2)

/-- The entries with a new node under a name. -/
def put (entries : List (String × Node)) (name : String) (node : Node) : List (String × Node) :=
  if entries.any fun e => e.1 == name then
    entries.map fun e => if e.1 == name then (name, node) else e
  else entries ++ [(name, node)]

/-- The entries without a name. -/
def erase (entries : List (String × Node)) (name : String) : List (String × Node) :=
  entries.filter fun e => e.1 != name

/-- The node at a place. -/
def get (node : Node) : Place → Except FileFault Node
  | [] => .ok node
  | name :: place =>
    match node with
    | .directory entries =>
      match find? entries name with
      | some child => child.get place
      | none => .error .notFound
    | _ => .error .notADirectory

/-- The tree with another file at a place, which may be taken by a file but not by a directory. -/
def write (node file : Node) : Place → Except FileFault Node
  | [] =>
    match node with
    | .directory _ => .error .isADirectory
    | _ => .ok file
  | name :: place =>
    match node with
    | .directory entries =>
      match find? entries name, place with
      | some child, place => (child.write file place).map fun c => .directory (put entries name c)
      | none, [] => .ok (.directory (put entries name file))
      | none, _ :: _ => .error .notFound
    | _ => .error .notADirectory

/-- The tree with an empty directory at a place that is free. -/
def makeDirectory (node : Node) : Place → Except FileFault Node
  | [] => .error .alreadyExists
  | name :: place =>
    match node with
    | .directory entries =>
      match find? entries name, place with
      | some _, [] => .error .alreadyExists
      | none, [] => .ok (.directory (put entries name (.directory [])))
      | some child, next :: place =>
        (child.makeDirectory (next :: place)).map fun c => .directory (put entries name c)
      | none, _ :: _ => .error .notFound
    | _ => .error .notADirectory

/-- The tree without the file at a place. -/
def remove (node : Node) : Place → Except FileFault Node
  | [] => .error .isADirectory
  | name :: place =>
    match node with
    | .directory entries =>
      match find? entries name, place with
      | none, _ => .error .notFound
      | some (.directory _), [] => .error .isADirectory
      | some _, [] => .ok (.directory (erase entries name))
      | some child, next :: place =>
        (child.remove (next :: place)).map fun c => .directory (put entries name c)
    | _ => .error .notADirectory

end Node

/-- The files, with the root of the tree. -/
structure Files where
  root : Node := .directory []

instance : Inhabited Files := ⟨⟨.directory []⟩⟩

namespace Files

/-- The node at a place. -/
def get (fs : Files) (place : Place) : Except FileFault Node := fs.root.get place

/-- The files after an operation on the root. -/
def change (fs : Files) (r : Except FileFault Node) : Except FileFault Unit × Files :=
  match r with
  | .ok root => (.ok (), ⟨root⟩)
  | .error e => (.error e, fs)

/-! ### Walking -/

/-- One step of a walk, to an entry of the directory at a place. -/
def step (fs : Files) (place : Place) (name : String) : Except FileFault Place :=
  match fs.get place with
  | .error e => .error e
  | .ok (.directory entries) =>
    if name = Path.here then .ok place
    else if name = Path.above then .ok place.dropLast
    else if Path.longestName < name.utf8ByteSize then .error .nameTooLong
    else if (Node.find? entries name).isSome then .ok (place ++ [name])
    else .error .notFound
  | .ok _ => .error .notADirectory

/-- A walk along names. -/
def walk (fs : Files) (place : Place) (names : List String) : Except FileFault Place :=
  names.foldlM fs.step place

/-- The place that a path leads to. -/
def locate (fs : Files) (p : Path) : Except FileFault Place := do
  if let some e := p.fault? then throw e
  let place ← fs.walk p.start p.names
  match p.endsInSlash, ← fs.get place with
  | true, .directory _ => return place
  | true, _ => throw .notADirectory
  | false, _ => return place

/-- The directory that the path leads to without its last name, and that name if it is one of an
entry. -/
def target (fs : Files) (p : Path) : Except FileFault (Place × Option String) := do
  if let some e := p.fault? then throw e
  let directory ← fs.walk p.start p.names.dropLast
  match ← fs.get directory with
  | .directory _ => return (directory, p.names.getLast?.filter Path.isEntryName)
  | _ => throw .notADirectory

/-- Whether a path leads somewhere. -/
def exists? (fs : Files) (p : Path) : Bool := (fs.locate p).isOk

/-- Whether a path leads to a directory. -/
def isDirectory (fs : Files) (p : Path) : Bool :=
  match fs.locate p >>= fs.get with
  | .ok (.directory _) => true
  | _ => false

/-! ### Reading -/

/-- The bytes of the file at a place. Those of a database are no text. -/
def readAt (fs : Files) (place : Place) : Except FileFault Text.Bytes :=
  match fs.get place with
  | .error e => .error e
  | .ok (.directory _) => .error .isADirectory
  | .ok (.database _) => .error .notText
  | .ok (.file content) => .ok content

/-- The bytes of a file. -/
def readBytes (fs : Files) (p : Path) : Except FileFault Text.Bytes :=
  match fs.locate p with
  | .error e => .error e
  | .ok place => fs.readAt place

/-- The text of a file. -/
def readText (fs : Files) (p : Path) : Except FileFault String :=
  match fs.readBytes p with
  | .error e => .error e
  | .ok content =>
    match Text.decode? content with
    | some s => .ok s
    | none => .error .notText

/-! ### Writing -/

/-- Writes a file to a place. -/
def writeAt (fs : Files) (place : Place) (content : Text.Bytes) : Except FileFault Unit × Files :=
  fs.change (fs.root.write (.file content) place)

/-- Writes a database to a place. -/
def writeDatabase (fs : Files) (place : Place) (content : Database) :
    Except FileFault Unit × Files :=
  fs.change (fs.root.write (.database content) place)

/-- Removes the file at a place. -/
def removeAt (fs : Files) (place : Place) : Except FileFault Unit × Files :=
  fs.change (fs.root.remove place)

/-- Writes a file, in the place of one that is there. -/
def writeFile (fs : Files) (p : Path) (content : Text.Bytes) : Except FileFault Unit × Files :=
  match fs.target p with
  | .error e => (.error e, fs)
  | .ok (_, none) => (.error .isADirectory, fs)
  | .ok (directory, some name) =>
    if p.endsInSlash then (.error .isADirectory, fs)
    else if Path.longestName < name.utf8ByteSize then (.error .nameTooLong, fs)
    else fs.writeAt (directory ++ [name]) content

/-- Removes a file. -/
def removeFile (fs : Files) (p : Path) : Except FileFault Unit × Files :=
  match fs.target p with
  | .error e => (.error e, fs)
  | .ok (_, none) => (.error .isADirectory, fs)
  | .ok (directory, some name) =>
    match fs.step directory name >>= fs.get, p.endsInSlash with
    | .error e, _ => (.error e, fs)
    | .ok (.directory _), _ => (.error .isADirectory, fs)
    | .ok _, true => (.error .notADirectory, fs)
    | .ok _, false => fs.removeAt (directory ++ [name])

/-! ### Directories -/

/-- Makes a directory. -/
def makeDirectory (fs : Files) (p : Path) : Except FileFault Unit × Files :=
  match fs.target p with
  | .error e => (.error e, fs)
  | .ok (_, none) => (.error .alreadyExists, fs)
  | .ok (directory, some name) =>
    if Path.longestName < name.utf8ByteSize then (.error .nameTooLong, fs)
    else fs.change (fs.root.makeDirectory (directory ++ [name]))

/-- Makes a directory that may be there already. -/
def ensureDirectory (fs : Files) (p : Path) : Except FileFault Unit × Files :=
  match fs.makeDirectory p with
  | (.ok (), fs) => (.ok (), fs)
  | (.error e, fs) => (if fs.isDirectory p then .ok () else .error e, fs)

/-- Makes a directory that may be there already, and those on the way to it, which are given with
the nearest first. They are made only if something on the way is missing. The path of no name at all
needs nothing. -/
def makeChain (fs : Files) (p : Path) : List Path → Except FileFault Unit × Files
  | [] => if p.text = "" then (.ok (), fs) else fs.ensureDirectory p
  | parent :: parents =>
    match fs.ensureDirectory p with
    | (.error .notFound, fs) =>
      match fs.makeChain parent parents with
      | (.ok (), fs) => fs.ensureDirectory p
      | failed => failed
    | r => r

/-- Makes a directory together with those on the way to it. -/
def makeDirectories (fs : Files) (p : Path) : Except FileFault Unit × Files :=
  fs.makeChain p p.ancestors

/-- Makes the directories on the way to a file. -/
def makeParents (fs : Files) (p : Path) : Except FileFault Unit × Files :=
  match p.ancestors with
  | [] => (.ok (), fs)
  | parent :: parents => fs.makeChain parent parents

end Files

end Outbox
