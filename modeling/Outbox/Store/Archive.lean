import Outbox.Json.Print
import Outbox.Json.Scan
import Outbox.Store.Database
import Outbox.Text.Split
import Outbox.Text.Utf8

/-!
# Databases in files

A database is kept in a file as a text. Each line is a word and cells, with tabs between them; the
first line says what the file is. A cell of text is quoted as in JSON, so that no tab or line break
stands inside of it.
-/

namespace Outbox

/-! ### Cells -/

namespace Cell

/-- A cell as it is written. -/
def written : Cell → List Char
  | .null => ['-']
  | .integer n => (toString n).toList
  | .real x => '#' :: Text.hexFixed 16 x.bits.toNat
  | .text s => Json.printText s

/-- The cell that is written. -/
def ofWritten? : List Char → Option Cell
  | ['-'] => some .null
  | '#' :: digits => (Text.numberOfHex? digits).map fun n => .real ⟨UInt64.ofNat n⟩
  | '"' :: s =>
    match Json.textBody s with
    | .ok (t, []) => some (.text t)
    | _ => none
  | s => (String.ofList s).toInt?.map .integer

/-- The integer in a cell. -/
def integer? : Cell → Option Int
  | .integer n => some n
  | _ => none

end Cell

/-! ### Lines -/

/-- A line: what it is about, and cells. -/
structure ArchiveLine where
  word : String
  cells : List Cell := []

namespace ArchiveLine

/-- A line as it is written. -/
def written (l : ArchiveLine) : List Char :=
  l.word.toList ++ l.cells.flatMap (fun c => '\t' :: c.written) ++ ['\n']

/-- The line that is written. -/
def ofWritten? (s : List Char) : Option ArchiveLine :=
  match Text.splitOn '\t' s with
  | [] => none
  | word :: cells => (cells.mapM Cell.ofWritten?).map fun cells => ⟨String.ofList word, cells⟩

/-- The line for guards. -/
def ofGuards (g : Guards) : ArchiveLine where
  word := "guards"
  cells := [g.insertion, g.update, g.deletion].flatMap fun
    | some g => [.integer g.subject, .text g.message]
    | none => [.null, .null]

/-- The line for a row. -/
def ofRow (r : Row) : ArchiveLine := ⟨"row", .integer r.id :: Column.all.map r.cells⟩

end ArchiveLine

namespace Guards

/-- The guard in two cells. -/
def ofCells? : Cell → Cell → Option (Option Guard)
  | .integer subject, .text message => some (some ⟨subject, message⟩)
  | .null, .null => some none
  | _, _ => none

end Guards

namespace Row

/-- The row of a number with the given cells. -/
def ofCells (id : RecordId) (cells : List Cell) : Row where
  id := id
  cells := fun c => (cells[Column.all.idxOf c]?).getD .null

end Row

namespace Database

/-- The first line of a file. -/
def archiveMark : ArchiveLine := ⟨"event store", [.integer 1]⟩

/-- The lines after the first. -/
def archiveLines (d : Database) : List ArchiveLine :=
  [⟨"version", [.integer d.version]⟩] ++
    (match d.events with
      | .missing => []
      | .table t =>
        ⟨"events", [.integer t.sequence]⟩ :: .ofGuards t.guards :: t.rows.map ArchiveLine.ofRow
      | .legacy row guards =>
        [⟨"legacy", [match row with
          | some id => .integer id
          | none => .null]⟩, .ofGuards guards]
      | .view => [⟨"view", []⟩]) ++
    (match d.settings with
      | none => []
      | some id => [⟨"settings", [Cell.ofText? id]⟩]) ++
    (match d.counter with
      | none => []
      | some n => [⟨"counter", [.integer n]⟩])

/-- The bytes of a database. -/
def archive (d : Database) : Text.Bytes :=
  Text.encode (String.ofList ((archiveMark :: d.archiveLines).flatMap ArchiveLine.written))

/-- The database with what one more line says. Rows are in reverse order. -/
def addLine (d : Database) (l : ArchiveLine) : Option Database :=
  match l.word, l.cells, d.events with
  | "version", [.integer version], _ => some { d with version }
  | "events", [.integer sequence], .missing => some { d with events := .table { sequence } }
  | "legacy", [.integer id], .missing => some { d with events := .legacy (some id) {} }
  | "legacy", [.null], .missing => some { d with events := .legacy none {} }
  | "view", [], .missing => some { d with events := .view }
  | "counter", [.integer n], _ => some { d with counter := some n }
  | "settings", [.null], _ => some { d with settings := some none }
  | "settings", [.text id], _ => some { d with settings := some (some id) }
  | "guards", [a, b, c, e, f, g], events => do
    let guards : Guards := ⟨← Guards.ofCells? a b, ← Guards.ofCells? c e, ← Guards.ofCells? f g⟩
    match events with
    | .table t => some { d with events := .table { t with guards } }
    | .legacy row _ => some { d with events := .legacy row guards }
    | _ => none
  | "row", .integer id :: cells, .table t =>
    some { d with events := .table { t with rows := .ofCells id cells :: t.rows } }
  | _, _, _ => none

/-- The database whose rows stand in reverse order. -/
def inOrder (d : Database) : Database :=
  match d.events with
  | .table t => { d with events := .table { t with rows := t.rows.reverse } }
  | _ => d

/-- The database that bytes spell. -/
def ofArchive? (content : Text.Bytes) : Option Database := do
  let text ← Text.decode? content
  let lines ← ((Text.splitOn '\n' text.toList).filter (· ≠ [])).mapM ArchiveLine.ofWritten?
  match lines with
  | mark :: lines =>
    if mark.word = archiveMark.word ∧ mark.cells = archiveMark.cells then
      (lines.foldlM addLine {}).map inOrder
    else none
  | [] => none

end Database

end Outbox
