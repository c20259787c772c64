import Outbox.Logging.Files
import Outbox.Proofs.Files.Removal
import Outbox.Proofs.Text.Utf8

/-!
# Files that are found

A path from the root without anything unusual leads where its names lead (`locate_plain`), and the
text of the file there is read (`readText_plain`). A directory that is found is not made once more,
nor are those on the way to it (`makeChain_there`), and a log file that is found is the one that is
opened (`openFile_there`).
-/

namespace Outbox

namespace Path

variable {p : Path}

theorem fault?_eq_none_iff : p.fault? = none ↔
    '\x00' ∉ p.text.toList ∧ p.text ≠ "" ∧ p.text.utf8ByteSize ≤ longestText := by
  unfold fault?
  simp only [String.contains_char_eq, decide_eq_true_eq]
  by_cases nul : '\x00' ∈ p.text.toList
  · simp [nul]
  · by_cases empty : p.text = ""
    · simp [empty]
    · simp [nul, empty]

/-- A path from the root that every operation accepts, whether it is that of a directory or not. -/
structure Plain (p : Path) : Prop where
  clean : '\x00' ∉ p.text.toList
  short : p.text.utf8ByteSize ≤ longestText
  rooted : ['/'] <+: p.text.toList
  ends : ¬ ['/'] <:+ p.text.toList

instance (p : Path) : Decidable p.Plain :=
  decidable_of_iff ('\x00' ∉ p.text.toList ∧ p.text.utf8ByteSize ≤ longestText ∧
      ['/'] <+: p.text.toList ∧ ¬ ['/'] <:+ p.text.toList)
    ⟨fun ⟨clean, short, rooted, ends⟩ => ⟨clean, short, rooted, ends⟩,
      fun ⟨clean, short, rooted, ends⟩ => ⟨clean, short, rooted, ends⟩⟩

namespace Plain

theorem fault? (h : p.Plain) : p.fault? = none := by
  refine fault?_eq_none_iff.mpr ⟨h.clean, fun none => ?_, h.short⟩
  have rooted := h.rooted
  simp [none] at rooted

theorem isAbsolute (h : p.Plain) : p.isAbsolute = true := by
  have : ("/" : String).toList <+: p.text.toList := h.rooted
  exact String.startsWith_string_iff.mpr this

theorem start (h : p.Plain) : p.start = [] := if_pos h.isAbsolute

theorem endsInSlash (h : p.Plain) : p.endsInSlash = false := by
  refine Bool.eq_false_iff.mpr fun ends => h.ends ?_
  have : p.text.toSlice.endsWith "/" = true := ends
  simpa using String.Slice.endsWith_string_iff.mp this

end Plain

end Path

namespace Files

variable {fs : Files} {p : Path} {place : Place} {node : Node}

theorem locate_plain (plain : p.Plain) (walked : fs.walk [] p.names = .ok place)
    (there : fs.get place = .ok node) : fs.locate p = .ok place := by
  rw [← plain.start] at walked
  exact locate_of_walk plain.fault? plain.endsInSlash walked there

theorem readText_located {text : String} (located : fs.locate p = .ok place)
    (there : fs.get place = .ok (.file (Text.encode text))) : fs.readText p = .ok text := by
  have read : Text.decode? (Text.encode text) = some text := Text.decode?_eq_some_iff.mpr rfl
  simp only [readText, readBytes, located, readAt, there, read]

theorem readText_plain {text : String} (plain : p.Plain) (walked : fs.walk [] p.names = .ok place)
    (there : fs.get place = .ok (.file (Text.encode text))) : fs.readText p = .ok text :=
  readText_located (locate_plain plain walked there) there

theorem makeChain_there {e : FileFault} (made : fs.makeDirectory p = (.error e, fs))
    (there : fs.isDirectory p = true) (parents : List Path) :
    fs.makeChain p parents = (.ok (), fs) := by
  have kept : fs.ensureDirectory p = (.ok (), fs) := by simp [ensureDirectory, made, there]
  cases parents with
  | nil => simp [makeChain, kept]
  | cons parent parents => simp [makeChain, kept]

end Files

/-- Where there are few files, the log file of the day is opened and the others stay. -/
theorem Logging.openFile_there {fs : Files} {directory : Place} {entries : List (String × Node)}
    {limit : Nat} {date : String} (found : fs.get directory = .ok (.directory entries))
    (few : entries.length < limit)
    (there : (fs.get (directory ++ [fileName date])).isOk = true) :
    openFile fs directory limit date = fs := by
  have names : (fileNames entries).length ≤ entries.length := List.length_filterMap_le ..
  have none : surplus limit (fileNames entries) = [] := by
    unfold surplus
    rw [show (fileNames entries).length - (max limit 1 - 1) = 0 by omega]
    rfl
  unfold openFile
  rw [found]
  simp only [none, List.foldl_nil, there, if_true]

end Outbox
