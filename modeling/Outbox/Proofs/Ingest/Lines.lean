import Mathlib.Data.List.DropRight
import Outbox.Ingest.Lines

/-!
# The lines of a source

A line ends at a line feed, with or without a carriage return before it, or with the bytes
(`Lined`). That is how `byteLines` reads them (`lined_iff`), and if reading fails, the bytes after
the last line feed are no line (`Source.lined_iff`).
-/

namespace Outbox

/-- The byte that ends a line. -/
abbrev lineFeed : UInt8 := 10

/-- The byte that belongs to the end of a line if it stands before a line feed. -/
abbrev carriageReturn : UInt8 := 13

/-- These are the lines of the bytes. -/
inductive Lined : Text.Bytes → List Text.Bytes → Prop
  | nil : Lined [] []
  /-- The last line may end without a line feed, and then keeps what it has. -/
  | last {line : Text.Bytes} (some : line ≠ []) (h : lineFeed ∉ line) : Lined line [line]
  | feed {line rest : Text.Bytes} {lines : List Text.Bytes} (h : lineFeed ∉ line)
      (bare : line.getLast? ≠ some carriageReturn) (hr : Lined rest lines) :
      Lined (line ++ lineFeed :: rest) (line :: lines)
  | returnFeed {line rest : Text.Bytes} {lines : List Text.Bytes} (h : lineFeed ∉ line)
      (hr : Lined rest lines) :
      Lined (line ++ carriageReturn :: lineFeed :: rest) (line :: lines)

theorem byteLines_eq {bs : Text.Bytes} (some : bs ≠ []) :
    byteLines bs =
      (if (bs.takeWhile (· != lineFeed)).getLast? = .some carriageReturn ∧
          (bs.takeWhile (· != lineFeed)).length < bs.length then
        (bs.takeWhile (· != lineFeed)).dropLast else bs.takeWhile (· != lineFeed)) ::
      byteLines ((bs.drop (bs.takeWhile (· != lineFeed)).length).drop 1) := by
  cases bs with
  | nil => exact absurd rfl some
  | cons b rest =>
    rw [byteLines]
    simp only [List.length_cons, Nat.lt_succ_iff]

theorem takeWhile_line {line : Text.Bytes} (h : lineFeed ∉ line) (rest : Text.Bytes) :
    (line ++ lineFeed :: rest).takeWhile (· != lineFeed) = line := by
  rw [List.takeWhile_append_of_pos, List.takeWhile_cons_of_neg, List.append_nil]
  · simp
  · intro b hb
    simpa using fun eq : b = lineFeed => h (eq ▸ hb)

theorem byteLines_feed {line : Text.Bytes} (h : lineFeed ∉ line) (rest : Text.Bytes) :
    byteLines (line ++ lineFeed :: rest) =
      (if line.getLast? = some carriageReturn then line.dropLast else line) :: byteLines rest := by
  rw [byteLines_eq (by simp), takeWhile_line h, List.drop_left]
  simp

theorem byteLines_last {line : Text.Bytes} (some : line ≠ []) (h : lineFeed ∉ line) :
    byteLines line = [line] := by
  have whole : line.takeWhile (· != lineFeed) = line := by
    rw [List.takeWhile_eq_self_iff]
    intro b hb
    simpa using fun eq : b = lineFeed => h (eq ▸ hb)
  rw [byteLines_eq some, whole]
  simp [byteLines]

theorem lined_byteLines (bs : Text.Bytes) : Lined bs (byteLines bs) := by
  by_cases hf : lineFeed ∈ bs
  · obtain ⟨line, rest, rfl, h⟩ := List.eq_append_cons_of_mem hf
    rw [byteLines_feed h]
    by_cases hr : line.getLast? = some carriageReturn
    · rw [if_pos hr]
      obtain ⟨line, rfl⟩ := List.getLast?_eq_some_iff.mp hr
      rw [List.dropLast_concat, List.append_assoc]
      exact .returnFeed (fun hl => h (List.mem_append_left _ hl)) (lined_byteLines rest)
    · rw [if_neg hr]
      exact .feed h hr (lined_byteLines rest)
  · by_cases hn : bs = []
    · rw [hn, byteLines]
      exact .nil
    · rw [byteLines_last hn hf]
      exact .last hn hf
  termination_by bs.length

theorem lined_iff {bs : Text.Bytes} {lines : List Text.Bytes} :
    Lined bs lines ↔ byteLines bs = lines := by
  constructor
  · intro h
    induction h with
    | nil => rw [byteLines]
    | last some h => exact byteLines_last some h
    | feed h bare _ ih => rw [byteLines_feed h, if_neg bare, ih]
    | @returnFeed line rest lines h _ ih =>
      have split : line ++ carriageReturn :: lineFeed :: rest =
          (line ++ [carriageReturn]) ++ lineFeed :: rest := by simp
      have h' : lineFeed ∉ line ++ [carriageReturn] := by
        simpa using ⟨h, show lineFeed ≠ carriageReturn by decide⟩
      rw [split, byteLines_feed h', ih]
      simp
  · rintro rfl
    exact lined_byteLines bs

/-! ### Sources -/

/-- These are the lines of the source: those of all its bytes or, if reading fails, of the bytes up
to the last line feed. -/
def Source.Lined (s : Source) (lines : List Text.Bytes) : Prop :=
  match s.fault with
  | none => Outbox.Lined s.content lines
  | some _ => ∃ whole rest, s.content = whole ++ rest ∧
      (whole = [] ∨ whole.getLast? = some lineFeed) ∧ lineFeed ∉ rest ∧ Outbox.Lined whole lines

/-- The bytes up to the last line feed are those in front of bytes without one. -/
theorem wholeLines_eq_iff {bs whole : Text.Bytes} :
    wholeLines bs = whole ↔ ∃ rest, bs = whole ++ rest ∧
      (whole = [] ∨ whole.getLast? = some lineFeed) ∧ lineFeed ∉ rest := by
  constructor
  · rintro rfl
    refine ⟨bs.rtakeWhile (· != lineFeed), List.rdropWhile_append_rtakeWhile.symm, ?_, ?_⟩
    · by_cases none : bs.rdropWhile (· != lineFeed) = []
      · exact .inl none
      · have last := List.rdropWhile_last_not (· != lineFeed) bs none
        refine .inr ?_
        rw [← show bs.rdropWhile (· != lineFeed) = wholeLines bs from rfl,
          List.getLast?_eq_some_getLast none]
        simpa using last
    · exact fun h => by simpa using List.mem_rtakeWhile_imp h
  · rintro ⟨rest, rfl, ended, h⟩
    have partly : ∀ b ∈ rest.reverse, (b != lineFeed) = true := by
      intro b hb
      simpa using fun eq : b = lineFeed => h (eq ▸ List.mem_reverse.mp hb)
    rw [wholeLines, List.reverse_append, List.dropWhile_append_of_pos partly]
    rcases ended with rfl | ended
    · rfl
    · obtain ⟨before, rfl⟩ := List.getLast?_eq_some_iff.mp ended
      simp

theorem Source.lined_iff {s : Source} {lines : List Text.Bytes} :
    s.Lined lines ↔ s.lines = lines := by
  unfold Source.Lined Source.lines
  cases s.fault with
  | none => exact Outbox.lined_iff
  | some fault =>
    constructor
    · rintro ⟨whole, rest, split, ended, partly, lined⟩
      rw [if_pos Option.isSome_some, wholeLines_eq_iff.mpr ⟨rest, split, ended, partly⟩]
      exact Outbox.lined_iff.mp lined
    · intro h
      rw [if_pos Option.isSome_some] at h
      obtain ⟨rest, split, ended, partly⟩ := wholeLines_eq_iff.mp (Eq.refl (wholeLines s.content))
      exact ⟨_, rest, split, ended, partly, Outbox.lined_iff.mpr h⟩

/-! ### Texts -/

/-- The text has nothing but white space. -/
def Text.Blank (text : String) : Prop := ∀ c ∈ text.toList, Text.isBlank c = true

-- The elements are tried, and not all characters that there are.
instance (text : String) : Decidable (Text.Blank text) :=
  List.decidableBAll (fun c => Text.isBlank c = true) text.toList

theorem Text.isBlankText_iff {text : String} : Text.isBlankText text = true ↔ Text.Blank text := by
  unfold Text.isBlankText Text.trimChars Text.Blank
  rw [List.isEmpty_iff, List.reverse_eq_nil_iff, List.dropWhile_eq_nil_iff]
  constructor
  · intro h
    by_contra some
    rw [← List.dropWhile_eq_nil_iff] at some
    have first := List.head_dropWhile_not Text.isBlank some
    rw [h _ (List.mem_reverse.mpr (List.head_mem some))] at first
    cases first
  · exact fun h c hc => h c ((List.dropWhile_sublist _).subset (List.mem_reverse.mp hc))

end Outbox
