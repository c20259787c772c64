import Mathlib.Data.String.Basic
import Outbox.Proofs.Files.Finding
import Outbox.Proofs.Files.Writing
import Outbox.Proofs.Text.Splitting

/-!
# The directories on the way to a file

A path is cut after each of its names to make the directories on the way. The cut path has the names
before the cut (`names_upTo`), and it is accepted where the whole one is (`fault?_upTo`). So all the
directories on the way to a file that can be read are there (`isDirectory_upTo`), and there is
nothing to make (`makeParents_readable`). Where they could not be made, no file can be read
(`readBytes_makeParents`).
-/

namespace Outbox

namespace Path

variable {p : Path} {n : Nat} {base : Place} {parts : List String} {name : String}

theorem of_mem_names (h : name ∈ p.names) : name ≠ "" ∧ '/' ∉ name.toList := by
  obtain ⟨part, hp, rfl⟩ := List.mem_map.mp h
  obtain ⟨hp, some⟩ := List.mem_filter.mp hp
  rw [String.toList_ofList]
  exact ⟨by simpa [← String.toList_inj] using some, Text.not_mem_of_mem_splitOn hp⟩

/-- Names with slashes between them, from the root or not. -/
def joined (rooted : Bool) (parts : List String) : String :=
  (if rooted = true then "/" else "") ++ "/".intercalate parts

theorem toList_joined (rooted : Bool) (parts : List String) : (joined rooted parts).toList =
    (if rooted = true then ['/'] else []) ++ ['/'].intercalate (parts.map String.toList) := by
  unfold joined
  rw [String.toList_append, String.toList_intercalate]
  cases rooted <;> rfl

section

variable (good : ∀ x ∈ parts, x ≠ "" ∧ '/' ∉ x.toList) (rooted : Bool)
include good

theorem splitOn_parts (some : parts ≠ []) :
    Text.splitOn '/' (['/'].intercalate (parts.map String.toList)) = parts.map String.toList := by
  refine Text.splitOn_intercalate (fun part hp => ?_) (by simpa using some)
  obtain ⟨x, hx, rfl⟩ := List.mem_map.mp hp
  exact (good x hx).2

theorem names_joined : names ⟨base, joined rooted parts⟩ = parts := by
  have kept : (parts.map String.toList).filter (· ≠ []) = parts.map String.toList := by
    refine List.filter_eq_self.mpr fun part hp => ?_
    obtain ⟨x, hx, rfl⟩ := List.mem_map.mp hp
    exact decide_eq_true (mt String.toList_eq_nil_iff.mp (good x hx).1)
  have back : (parts.map String.toList).map String.ofList = parts := by simp
  unfold names
  simp only [toList_joined]
  by_cases none : parts = []
  · subst none
    cases rooted <;> simp [Text.splitOn]
  · cases rooted with
    | false =>
      simp only [Bool.false_eq_true, if_false, List.nil_append]
      rw [splitOn_parts good none, kept, back]
    | true =>
      simp only [if_true, List.singleton_append, Text.splitOn]
      rw [List.filter_cons_of_neg (by simp), splitOn_parts good none, kept, back]

theorem isAbsolute_joined : isAbsolute ⟨base, joined rooted parts⟩ = rooted := by
  rw [isAbsolute, Bool.eq_iff_iff, String.startsWith_string_iff, toList_joined]
  cases rooted with
  | true => simp
  | false =>
    cases parts with
    | nil => decide
    | cons first rest =>
      obtain ⟨some, clean⟩ := good first List.mem_cons_self
      obtain ⟨c, cs, hc⟩ := List.exists_cons_of_ne_nil (mt String.toList_eq_nil_iff.mp some)
      have other : '/' ≠ c := by
        rintro rfl
        exact clean (hc ▸ List.mem_cons_self)
      cases rest <;> simp [hc, List.intercalate_cons_cons, other]

end

/-! ### A path that is cut -/

/-- The names that lead on. -/
def steps (p : Path) : List String := p.names.filter (· ≠ here)

/-- The path before a cut. -/
def upTo (p : Path) (n : Nat) : Path :=
  { p with text := joined p.isAbsolute (p.steps.take n) }

theorem ancestors_eq (p : Path) : p.ancestors = (List.range p.steps.length).reverse.map p.upTo := rfl

theorem of_mem_steps (h : name ∈ p.steps.take n) : name ≠ "" ∧ '/' ∉ name.toList :=
  of_mem_names (List.mem_filter.mp (List.mem_of_mem_take h)).1

theorem names_upTo (p : Path) (n : Nat) : (p.upTo n).names = p.steps.take n :=
  names_joined (fun _ => of_mem_steps) _

theorem start_upTo (p : Path) (n : Nat) : (p.upTo n).start = p.start := by
  have rooted : (p.upTo n).isAbsolute = p.isAbsolute := isAbsolute_joined (fun _ => of_mem_steps) _
  unfold start
  rw [rooted]
  rfl

/-- A path that is cut has no other characters than before. -/
theorem upTo_sublist (p : Path) (n : Nat) : (p.upTo n).text.toList.Sublist p.text.toList := by
  have fewer : ((p.steps.take n).map String.toList).Sublist
      ((Text.splitOn '/' p.text.toList).filter (· ≠ [])) := by
    have sub := ((List.take_sublist n p.steps).trans List.filter_sublist).map String.toList
    simpa [names, Function.comp_def] using sub
  have whole := Text.intercalate_splitOn '/' p.text.toList
  show (joined p.isAbsolute (p.steps.take n)).toList.Sublist _
  rw [toList_joined]
  cases rooted : p.isAbsolute with
  | false =>
    rw [← whole]
    exact Text.intercalate_sublist (fewer.trans List.filter_sublist)
  | true =>
    obtain ⟨rest, hr⟩ : ['/'] <+: p.text.toList := String.startsWith_string_iff.mp rooted
    rw [← hr] at fewer ⊢
    simp only [List.singleton_append, Text.splitOn, if_true] at fewer ⊢
    rw [List.filter_cons_of_neg (by simp)] at fewer
    have := Text.intercalate_sublist (s := ['/']) (fewer.trans List.filter_sublist)
    rw [Text.intercalate_splitOn] at this
    exact this.cons_cons '/'

theorem fault?_upTo (h : p.fault? = none) (some : (p.upTo n).text ≠ "") :
    (p.upTo n).fault? = none := by
  have sub := upTo_sublist p n
  have short : (p.upTo n).text.utf8ByteSize ≤ p.text.utf8ByteSize := by
    have := String.utf8Len_le_of_sublist sub
    rwa [← String.utf8ByteSize_ofList, ← String.utf8ByteSize_ofList, String.ofList_toList,
      String.ofList_toList] at this
  obtain ⟨clean, -, fits⟩ := fault?_eq_none_iff.mp h
  exact fault?_eq_none_iff.mpr ⟨fun bad => clean (sub.subset bad), some, short.trans fits⟩

/-- Only a path without names is empty. -/
theorem upTo_text_ne (h : n < p.steps.length) (pos : 0 < n) : (p.upTo n).text ≠ "" := by
  intro none
  have names := names_upTo p n
  rw [Path.names, none] at names
  have short : (p.steps.take n).length = 0 := by rw [← names]; rfl
  rw [List.length_take] at short
  omega

end Path

namespace Files

variable {fs fs' : Files} {p : Path} {n : Nat} {place q : Place} {names : List String}
  {content : Text.Bytes}

/-! ### The directories on the way -/

theorem walk_append (q : Place) (names more : List String) :
    fs.walk q (names ++ more) = fs.walk q names >>= fun r => fs.walk r more := List.foldlM_append

/-- A walk leads to the same place without the names that stay where they are. -/
theorem walk_steps (h : fs.walk q names = .ok place) :
    fs.walk q (names.filter (· ≠ Path.here)) = .ok place := by
  induction names generalizing q with
  | nil => exact h
  | cons x names ih =>
    rw [walk_cons] at h
    obtain ⟨r, hs, hw⟩ := bind_eq_ok.mp h
    by_cases here : x = Path.here
    · subst here
      obtain ⟨-, -, ⟨-, rfl⟩ | ⟨above, -⟩ | ⟨entry, -⟩⟩ := step_cases hs
      · rw [List.filter_cons_of_neg (by simp)]
        exact ih hw
      · exact absurd above (by decide)
      · cases entry
    · rw [List.filter_cons_of_pos (by simpa using here), walk_cons]
      exact bind_eq_ok.mpr ⟨r, hs, ih hw⟩

theorem locate_directory {entries : List (String × Node)} (hf : p.fault? = none)
    (hw : fs.walk p.start p.names = .ok place) (hd : fs.get place = .ok (.directory entries)) :
    fs.locate p = .ok place := by
  simp only [locate, hf, hw, hd, bind, Except.bind, pure, Except.pure]
  cases p.endsInSlash <;> rfl

/-- On the way to a file that can be read there are directories. -/
theorem isDirectory_upTo (h : fs.readBytes p = .ok content) (hn : n < p.steps.length)
    (some : (p.upTo n).text ≠ "") : fs.isDirectory (p.upTo n) = true := by
  obtain ⟨place, hl, -⟩ := readBytes_eq_ok.mp h
  obtain ⟨fault, walked, -⟩ := locate_cases hl
  have led := walk_steps walked
  have rest : p.steps.drop n = p.steps[n] :: p.steps.drop (n + 1) := List.drop_eq_getElem_cons hn
  rw [← Path.steps, ← List.take_append_drop n p.steps, walk_append, rest] at led
  obtain ⟨r, before, after⟩ := bind_eq_ok.mp led
  rw [walk_cons] at after
  obtain ⟨_, hs, _⟩ := bind_eq_ok.mp after
  obtain ⟨entries, hg, -⟩ := step_cases hs
  rw [← Path.start_upTo p n, ← Path.names_upTo] at before
  exact isDirectory_iff.mpr
    ⟨r, entries, locate_directory (Path.fault?_upTo fault some) before hg, hg⟩

/-- On the way to a file that can be read there is nothing to make. -/
theorem makeParents_readable (h : fs.readBytes p = .ok content) :
    fs.makeParents p = (.ok (), fs) := by
  rw [makeParents, Path.ancestors_eq]
  cases hk : p.steps.length with
  | zero => rfl
  | succ k =>
    rw [List.range_succ, List.reverse_append]
    simp only [List.reverse_singleton, List.singleton_append, List.map_cons]
    by_cases none : (p.upTo k).text = ""
    · obtain rfl : k = 0 := by
        by_contra pos
        exact Path.upTo_text_ne (by omega) (Nat.pos_of_ne_zero pos) none
      exact if_pos none
    · have there := isDirectory_upTo h (by omega) none
      obtain ⟨e, made⟩ := makeDirectory_of_isDirectory there
      exact makeChain_there made there _

/-- Where directories could not be made, one of them is missing. -/
theorem makeChain_error {parents : List Path} {e : FileFault}
    (named : ∀ q ∈ (p :: parents).dropLast, q.text ≠ "")
    (h : fs.makeChain p parents = (.error e, fs')) :
    ∃ q ∈ p :: parents, q.text ≠ "" ∧ fs'.isDirectory q = false := by
  induction parents generalizing p fs fs' with
  | nil =>
    rw [makeChain] at h
    split at h
    · cases h
    · next some =>
      obtain ⟨rfl, missing⟩ := ensureDirectory_error h
      exact ⟨p, List.mem_cons_self, some, missing⟩
  | cons parent parents ih =>
    obtain ⟨some, named⟩ := List.forall_mem_cons.mp named
    rw [makeChain] at h
    split at h
    · split at h
      · obtain ⟨rfl, missing⟩ := ensureDirectory_error h
        exact ⟨p, List.mem_cons_self, some, missing⟩
      · obtain ⟨q, hq, found⟩ := ih named h
        exact ⟨q, List.mem_cons_of_mem p hq, found⟩
    · obtain ⟨rfl, missing⟩ := ensureDirectory_error h
      exact ⟨p, List.mem_cons_self, some, missing⟩

/-- Where the directories on the way could not be made, there is no file. -/
theorem readBytes_makeParents {e : FileFault} (h : fs.makeParents p = (.error e, fs')) :
    ∃ e, fs'.readBytes p = .error e := by
  cases hc : fs'.readBytes p with
  | error e => exact ⟨e, rfl⟩
  | ok content =>
    unfold makeParents at h
    split at h
    · cases h
    · next parent parents ha =>
      have named : ∀ q ∈ p.ancestors.dropLast, q.text ≠ "" := by
        rw [Path.ancestors_eq]
        cases hk : p.steps.length with
        | zero => simp
        | succ k =>
          rw [List.range_succ_eq_map, List.reverse_cons, List.map_append, List.map_singleton,
            List.dropLast_concat]
          intro q hq
          obtain ⟨m, hm, rfl⟩ := List.mem_map.mp hq
          obtain ⟨j, hj, rfl⟩ := List.mem_map.mp (List.mem_reverse.mp hm)
          have := List.mem_range.mp hj
          exact Path.upTo_text_ne (by omega) (by omega)
      rw [ha] at named
      obtain ⟨q, hq, some, missing⟩ := makeChain_error named h
      rw [← ha, Path.ancestors_eq] at hq
      obtain ⟨m, hm, rfl⟩ := List.mem_map.mp hq
      have hm := List.mem_range.mp (List.mem_reverse.mp hm)
      cases missing.symm.trans (isDirectory_upTo hc hm some)

/-! ### Files with the directories on the way to them -/

/-- Writes a file, together with the directories on the way to it. -/
def writeWithParents (fs : Files) (p : Path) (content : Text.Bytes) :
    Except FileFault Unit × Files :=
  match fs.makeParents p with
  | (.error e, fs) => (.error e, fs)
  | (.ok (), fs) => fs.writeFile p content

theorem readBytes_writeWithParents (h : fs.writeWithParents p content = (.ok (), fs')) :
    fs'.readBytes p = .ok content := by
  unfold writeWithParents at h
  split at h
  · cases h
  · exact readBytes_writeFile h

/-- Where a file could not be written there was none before, and there is none. -/
theorem writeWithParents_error {e : FileFault}
    (h : fs.writeWithParents p content = (.error e, fs')) :
    (∃ e, fs.readBytes p = .error e) ∧ ∃ e, fs'.readBytes p = .error e := by
  constructor
  · cases hc : fs.readBytes p with
    | error e => exact ⟨e, rfl⟩
    | ok old =>
      -- then there is nothing to make, and the file can be written
      rw [writeWithParents, makeParents_readable hc] at h
      obtain ⟨_, missing⟩ := readBytes_of_writeFile_error h
      cases hc.symm.trans missing
  · unfold writeWithParents at h
    split at h
    · next failed =>
      cases h
      exact readBytes_makeParents failed
    · obtain rfl := writeFile_error h
      exact readBytes_of_writeFile_error h

end Files

end Outbox
