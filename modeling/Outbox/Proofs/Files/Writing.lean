import Outbox.Proofs.Files.Removal

/-!
# Files that were written

What is written to a file is read there (`readBytes_writeFile`). A file that can be read can be
written (`writeFile_readable`), and a directory that was made is no file (`readBytes_makeDirectory`).
Both leave the directories of a tree where they are, with all their names, so that every way still
leads where it has led (`Keeps.walk`, `Keeps.target`).
-/

namespace Outbox

namespace Node

variable {entries : List (String × Node)} {name : String} {node node' file : Node} {place : Place}

/-- What a writing does at the first name of a place. -/
theorem write_cases (h : node.write file (name :: place) = .ok node') :
    ∃ entries child, node = .directory entries ∧ node' = .directory (put entries name child) ∧
      ((find? entries name = none ∧ place = [] ∧ child = file) ∨
        ∃ old, find? entries name = some old ∧ old.write file place = .ok child) := by
  unfold write at h
  split at h
  · next entries =>
    split at h
    · next old hc =>
      obtain ⟨child, hw, rfl⟩ := map_eq_ok.mp h
      exact ⟨entries, child, rfl, rfl, .inr ⟨old, hc, hw⟩⟩
    · next hc =>
      injection h with h
      exact ⟨entries, file, rfl, h.symm, .inl ⟨hc, rfl, rfl⟩⟩
    · cases h
  · cases h

/-- The file that was written to a place is there. -/
theorem get_write (h : node.write file place = .ok node') : node'.get place = .ok file := by
  induction place generalizing node node' with
  | nil =>
    cases node with
    | directory entries => cases h
    | _ =>
      cases h
      rfl
  | cons name place ih =>
    obtain ⟨entries, child, -, rfl, ⟨-, rfl, rfl⟩ | ⟨old, -, hw⟩⟩ := write_cases h
    · exact get_cons (find?_put ..) []
    · exact (get_cons (find?_put ..) place).trans (ih hw)

/-- The directories are still there, with all their names. -/
theorem directory_write (h : node.write file place = .ok node') {q : Place}
    (hq : node.get q = .ok (.directory entries)) :
    ∃ es, node'.get q = .ok (.directory es) ∧
      ∀ m, (find? entries m).isSome → (find? es m).isSome := by
  induction place generalizing node node' q with
  | nil =>
    -- a directory is not written over
    obtain ⟨es, rfl⟩ := isDirectory_of_get hq
    cases h
  | cons x place ih =>
    obtain ⟨es, child, rfl, rfl, written⟩ := write_cases h
    rcases get_directory_cases hq with ⟨rfl, rfl⟩ | ⟨y, q, other, rfl, hy, hg⟩
    · refine ⟨_, rfl, fun m hm => ?_⟩
      by_cases hx : m = x
      · rw [hx, find?_put]
        rfl
      · rwa [find?_put_of_ne hx]
    · by_cases hx : y = x
      · subst hx
        obtain ⟨hn, -, -⟩ | ⟨old, hc, hw⟩ := written
        · cases hn.symm.trans hy
        · obtain rfl : old = other := Option.some.inj (hc.symm.trans hy)
          obtain ⟨ds, hds, more⟩ := ih hw hg
          exact ⟨ds, (get_cons (find?_put ..) q).trans hds, more⟩
      · have kept : find? (put es x child) y = some other := (find?_put_of_ne hx).trans hy
        exact ⟨entries, (get_cons kept q).trans hg, fun _ hm => hm⟩

/-- A file that is there can be written over. -/
theorem write_of_get {old : Node} (h : node.get place = .ok old) (hf : ¬ old.IsDirectory)
    (file : Node) : ∃ node', node.write file place = .ok node' := by
  induction place generalizing node with
  | nil =>
    cases h
    cases old with
    | directory entries => exact absurd ⟨entries, rfl⟩ hf
    | _ => exact ⟨file, rfl⟩
  | cons x place ih =>
    obtain ⟨es, child, rfl, hc, hg⟩ := get_cases h
    obtain ⟨child', hw⟩ := ih hg
    refine ⟨.directory (put es x child'), ?_⟩
    unfold write
    simp only [hc, hw, Except.map]

/-- To make a directory is to write an empty one where nothing is. -/
theorem write_of_makeDirectory (h : node.makeDirectory place = .ok node') :
    node.write (.directory []) place = .ok node' := by
  induction place generalizing node node' with
  | nil => cases h
  | cons x place ih =>
    unfold makeDirectory at h
    split at h
    · next entries =>
      unfold write
      split at h
      · cases h
      · next hc =>
        cases h
        simp only [hc]
      · next child y place hc =>
        obtain ⟨child', hm, rfl⟩ := map_eq_ok.mp h
        simp only [hc, ih hm, Except.map]
      · cases h
    · cases h

theorem get_of_makeDirectory (h : node.makeDirectory place = .ok node') :
    ∃ e, node.get place = .error e := by
  induction place generalizing node node' with
  | nil => cases h
  | cons x place ih =>
    unfold makeDirectory at h
    split at h
    · next entries =>
      split at h
      · cases h
      · next hc => exact ⟨.notFound, by simp only [get, hc]⟩
      · next child y place hc =>
        obtain ⟨child', hm, -⟩ := map_eq_ok.mp h
        obtain ⟨e, he⟩ := ih hm
        exact ⟨e, (get_cons hc _).trans he⟩
      · cases h
    · cases h

/-- What is at a place is an entry of the directory before its last name. -/
theorem get_concat (h : node.get (place ++ [name]) = .ok node') :
    ∃ entries, node.get place = .ok (.directory entries) ∧ find? entries name = some node' := by
  induction place generalizing node with
  | nil =>
    obtain ⟨entries, child, rfl, hc, hg⟩ := get_cases h
    cases hg
    exact ⟨entries, rfl, hc⟩
  | cons x place ih =>
    obtain ⟨es, child, rfl, hc, hg⟩ := get_cases h
    obtain ⟨entries, hd, hn⟩ := ih hg
    exact ⟨entries, (get_cons hc place).trans hd, hn⟩

end Node

namespace Files

variable {fs fs' : Files} {p : Path} {place q : Place} {name : String} {content : Text.Bytes}

/-! ### Ways that stay -/

/-- The directories are still there, with all their names. -/
def Keeps (fs fs' : Files) : Prop :=
  ∀ place entries, fs.get place = .ok (.directory entries) →
    ∃ es, fs'.get place = .ok (.directory es) ∧
      ∀ m, (Node.find? entries m).isSome → (Node.find? es m).isSome

theorem keeps_write {file root : Node} (h : fs.root.write file place = .ok root) :
    fs.Keeps ⟨root⟩ :=
  fun _ _ hq => Node.directory_write h hq

namespace Keeps

theorem step (kept : fs.Keeps fs') (h : fs.step place name = .ok q) :
    fs'.step place name = .ok q := by
  obtain ⟨entries, hg, hcases⟩ := step_cases h
  obtain ⟨es, hes, more⟩ := kept place entries hg
  unfold Files.step
  rw [hes]
  rcases hcases with ⟨rfl, rfl⟩ | ⟨rfl, rfl⟩ | ⟨entry, long, found, rfl⟩
  · rfl
  · rfl
  · obtain ⟨here, above⟩ : name ≠ Path.here ∧ name ≠ Path.above := by
      simpa [Path.isEntryName] using entry
    simp only [here, above, more name found, if_false, if_true, Nat.not_lt.mpr long]

theorem walk (kept : fs.Keeps fs') {names : List String} (h : fs.walk place names = .ok q) :
    fs'.walk place names = .ok q := by
  induction names generalizing place with
  | nil => exact h
  | cons x names ih =>
    rw [walk_cons] at h ⊢
    obtain ⟨r, hs, hw⟩ := bind_eq_ok.mp h
    exact bind_eq_ok.mpr ⟨r, kept.step hs, ih hw⟩

end Keeps

theorem fault?_of_target {o : Option String} (h : fs.target p = .ok (place, o)) :
    p.fault? = none := by
  unfold target at h
  cases hf : p.fault? with
  | none => rfl
  | some e =>
    rw [hf] at h
    cases h

theorem Keeps.target (kept : fs.Keeps fs') {o : Option String}
    (h : fs.target p = .ok (place, o)) : fs'.target p = .ok (place, o) := by
  obtain ⟨hw, ⟨entries, hg⟩, rfl⟩ := target_cases h
  obtain ⟨es, hes, -⟩ := kept place entries hg
  exact target_eq (fault?_of_target h) (kept.walk hw) hes

/-! ### Reading what was written -/

theorem step_of_get {node : Node} (entry : Path.isEntryName name = true)
    (short : name.utf8ByteSize ≤ Path.longestName) (h : fs.get (place ++ [name]) = .ok node) :
    fs.step place name = .ok (place ++ [name]) := by
  obtain ⟨entries, hg, hn⟩ := Node.get_concat h
  have directory : fs.get place = .ok (.directory entries) := hg
  obtain ⟨here, above⟩ : name ≠ Path.here ∧ name ≠ Path.above := by
    simpa [Path.isEntryName] using entry
  unfold step
  rw [directory]
  simp only [here, above, hn, if_false, Nat.not_lt.mpr short, Option.isSome_some, if_true]

/-- A file is read through its directory. -/
theorem readBytes_of_target (ht : fs.target p = .ok (place, some name))
    (slash : p.endsInSlash = false) (short : name.utf8ByteSize ≤ Path.longestName)
    (hg : fs.get (place ++ [name]) = .ok (.file content)) : fs.readBytes p = .ok content := by
  obtain ⟨hw, -, hn⟩ := target_cases ht
  obtain ⟨names, entry⟩ := names_of_target hn.symm
  have walked : fs.walk p.start p.names = .ok (place ++ [name]) := by
    rw [← names, walk_concat, hw]
    exact step_of_get entry short hg
  exact readBytes_eq_ok.mpr ⟨_, locate_of_walk (fault?_of_target ht) slash walked hg, hg⟩

/-- An operation on the root gives another one, or fails and leaves the files. -/
theorem change_result (fs : Files) (r : Except FileFault Node) :
    (∃ e, fs.change r = (.error e, fs)) ∨
      ∃ root, r = .ok root ∧ fs.change r = (.ok (), ⟨root⟩) := by
  cases r with
  | error e => exact .inl ⟨e, rfl⟩
  | ok root => exact .inr ⟨root, rfl, rfl⟩

/-- A file is written to the directory on the way to it, or nothing is written. -/
theorem writeFile_result (fs : Files) (p : Path) (content : Text.Bytes) :
    (∃ e, fs.writeFile p content = (.error e, fs)) ∨
      ∃ d n root, fs.target p = .ok (d, some n) ∧ p.endsInSlash = false ∧
        n.utf8ByteSize ≤ Path.longestName ∧
        fs.root.write (.file content) (d ++ [n]) = .ok root ∧
        fs.writeFile p content = (.ok (), ⟨root⟩) := by
  unfold writeFile
  split
  · exact .inl ⟨_, rfl⟩
  · exact .inl ⟨_, rfl⟩
  · next d n ht =>
    split
    · exact .inl ⟨_, rfl⟩
    · next slash =>
      split
      · exact .inl ⟨_, rfl⟩
      · next long =>
        refine (fs.change_result _).imp_right fun ⟨root, hw, changed⟩ => ?_
        exact ⟨d, n, root, ht, Bool.eq_false_iff.mpr slash, Nat.not_lt.mp long, hw, changed⟩

/-- A file that was not written leaves everything as it was. -/
theorem writeFile_error {e : FileFault} (h : fs.writeFile p content = (.error e, fs')) :
    fs' = fs := by
  rcases fs.writeFile_result p content with ⟨e', failed⟩ | ⟨d, n, root, -, -, -, -, made⟩
  · cases failed.symm.trans h
    rfl
  · cases made.symm.trans h

/-- What was written is read. -/
theorem readBytes_writeFile (h : fs.writeFile p content = (.ok (), fs')) :
    fs'.readBytes p = .ok content := by
  obtain ⟨e, failed⟩ | ⟨d, n, root, ht, slash, short, hw, made⟩ := fs.writeFile_result p content
  · cases failed.symm.trans h
  cases made.symm.trans h
  exact readBytes_of_target ((keeps_write hw).target ht) slash short (Node.get_write hw)

/-- A file that can be read can be written. -/
theorem writeFile_readable {old : Text.Bytes} (h : fs.readBytes p = .ok old)
    (content : Text.Bytes) : ∃ fs', fs.writeFile p content = (.ok (), fs') := by
  obtain ⟨d, n, ht, hs, hg, slash⟩ := readBytes_cases h
  obtain ⟨root, hw⟩ := Node.write_of_get hg (by rintro ⟨es, hes⟩; cases hes) (.file content)
  obtain ⟨-, -, hn⟩ := target_cases ht
  obtain ⟨-, entry⟩ := names_of_target hn.symm
  have short : ¬ Path.longestName < n.utf8ByteSize := Nat.not_lt.mpr (step_entry hs entry).2.1
  refine ⟨⟨root⟩, ?_⟩
  simp only [writeFile, ht, slash, short, writeAt, change, hw, if_false, Bool.false_eq_true]

theorem readBytes_of_writeFile_error {e : FileFault}
    (h : fs.writeFile p content = (.error e, fs')) : ∃ e, fs.readBytes p = .error e := by
  cases hc : fs.readBytes p with
  | error e => exact ⟨e, rfl⟩
  | ok old =>
    obtain ⟨_, written⟩ := writeFile_readable hc content
    cases written.symm.trans h

/-! ### Directories -/

theorem isDirectory_iff : fs.isDirectory p = true ↔
    ∃ place entries, fs.locate p = .ok place ∧ fs.get place = .ok (.directory entries) := by
  unfold isDirectory
  constructor
  · intro h
    split at h
    · next entries there =>
      obtain ⟨place, hl, hg⟩ := bind_eq_ok.mp there
      exact ⟨place, entries, hl, hg⟩
    · cases h
  · rintro ⟨place, entries, hl, hg⟩
    rw [bind_eq_ok.mpr ⟨place, hl, hg⟩]

/-- A directory is no file. -/
theorem readBytes_isDirectory (h : fs.isDirectory p = true) :
    ∃ e, fs.readBytes p = .error e := by
  obtain ⟨place, entries, hl, hg⟩ := isDirectory_iff.mp h
  exact ⟨.isADirectory, by simp only [readBytes, hl, readAt, hg]⟩

/-- A directory is made in the directory on the way to it, or nothing is made. -/
theorem makeDirectory_result (fs : Files) (p : Path) :
    (∃ e, fs.makeDirectory p = (.error e, fs)) ∨
      ∃ d n root, fs.target p = .ok (d, some n) ∧ fs.root.makeDirectory (d ++ [n]) = .ok root ∧
        fs.makeDirectory p = (.ok (), ⟨root⟩) := by
  unfold makeDirectory
  split
  · exact .inl ⟨_, rfl⟩
  · exact .inl ⟨_, rfl⟩
  · next d n ht =>
    split
    · exact .inl ⟨_, rfl⟩
    · exact (fs.change_result _).imp_right fun ⟨root, hm, changed⟩ => ⟨d, n, root, ht, hm, changed⟩

theorem makeDirectory_error {e : FileFault} (h : fs.makeDirectory p = (.error e, fs')) :
    fs' = fs := by
  rcases fs.makeDirectory_result p with ⟨e', failed⟩ | ⟨d, n, root, -, -, made⟩
  · cases failed.symm.trans h
    rfl
  · cases made.symm.trans h

/-- Where a directory was made there is no file. -/
theorem readBytes_makeDirectory (h : fs.makeDirectory p = (.ok (), fs')) :
    ∃ e, fs'.readBytes p = .error e := by
  obtain ⟨e, failed⟩ | ⟨d, n, root, ht, hm, made⟩ := fs.makeDirectory_result p
  · cases failed.symm.trans h
  cases made.symm.trans h
  have hw := Node.write_of_makeDirectory hm
  cases hc : readBytes ⟨root⟩ p with
  | error e => exact ⟨e, rfl⟩
  | ok content =>
    obtain ⟨d', n', ht', -, hg, -⟩ := readBytes_cases hc
    cases ((keeps_write hw).target ht).symm.trans ht'
    cases (Node.get_write hw).symm.trans hg

/-- A directory that is there is not made again. -/
theorem makeDirectory_of_isDirectory (h : fs.isDirectory p = true) :
    ∃ e, fs.makeDirectory p = (.error e, fs) := by
  rcases fs.makeDirectory_result p with failed | ⟨d, n, root, ht, hm, -⟩
  · exact failed
  · -- the place of the new directory would have to be free
    obtain ⟨place, entries, hl, hg⟩ := isDirectory_iff.mp h
    obtain ⟨-, walked, -⟩ := locate_cases hl
    obtain ⟨hw, -, hn⟩ := target_cases ht
    obtain ⟨names, entry⟩ := names_of_target hn.symm
    rw [← names, walk_concat, hw] at walked
    obtain ⟨e, free⟩ := Node.get_of_makeDirectory hm
    obtain ⟨rfl, -⟩ := step_entry walked entry
    cases hg.symm.trans free

theorem ensureDirectory_cases (h : fs.ensureDirectory p = (.ok (), fs')) :
    fs.makeDirectory p = (.ok (), fs') ∨ fs' = fs ∧ fs.isDirectory p = true := by
  unfold ensureDirectory at h
  split at h
  · next made =>
    cases h
    exact .inl made
  · next failed =>
    split at h
    · next there =>
      cases h
      obtain rfl := makeDirectory_error failed
      exact .inr ⟨rfl, there⟩
    · cases h

theorem ensureDirectory_error {e : FileFault} (h : fs.ensureDirectory p = (.error e, fs')) :
    fs' = fs ∧ fs.isDirectory p = false := by
  unfold ensureDirectory at h
  split at h
  · cases h
  · next failed =>
    split at h
    · cases h
    · next missing =>
      cases h
      obtain rfl := makeDirectory_error failed
      exact ⟨rfl, Bool.eq_false_iff.mpr missing⟩

theorem readBytes_ensureDirectory (h : fs.ensureDirectory p = (.ok (), fs')) :
    ∃ e, fs'.readBytes p = .error e := by
  obtain made | ⟨rfl, there⟩ := ensureDirectory_cases h
  · exact readBytes_makeDirectory made
  · exact readBytes_isDirectory there

theorem makeChain_cases {parents : List Path} (h : fs.makeChain p parents = (.ok (), fs')) :
    (p.text = "" ∧ fs' = fs) ∨ ∃ before : Files, before.ensureDirectory p = (.ok (), fs') := by
  cases parents with
  | nil =>
    rw [makeChain] at h
    split at h
    · next none =>
      cases h
      exact .inl ⟨none, rfl⟩
    · exact .inr ⟨fs, h⟩
  | cons parent parents =>
    rw [makeChain] at h
    split at h
    · next before _ =>
      split at h
      · next before _ => exact .inr ⟨before, h⟩
      · next failed => exact absurd h (failed fs')
    · exact .inr ⟨fs, h⟩

/-- Where a directory was made, with those on the way to it, there is no file. -/
theorem readBytes_makeDirectories (h : fs.makeDirectories p = (.ok (), fs')) :
    ∃ e, fs'.readBytes p = .error e := by
  obtain ⟨none, rfl⟩ | ⟨before, made⟩ := makeChain_cases h
  · have fault : p.fault? = some .notFound := by simp [Path.fault?, none]
    exact ⟨.notFound, by simp only [readBytes, locate, fault]; rfl⟩
  · exact readBytes_ensureDirectory made

end Files

end Outbox
