import Outbox.Files.Basic
import Outbox.Proofs.Results

/-!
# Files that were removed

What the removal of a file leaves of a tree: the directories, with all their entries but the one
that was removed. So the way to the file is still there, and the file is not. After the attempt to
remove a file nothing can be read there, whether it has succeeded or not (`readBytes_removeFile`).
-/

namespace Outbox

namespace Node

variable {entries : List (String × Node)} {name other : String} {node node' : Node}

/-! ### Entries -/

theorem find?_cons (e : String × Node) :
    find? (e :: entries) name = if e.1 = name then some e.2 else find? entries name := by
  unfold find?
  by_cases h : e.1 = name <;> simp [h]

theorem find?_put (entries : List (String × Node)) (name : String) (node : Node) :
    find? (put entries name node) name = some node := by
  unfold put
  split
  · next taken =>
    induction entries with
    | nil => cases taken
    | cons e es ih =>
      rw [List.map_cons, find?_cons]
      by_cases he : e.1 = name
      · simp [he]
      · have later : (es.any fun e => e.1 == name) = true := by simpa [he] using taken
        simpa [he] using ih later
  · next free =>
    have none : (entries.find? fun e => e.1 == name) = none :=
      List.find?_eq_none.mpr fun e he same => free (List.any_eq_true.mpr ⟨e, he, same⟩)
    simp [find?, List.find?_append, none]

theorem find?_put_of_ne (h : other ≠ name) :
    find? (put entries name node) other = find? entries other := by
  unfold put
  split
  · next taken =>
    clear taken
    induction entries with
    | nil => rfl
    | cons e es ih =>
      rw [List.map_cons, find?_cons, find?_cons, ih]
      by_cases he : e.1 = name
      · simp [he, h.symm]
      · simp [he]
  · simp [find?, List.find?_append, h.symm]

theorem find?_erase_self : find? (erase entries name) name = none := by
  simp [find?, erase]

theorem find?_erase_of_ne (h : other ≠ name) :
    find? (erase entries name) other = find? entries other := by
  unfold find? erase
  rw [List.find?_filter]
  congr 2
  funext e
  by_cases he : e.1 = other
  · simp [he, h]
  · simp [he]

/-! ### Removal in a tree -/

/-- The node is a directory. -/
def IsDirectory (node : Node) : Prop := ∃ entries, node = .directory entries

theorem get_cons {child : Node} (h : find? entries name = some child) (place : Place) :
    (Node.directory entries).get (name :: place) = child.get place := by
  simp only [get, h]

theorem get_cases {place : Place} (h : node.get (name :: place) = .ok node') :
    ∃ entries child, node = .directory entries ∧ find? entries name = some child ∧
      child.get place = .ok node' := by
  unfold get at h
  split at h
  · next entries =>
    split at h
    · next child hc => exact ⟨entries, child, rfl, hc, h⟩
    · cases h
  · cases h

/-- The way to a directory comes past no file. -/
theorem isDirectory_of_get {place : Place} (h : node.get place = .ok (.directory entries)) :
    node.IsDirectory := by
  cases place with
  | nil => exact ⟨entries, Except.ok.inj h⟩
  | cons name place =>
    obtain ⟨es, -, rfl, -⟩ := get_cases h
    exact ⟨es, rfl⟩

/-- What is found in a directory is the directory itself, or it is found in one of its entries. -/
theorem get_directory_cases {es : List (String × Node)} {place : Place}
    (h : (Node.directory es).get place = .ok (.directory entries)) :
    (place = [] ∧ entries = es) ∨
      ∃ name rest child, place = name :: rest ∧ find? es name = some child ∧
        child.get rest = .ok (.directory entries) := by
  cases place with
  | nil =>
    cases h
    exact .inl ⟨rfl, rfl⟩
  | cons name rest =>
    obtain ⟨ds, child, same, hc, hg⟩ := get_cases h
    cases same
    exact .inr ⟨name, rest, child, rfl, hc, hg⟩

/-- What a directory is in is a directory. -/
theorem get_dropLast {place : Place} (h : node.get place = .ok (.directory entries)) :
    ∃ es, node.get place.dropLast = .ok (.directory es) := by
  induction place generalizing node with
  | nil => exact ⟨entries, h⟩
  | cons x place ih =>
    obtain ⟨es, child, rfl, hc, hg⟩ := get_cases h
    cases place with
    | nil => exact ⟨es, rfl⟩
    | cons y place =>
      obtain ⟨ds, hd⟩ := ih hg
      exact ⟨ds, (get_cons hc _).trans hd⟩

/-- What a removal does at the first name of a place. -/
theorem remove_cases {place : Place} (h : node.remove (name :: place) = .ok node') :
    ∃ entries child, node = .directory entries ∧ find? entries name = some child ∧
      ((place = [] ∧ ¬ child.IsDirectory ∧ node' = .directory (erase entries name)) ∨
        ∃ child', child.remove place = .ok child' ∧
          node' = .directory (put entries name child')) := by
  unfold remove at h
  split at h
  · next entries =>
    split at h
    · cases h
    · cases h
    · next child dir hc =>
      injection h with h
      refine ⟨entries, child, rfl, hc, .inl ⟨rfl, ?_, h.symm⟩⟩
      rintro ⟨es, rfl⟩
      exact dir es rfl
    · next child next place hc =>
      refine ⟨entries, child, rfl, hc, .inr ?_⟩
      cases hr : child.remove (next :: place) with
      | error e =>
        rw [hr] at h
        cases h
      | ok child' =>
        rw [hr] at h
        injection h with h
        exact ⟨child', rfl, h.symm⟩
  · cases h

/-- What can be removed is no directory. -/
theorem get_of_remove {place : Place} (h : node.remove (place ++ [name]) = .ok node') :
    ∃ file, node.get (place ++ [name]) = .ok file ∧ ¬ file.IsDirectory := by
  induction place generalizing node node' with
  | nil =>
    obtain ⟨es, child, rfl, hc, ⟨-, hf, -⟩ | ⟨child', hr, -⟩⟩ := remove_cases h
    · exact ⟨child, get_cons hc [], hf⟩
    · cases hr
  | cons x place ih =>
    obtain ⟨es, child, rfl, hc, ⟨hn, -⟩ | ⟨child', hr, -⟩⟩ := remove_cases h
    · simp at hn
    · obtain ⟨file, hg, hf⟩ := ih hr
      exact ⟨file, (get_cons hc _).trans hg, hf⟩

/-- A file that is there can be removed. -/
theorem remove_of_get {place : Place} {file : Node} (h : node.get (place ++ [name]) = .ok file)
    (hf : ¬ file.IsDirectory) : ∃ node', node.remove (place ++ [name]) = .ok node' := by
  induction place generalizing node with
  | nil =>
    obtain ⟨es, child, rfl, hc, hg⟩ := get_cases h
    injection hg with hg
    subst hg
    rw [List.nil_append]
    unfold remove
    simp only [hc]
    cases child with
    | directory es => exact absurd ⟨es, rfl⟩ hf
    | file content => exact ⟨_, rfl⟩
    | database content => exact ⟨_, rfl⟩
  | cons x place ih =>
    obtain ⟨es, child, rfl, hc, hg⟩ := get_cases h
    obtain ⟨child', hr⟩ := ih hg
    obtain ⟨y, ys, hy⟩ : ∃ y ys, place ++ [name] = y :: ys := by
      cases place <;> exact ⟨_, _, rfl⟩
    rw [hy] at hr
    refine ⟨.directory (put es x child'), ?_⟩
    rw [List.cons_append, hy]
    unfold remove
    simp only [hc, hr, Except.map]

/-- Where a file was removed it is not found any more. -/
theorem get_remove_self {place : Place} (h : node.remove (place ++ [name]) = .ok node') :
    ∃ es, node'.get place = .ok (.directory es) ∧ find? es name = none := by
  induction place generalizing node node' with
  | nil =>
    obtain ⟨es, child, rfl, hc, ⟨-, -, rfl⟩ | ⟨child', hr, -⟩⟩ := remove_cases h
    · exact ⟨_, rfl, find?_erase_self⟩
    · cases hr
  | cons x place ih =>
    obtain ⟨es, child, rfl, hc, ⟨hn, -⟩ | ⟨child', hr, rfl⟩⟩ := remove_cases h
    · simp at hn
    · obtain ⟨ds, hg, hd⟩ := ih hr
      exact ⟨ds, (get_cons (find?_put ..) place).trans hg, hd⟩

/-- The other directories still have all their entries, and so has the one of the file but for the
file. -/
theorem get_remove {place : Place} (h : node.remove (place ++ [name]) = .ok node') {q : Place}
    (hq : node.get q = .ok (.directory entries)) :
    ∃ es, node'.get q = .ok (.directory es) ∧ ∀ m, q ++ [m] ≠ place ++ [name] →
      (find? es m).isSome = (find? entries m).isSome := by
  induction place generalizing node node' q with
  | nil =>
    obtain ⟨es, child, rfl, hc, ⟨-, hf, rfl⟩ | ⟨child', hr, -⟩⟩ := remove_cases h
    · rcases get_directory_cases hq with ⟨rfl, rfl⟩ | ⟨y, q, other, rfl, hy, hg⟩
      · refine ⟨_, rfl, fun m hm => ?_⟩
        rw [find?_erase_of_ne (by simpa using hm)]
      · -- the way to a directory does not come past the file
        have ne : y ≠ name := by
          rintro rfl
          obtain rfl := Option.some.inj (hc.symm.trans hy)
          exact hf (isDirectory_of_get hg)
        have kept : find? (erase es name) y = some other := (find?_erase_of_ne ne).trans hy
        exact ⟨entries, (get_cons kept q).trans hg, fun _ _ => rfl⟩
    · cases hr
  | cons x place ih =>
    obtain ⟨es, child, rfl, hc, ⟨hn, -⟩ | ⟨child', hr, rfl⟩⟩ := remove_cases h
    · simp at hn
    · rcases get_directory_cases hq with ⟨rfl, rfl⟩ | ⟨y, q, other, rfl, hy, hg⟩
      · refine ⟨_, rfl, fun m _ => ?_⟩
        by_cases hm : m = x
        · rw [hm, find?_put, hc]
          rfl
        · rw [find?_put_of_ne hm]
      · by_cases hyx : y = x
        · subst hyx
          obtain rfl := Option.some.inj (hc.symm.trans hy)
          obtain ⟨fs, hfs, same⟩ := ih hr hg
          refine ⟨fs, (get_cons (find?_put ..) q).trans hfs, fun m hm => same m ?_⟩
          simpa using hm
        · have kept : find? (put es x child') y = some other := (find?_put_of_ne hyx).trans hy
          exact ⟨entries, (get_cons kept q).trans hg, fun _ _ => rfl⟩

end Node

/-- The parts of a text are all empty only where the text is made of separators. -/
theorem Text.eq_of_splitOn_empty {c : Char} {s : List Char}
    (h : ∀ part ∈ Text.splitOn c s, part = []) : ∀ x ∈ s, x = c := by
  induction s with
  | nil => simp
  | cons y s ih =>
    unfold Text.splitOn at h
    by_cases hy : y = c
    · rw [if_pos hy] at h
      exact List.forall_mem_cons.mpr ⟨hy, ih (List.forall_mem_cons.mp h).2⟩
    · -- a part begins with a character that is no separator
      rw [if_neg hy] at h
      split at h
      · cases h _ List.mem_cons_self
      · cases h _ List.mem_cons_self

/-- A path without a name ends in a slash. -/
theorem Path.endsInSlash_of_names {p : Path} (ht : p.text ≠ "") (hn : p.names = []) :
    p.endsInSlash = true := by
  have slashes : ∀ x ∈ p.text.toList, x = '/' := by
    refine Text.eq_of_splitOn_empty fun part hp => ?_
    simpa [names] using List.filter_eq_nil_iff.mp (List.map_eq_nil_iff.mp hn) part hp
  have nonempty : p.text.toList ≠ [] := by simpa using ht
  have hs := List.dropLast_concat_getLast nonempty
  have hc := slashes _ (List.getLast_mem nonempty)
  rw [endsInSlash, String.endsWith_eq_endsWith_toSlice, String.Slice.endsWith_string_iff,
    String.copy_toSlice]
  rw [hc] at hs
  exact ⟨_, hs⟩

namespace Files

variable {fs : Files} {place target : Place} {name : String} {root : Node}

/-! ### Walking past a file that was removed -/

/-- A step leads out of a directory. -/
theorem step_cases (h : fs.step place name = .ok target) :
    ∃ entries, fs.get place = .ok (.directory entries) ∧
      (name = Path.here ∧ target = place ∨ name = Path.above ∧ target = place.dropLast ∨
        Path.isEntryName name = true ∧ name.utf8ByteSize ≤ Path.longestName ∧
          (Node.find? entries name).isSome ∧ target = place ++ [name]) := by
  unfold step at h
  split at h
  · cases h
  · next entries hg =>
    refine ⟨entries, hg, ?_⟩
    split at h
    · next here =>
      injection h with h
      exact .inl ⟨here, h.symm⟩
    · next here =>
      split at h
      · next above =>
        injection h with h
        exact .inr (.inl ⟨above, h.symm⟩)
      · next above =>
        split at h
        · cases h
        · next long =>
          split at h
          · next found =>
            injection h with h
            exact .inr (.inr ⟨by simp [Path.isEntryName, here, above], Nat.not_lt.mp long, found,
              h.symm⟩)
          · cases h
  · cases h

/-- A step to an entry finds it, and is not too long for it. -/
theorem step_entry (h : fs.step place name = .ok target) (entry : Path.isEntryName name = true) :
    target = place ++ [name] ∧ name.utf8ByteSize ≤ Path.longestName ∧
      ∃ entries, fs.get place = .ok (.directory entries) ∧ (Node.find? entries name).isSome := by
  obtain ⟨entries, hg, ⟨rfl, -⟩ | ⟨rfl, -⟩ | ⟨-, short, found, led⟩⟩ := step_cases h
  · cases entry
  · cases entry
  · exact ⟨led, short, entries, hg, found⟩

/-- A step to a directory is still there after a file was removed. -/
theorem step_remove (hr : fs.root.remove (place ++ [name]) = .ok root) {q q' : Place} {x : String}
    (h : fs.step q x = .ok q') (hd : ∃ entries, fs.get q' = .ok (.directory entries)) :
    Files.step ⟨root⟩ q x = .ok q' := by
  obtain ⟨file, hfile, hnot⟩ := Node.get_of_remove hr
  obtain ⟨entries, hg, hcases⟩ := step_cases h
  obtain ⟨es, hes, same⟩ := Node.get_remove hr hg
  have hes' : Files.get ⟨root⟩ q = .ok (.directory es) := hes
  unfold step
  rw [hes']
  rcases hcases with ⟨rfl, rfl⟩ | ⟨rfl, rfl⟩ | ⟨hx, long, found, rfl⟩
  · rfl
  · rfl
  · have other : q ++ [x] ≠ place ++ [name] := by
      intro he
      obtain ⟨ds, hd⟩ := hd
      rw [he] at hd
      obtain rfl : file = .directory ds := Except.ok.inj (hfile.symm.trans hd)
      exact hnot ⟨ds, rfl⟩
    obtain ⟨here, above⟩ : x ≠ Path.here ∧ x ≠ Path.above := by simpa [Path.isEntryName] using hx
    rw [← same x other] at found
    simp only [here, above, found, if_false, if_true, Nat.not_lt.mpr long]

theorem walk_cons (q : Place) (x : String) (names : List String) :
    fs.walk q (x :: names) = fs.step q x >>= fun r => fs.walk r names := List.foldlM_cons

theorem walk_concat (q : Place) (names : List String) (x : String) :
    fs.walk q (names ++ [x]) = fs.walk q names >>= fun r => fs.step r x := by
  unfold walk
  rw [List.foldlM_append]
  simp only [List.foldlM_cons, List.foldlM_nil, bind_pure]

/-- A walk to a directory begins in a directory. -/
theorem directory_of_walk {names : List String} {q q' : Place} (h : fs.walk q names = .ok q')
    (hd : ∃ entries, fs.get q' = .ok (.directory entries)) :
    ∃ entries, fs.get q = .ok (.directory entries) := by
  cases names with
  | nil =>
    injection h with h
    rwa [h]
  | cons x names =>
    rw [walk_cons] at h
    obtain ⟨r, hs, -⟩ := bind_eq_ok.mp h
    obtain ⟨entries, hg, -⟩ := step_cases hs
    exact ⟨entries, hg⟩

/-- So is a walk to a directory. -/
theorem walk_remove (hr : fs.root.remove (place ++ [name]) = .ok root) {names : List String}
    {q q' : Place} (h : fs.walk q names = .ok q')
    (hd : ∃ entries, fs.get q' = .ok (.directory entries)) :
    Files.walk ⟨root⟩ q names = .ok q' := by
  induction names generalizing q with
  | nil => exact h
  | cons x names ih =>
    rw [walk_cons] at h ⊢
    obtain ⟨r, hs, hw⟩ := bind_eq_ok.mp h
    exact bind_eq_ok.mpr ⟨r, step_remove hr hs (directory_of_walk hw hd), ih hw⟩

/-! ### Reading what was removed -/

theorem locate_cases {p : Path} (h : fs.locate p = .ok place) :
    p.fault? = none ∧ fs.walk p.start p.names = .ok place ∧
      (p.endsInSlash = true → ∃ entries, fs.get place = .ok (.directory entries)) := by
  unfold locate at h
  cases hf : p.fault? with
  | some e =>
    rw [hf] at h
    cases h
  | none =>
    rw [hf] at h
    obtain ⟨q, hw, h⟩ := bind_eq_ok.mp h
    obtain ⟨node, hg, h⟩ := bind_eq_ok.mp h
    split at h
    · next entries _ =>
      injection h with h
      subst h
      exact ⟨rfl, hw, fun _ => ⟨entries, hg⟩⟩
    · cases h
    · next hs =>
      injection h with h
      subst h
      exact ⟨rfl, hw, fun hs' => absurd (hs.symm.trans hs') (by decide)⟩

/-- A path that does not end in a slash leads to whatever there is. -/
theorem locate_of_walk {p : Path} {node : Node} (hf : p.fault? = none)
    (slash : p.endsInSlash = false) (hw : fs.walk p.start p.names = .ok place)
    (hg : fs.get place = .ok node) : fs.locate p = .ok place := by
  simp only [locate, hf, slash, hw, hg, bind, Except.bind, pure, Except.pure]

theorem target_eq {p : Path} {entries : List (String × Node)} (hf : p.fault? = none)
    (hw : fs.walk p.start p.names.dropLast = .ok place)
    (hd : fs.get place = .ok (.directory entries)) :
    fs.target p = .ok (place, p.names.getLast?.filter Path.isEntryName) := by
  unfold Files.target
  rw [hf, hw]
  simp only [bind, Except.bind, hd]
  rfl

theorem target_cases {p : Path} {o : Option String} (h : fs.target p = .ok (place, o)) :
    fs.walk p.start p.names.dropLast = .ok place ∧
      (∃ entries, fs.get place = .ok (.directory entries)) ∧
      o = p.names.getLast?.filter Path.isEntryName := by
  unfold Files.target at h
  cases hf : p.fault? with
  | some e =>
    rw [hf] at h
    cases h
  | none =>
    rw [hf] at h
    obtain ⟨q, hw, h⟩ := bind_eq_ok.mp h
    obtain ⟨node, hg, h⟩ := bind_eq_ok.mp h
    split at h
    · next entries =>
      injection h with h
      injection h with hq ho
      subst hq
      exact ⟨hw, ⟨entries, hg⟩, ho.symm⟩
    · cases h

/-- The names of a path that leads to an entry end in the name of the entry. -/
theorem names_of_target {p : Path} (h : p.names.getLast?.filter Path.isEntryName = some name) :
    p.names.dropLast ++ [name] = p.names ∧ Path.isEntryName name = true := by
  obtain ⟨hl, he⟩ := Option.filter_eq_some_iff.mp h
  obtain ⟨names, hn⟩ := List.getLast?_eq_some_iff.mp hl
  exact ⟨by rw [hn, List.dropLast_concat], he⟩

/-- What has a way to it is there no more after it was removed. -/
theorem readBytes_removed {p : Path} (ht : fs.target p = .ok (place, some name))
    (hr : fs.root.remove (place ++ [name]) = .ok root) :
    ∃ e, Files.readBytes ⟨root⟩ p = .error e := by
  obtain ⟨hw, hd, hn⟩ := target_cases ht
  obtain ⟨names, entry⟩ := names_of_target hn.symm
  obtain ⟨es, hes, gone⟩ := Node.get_remove_self hr
  unfold readBytes
  cases hl : Files.locate ⟨root⟩ p with
  | error e => exact ⟨e, rfl⟩
  | ok q =>
    obtain ⟨-, walk, -⟩ := locate_cases hl
    rw [← names, walk_concat, walk_remove hr hw hd] at walk
    obtain ⟨-, -, entries, hg, found⟩ := step_entry walk entry
    obtain rfl : entries = es := Node.directory.inj (Except.ok.inj (hg.symm.trans hes))
    rw [gone] at found
    cases found

theorem readAt_eq_ok {content : Text.Bytes} :
    fs.readAt place = .ok content ↔ fs.get place = .ok (.file content) := by
  unfold readAt
  split <;> simp_all

/-- What is read is the file that the path leads to. -/
theorem readBytes_eq_ok {p : Path} {content : Text.Bytes} :
    fs.readBytes p = .ok content ↔
      ∃ place, fs.locate p = .ok place ∧ fs.get place = .ok (.file content) := by
  unfold readBytes
  cases fs.locate p with
  | error e => simp
  | ok place => simp [readAt_eq_ok]

/-- A path that does not end in a slash has a last name. -/
theorem names_eq_concat {p : Path} (hf : p.fault? = none) (slash : p.endsInSlash = false) :
    ∃ names name, p.names = names ++ [name] := by
  have text : p.text ≠ "" := by
    intro ht
    simp [Path.fault?, ht] at hf
  have named : p.names ≠ [] := by
    intro none
    rw [Path.endsInSlash_of_names text none] at slash
    cases slash
  exact ⟨_, _, (List.dropLast_concat_getLast named).symm⟩

/-- A file that can be read stands in a directory. -/
theorem readBytes_cases {p : Path} {content : Text.Bytes} (h : fs.readBytes p = .ok content) :
    ∃ d n, fs.target p = .ok (d, some n) ∧ fs.step d n = .ok (d ++ [n]) ∧
      fs.get (d ++ [n]) = .ok (.file content) ∧ p.endsInSlash = false := by
  obtain ⟨place, hl, hg⟩ := readBytes_eq_ok.mp h
  obtain ⟨hf, hw, hdir⟩ := locate_cases hl
  have slash : p.endsInSlash = false := by
    refine Bool.eq_false_iff.mpr fun hs => ?_
    obtain ⟨es, he⟩ := hdir hs
    cases hg.symm.trans he
  obtain ⟨names, n, hn⟩ := names_eq_concat hf slash
  rw [hn, walk_concat] at hw
  obtain ⟨d, hwd, hs⟩ := bind_eq_ok.mp hw
  -- a dot at the end would lead to a directory
  obtain ⟨es, hd, ⟨-, rfl⟩ | ⟨-, rfl⟩ | ⟨entry, -, -, rfl⟩⟩ := step_cases hs
  · cases hg.symm.trans hd
  · obtain ⟨ds, hds⟩ := Node.get_dropLast hd
    cases hg.symm.trans hds
  · refine ⟨d, n, ?_, hs, hg, slash⟩
    rw [target_eq hf (by rwa [hn, List.dropLast_concat]) hd, hn, List.getLast?_concat,
      Option.filter_some, if_pos entry]

/-- After the attempt to remove a file there is nothing to be read. -/
theorem readBytes_removeFile (fs : Files) (p : Path) :
    ∃ e, (fs.removeFile p).2.readBytes p = .error e := by
  cases hc : fs.readBytes p with
  | ok content =>
    obtain ⟨d, n, ht, hs, hg, slash⟩ := readBytes_cases hc
    obtain ⟨root, hr⟩ := Node.remove_of_get hg (by rintro ⟨es, hes⟩; cases hes)
    obtain ⟨e, he⟩ := readBytes_removed ht hr
    have removed : fs.removeFile p = (.ok (), ⟨root⟩) := by
      unfold removeFile
      simp only [ht, hs, slash, bind, Except.bind, hg, removeAt, change, hr]
    rw [removed]
    exact ⟨e, he⟩
  | error e =>
    unfold removeFile
    split
    · exact ⟨e, hc⟩
    · exact ⟨e, hc⟩
    · next d n ht =>
      split
      · exact ⟨e, hc⟩
      · exact ⟨e, hc⟩
      · exact ⟨e, hc⟩
      · unfold removeAt change
        cases hr : fs.root.remove (d ++ [n]) with
        | error e' => exact ⟨e, hc⟩
        | ok root => exact readBytes_removed ht hr

end Files

end Outbox
