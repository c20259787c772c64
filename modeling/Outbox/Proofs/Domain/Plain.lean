import Mathlib.Data.List.Induction
import Outbox.Domain.Basic
import Outbox.Proofs.Text.Splitting

/-!
# Plain characters in names

A plain character at the end of a text is not joined with what stands before it, so that it is still
there when the text is composed (`composedForm_concat`). In the written form of a name no plain
character is lost either, unless it is a point or a capital letter (`mem_written`).
-/

namespace Outbox

/-! ### Composing -/

namespace Text

variable {c : Char}

theorem combiningClass_plain (plain : c.toNat < 0x80) : combiningClass c = 0 :=
  if_pos (Nat.lt_trans plain (by decide))

theorem composed?_plain (plain : c.toNat < 0x80) (first : Char) : composed? first c = none :=
  if_pos (Nat.lt_trans plain (by decide))

theorem decomposeChar_plain (plain : c.toNat < 0x80) (n : Nat) : decomposeChar n c = [c] := by
  cases n with
  | zero => rfl
  | succ n =>
    have single : pairOf? c = none := if_pos (Nat.lt_trans plain (by decide))
    rw [decomposeChar, single]

/-- Nothing that stands before a plain character comes after it. -/
theorem orderMarks_concat (plain : c.toNat < 0x80) (marks s : List Char) :
    orderMarks marks (s ++ [c]) = orderMarks marks s ++ [c] := by
  induction s generalizing marks with
  | nil => simp only [List.nil_append, orderMarks, if_pos (combiningClass_plain plain)]
  | cons d s ih =>
    rw [List.cons_append, orderMarks, orderMarks]
    by_cases starts : combiningClass d = 0
    · rw [if_pos starts, if_pos starts, ih, List.append_assoc, List.cons_append]
    · rw [if_neg starts, if_neg starts, ih]

theorem composeAfter_concat (plain : c.toNat < 0x80) (first : Char) (between s : List Char) :
    composeAfter first between (s ++ [c]) = composeAfter first between s ++ [c] := by
  induction s generalizing first between with
  | nil =>
    simp only [List.nil_append, composeAfter, composed?_plain plain, ite_self,
      if_pos (combiningClass_plain plain), List.reverse_nil, List.cons_append]
  | cons d s ih =>
    simp only [List.cons_append, composeAfter]
    split
    · next composed joined => exact ih composed between
    · next joined =>
      by_cases starts : combiningClass d = 0
      · simp only [if_pos starts, ih, List.cons_append, List.append_assoc]
      · simp only [if_neg starts, ih]

theorem composeGroups_concat (plain : c.toNat < 0x80) (s : List Char) :
    composeGroups (s ++ [c]) = composeGroups s ++ [c] := by
  induction s with
  | nil =>
    simp only [List.nil_append, composeGroups, if_pos (combiningClass_plain plain), composeAfter,
      List.reverse_nil]
  | cons d s ih =>
    rw [List.cons_append, composeGroups, composeGroups]
    by_cases starts : combiningClass d = 0
    · rw [if_pos starts, if_pos starts, composeAfter_concat plain]
    · rw [if_neg starts, if_neg starts, ih, List.cons_append]

/-- A plain character at the end of a text stays there in the composed form. -/
theorem composedForm_concat (plain : c.toNat < 0x80) (s : List Char) :
    composedForm (s ++ [c]) = composedForm s ++ [c] := by
  have single : [c].flatMap (decomposeChar 4) = [c] := by
    rw [List.flatMap_singleton, decomposeChar_plain plain]
  rw [composedForm, List.flatMap_append, single, orderMarks_concat plain,
    composeGroups_concat plain, composedForm]

theorem composedForm_plain {s : List Char} (plain : ∀ c ∈ s, c.toNat < 0x80) :
    composedForm s = s := by
  induction s using List.reverseRecOn with
  | nil => rfl
  | append_singleton s c ih =>
    have rest := ih fun d hd => plain d (List.mem_append_left _ hd)
    rw [composedForm_concat (plain c (by simp)), rest]

end Text

/-! ### Names -/

namespace Domain

variable {c : Char} {s name : List Char} {l : Label}

theorem mem_encode (plain : c.toNat < 0x80) (h : c ∈ s) : c ∈ Punycode.encode s := by
  have kept : c ∈ s.filter fun c => decide (c.toNat < 0x80) :=
    List.mem_filter.mpr ⟨h, decide_eq_true plain⟩
  exact List.mem_append_left _ (List.mem_append_left _ kept)

theorem Label.written_ofCode {code : List Char} (h : Label.ofCode? code = some l) :
    l.written = mark ++ code := by
  unfold ofCode? at h
  split at h
  · cases h
  · obtain ⟨text, -, h⟩ := Option.bind_eq_some_iff.mp h
    split at h
    · cases h
      rfl
    · cases h

/-- The written form of a label has its plain characters. -/
theorem Label.mem_written (plain : c.toNat < 0x80) (h : Label.ofText? s = some l) (hc : c ∈ s) :
    c ∈ l.written := by
  unfold ofText? at h
  split at h
  · next marked =>
    -- the label is written in Punycode already
    have whole : mark ++ s.drop mark.length = s :=
      (List.prefix_iff_eq_append.mp (List.isPrefixOf_iff_prefix.mp marked))
    rwa [written_ofCode h, whole]
  · split at h
    · cases h
      exact hc
    · split at h
      · cases h
        exact List.mem_append_right _ (mem_encode plain hc)
      · cases h

/-- Where each of a list has a label, each label is among those of the list. -/
theorem exists_of_mapM {parts : List (List Char)} {labels : List Label}
    (h : parts.mapM Label.ofText? = some labels) {part : List Char} (hp : part ∈ parts) :
    ∃ l ∈ labels, Label.ofText? part = some l := by
  induction parts generalizing labels with
  | nil => cases hp
  | cons first parts ih =>
    rw [List.mapM_cons] at h
    obtain ⟨l, hl, h⟩ := Option.bind_eq_some_iff.mp h
    obtain ⟨ls, hls, h⟩ := Option.bind_eq_some_iff.mp h
    cases h
    rcases List.mem_cons.mp hp with rfl | hp
    · exact ⟨l, List.mem_cons_self, hl⟩
    · obtain ⟨m, hm, found⟩ := ih hls hp
      exact ⟨m, List.mem_cons_of_mem l hm, found⟩

theorem mem_folded {folded : List Char} (plain : c.toNat < 0x80) (lower : c.toLower = c)
    (h : folded? (s ++ [c]) = some folded) : c ∈ folded := by
  obtain ⟨parts, hp, h⟩ := Option.bind_eq_some_iff.mp h
  cases h
  have fold : fold? c = some [c] := by rw [fold?, if_pos plain, lower]
  rw [List.mapM_append] at hp
  obtain ⟨front, -, hp⟩ := Option.bind_eq_some_iff.mp hp
  rw [List.mapM_cons, fold] at hp
  cases hp
  have last : (front ++ [[c]]).flatten = front.flatten ++ [c] := by simp
  show c ∈ Text.composedForm (front ++ [[c]]).flatten
  rw [last, Text.composedForm_concat plain]
  exact List.mem_append_right _ List.mem_cons_self

/-- A plain character at the end of a name, unless it is a point or a capital letter, is in the
written form. -/
theorem mem_written (plain : c.toNat < 0x80) (inner : c ≠ '.') (lower : c.toLower = c)
    (h : written? (s ++ [c]) = some name) : c ∈ name := by
  obtain ⟨folded, hf, h⟩ := Option.bind_eq_some_iff.mp h
  obtain ⟨labels, hl, h⟩ := Option.bind_eq_some_iff.mp h
  split at h
  · cases h
  · cases h
    have last : c ∈ folded := mem_folded plain lower hf
    rw [← Text.intercalate_splitOn '.' folded, Text.mem_intercalate inner] at last
    obtain ⟨part, hp, hc⟩ := last
    obtain ⟨l, hl, written⟩ := exists_of_mapM hl hp
    refine (Text.mem_intercalate inner).mpr ⟨l.written, List.mem_map_of_mem hl, ?_⟩
    exact Label.mem_written plain written hc

/-! ### Plain names -/

theorem hasLeftward_plain (plain : ∀ c ∈ s, c.toNat < 0x80) : hasLeftward s = false := by
  refine List.any_eq_false.mpr fun c hc => ?_
  unfold direction
  rw [if_pos (plain c hc)]
  split
  · simp
  · split <;> simp

theorem folded_plain (plain : ∀ c ∈ s, c.toNat < 0x80) (lower : ∀ c ∈ s, c.toLower = c) :
    folded? s = some s := by
  have folds : s.mapM fold? = some (s.map fun c => [c]) := by
    induction s with
    | nil => rfl
    | cons c s ih =>
      have fold : fold? c = some [c] := by
        rw [fold?, if_pos (plain c List.mem_cons_self), lower c List.mem_cons_self]
      rw [List.mapM_cons, fold, ih (fun d hd => plain d (List.mem_cons_of_mem c hd))
        fun d hd => lower d (List.mem_cons_of_mem c hd)]
      rfl
  have whole : (s.map fun c => [c]).flatten = s := by
    rw [← List.flatMap_def, List.flatMap_singleton']
  rw [folded?, folds]
  show some (Text.composedForm (s.map fun c => [c]).flatten) = some s
  rw [whole, Text.composedForm_plain plain]

/-- Plain labels are written as they are, unless they look like Punycode. -/
theorem mapM_ofText_plain {parts : List (List Char)}
    (plain : ∀ part ∈ parts, ∀ c ∈ part, c.toNat < 0x80)
    (bare : ∀ part ∈ parts, mark.isPrefixOf part = false) :
    parts.mapM Label.ofText? = some (parts.map fun part => ⟨part, part⟩) := by
  induction parts with
  | nil => rfl
  | cons part parts ih =>
    have label : Label.ofText? part = some ⟨part, part⟩ := by
      have own : isPlain part = true :=
        List.all_eq_true.mpr fun c hc => decide_eq_true (plain part List.mem_cons_self c hc)
      rw [Label.ofText?, bare part List.mem_cons_self, if_neg Bool.false_ne_true, if_pos own]
    rw [List.mapM_cons, label, ih (fun p hp => plain p (List.mem_cons_of_mem part hp))
      fun p hp => bare p (List.mem_cons_of_mem part hp)]
    rfl

/-- A plain name without capital letters is written as it is, unless a part of it looks like
Punycode. -/
theorem written_plain (plain : ∀ c ∈ s, c.toNat < 0x80) (lower : ∀ c ∈ s, c.toLower = c)
    (bare : ∀ part ∈ Text.splitOn '.' s, mark.isPrefixOf part = false) :
    written? s = some s := by
  have parts : ∀ part ∈ Text.splitOn '.' s, ∀ c ∈ part, c.toNat < 0x80 := by
    intro part hp c hc
    by_cases point : c = '.'
    · exact absurd (point ▸ hc) (Text.not_mem_of_mem_splitOn hp)
    · refine plain c ?_
      rw [← Text.intercalate_splitOn '.' s]
      exact (Text.mem_intercalate point).mpr ⟨part, hp, hc⟩
  have whole := Text.intercalate_splitOn '.' s
  rw [written?, folded_plain plain lower]
  show ((Text.splitOn '.' s).mapM Label.ofText?).bind _ = some s
  generalize Text.splitOn '.' s = ps at parts bare whole
  have rightward : (ps.map fun part => (⟨part, part⟩ : Label)).any
      (fun l => hasLeftward l.text) = false := by
    rw [List.any_map]
    exact List.any_eq_false.mpr fun part hp => by simp [hasLeftward_plain (parts part hp)]
  have joined : ['.'].intercalate ((ps.map fun part => (⟨part, part⟩ : Label)).map (·.written)) =
      s := by
    rw [List.map_map]
    exact (congrArg _ (List.map_id ps)).trans whole
  rw [mapM_ofText_plain parts bare]
  show (if _ then none else some _) = some s
  rw [rightward, joined]
  rfl

end Domain

end Outbox
