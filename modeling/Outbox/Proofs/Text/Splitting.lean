import Outbox.Text.Split

/-!
# Texts that were split

The parts of a text have no separator (`not_mem_of_mem_splitOn`), and the text is what they give when
they are joined again (`intercalate_splitOn`). Where parts are left out, characters are left out
(`intercalate_sublist`).
-/

namespace Outbox.Text

variable {c : Char} {s part : List Char} {parts : List (List Char)}

theorem splitOn_eq (c : Char) (s : List Char) : splitOn c s = s.splitOn c := by
  induction s with
  | nil => rfl
  | cons x s ih =>
    have whole : (x :: s).splitOn c =
        if x = c then [] :: s.splitOn c else (s.splitOn c).modifyHead (List.cons x) := by
      simp only [List.splitOn, List.splitOnP_cons_eq_if_modifyHead, beq_iff_eq]
    rw [splitOn, ih, whole]
    split
    · rfl
    · cases h : s.splitOn c with
      | nil => exact absurd h (List.splitOnP_ne_nil _ s)
      | cons part parts => rfl

theorem intercalate_splitOn (c : Char) (s : List Char) : [c].intercalate (splitOn c s) = s := by
  rw [splitOn_eq, List.intercalate_splitOn]

theorem splitOn_intercalate (clean : ∀ part ∈ parts, c ∉ part) (some : parts ≠ []) :
    splitOn c ([c].intercalate parts) = parts := by
  rw [splitOn_eq, List.splitOn_intercalate c clean some]

theorem not_mem_of_mem_splitOn (h : part ∈ splitOn c s) : c ∉ part := by
  induction s generalizing part with
  | nil =>
    obtain rfl := List.mem_singleton.mp h
    exact List.not_mem_nil
  | cons x s ih =>
    unfold splitOn at h
    split at h
    · obtain rfl | h := List.mem_cons.mp h
      · exact List.not_mem_nil
      · exact ih h
    · next other =>
      split at h
      · obtain rfl := List.mem_singleton.mp h
        simpa using Ne.symm other
      · next first rest hs =>
        rw [hs] at ih
        obtain rfl | h := List.mem_cons.mp h
        · simpa [Ne.symm other] using ih List.mem_cons_self
        · exact ih (List.mem_cons_of_mem _ h)

/-- A character other than the separator stands in one of the parts. -/
theorem mem_intercalate {x : Char} (other : x ≠ c) :
    x ∈ [c].intercalate parts ↔ ∃ part ∈ parts, x ∈ part := by
  induction parts with
  | nil => simp
  | cons part parts ih =>
    cases parts with
    | nil => simp
    | cons next rest =>
      rw [List.intercalate_cons_cons, List.mem_append, List.mem_append, List.mem_singleton, ih]
      simp [other]

/-- Where parts are left out, only characters are left out of what they give together. -/
theorem intercalate_sublist {fewer parts : List (List Char)} (h : fewer.Sublist parts) :
    (s.intercalate fewer).Sublist (s.intercalate parts) := by
  induction h with
  | slnil => exact .slnil
  | @cons fewer parts part sub ih =>
    cases parts with
    | nil =>
      obtain rfl := List.sublist_nil.mp sub
      exact List.nil_sublist _
    | cons next rest =>
      rw [List.intercalate_cons_cons]
      exact ih.trans (List.sublist_append_right ..)
  | @cons_cons fewer parts part sub ih =>
    cases fewer with
    | nil =>
      rw [List.intercalate_singleton]
      cases parts with
      | nil => simp only [List.intercalate_singleton, List.Sublist.refl]
      | cons next rest =>
        rw [List.intercalate_cons_cons, List.append_assoc]
        exact List.sublist_append_left ..
    | cons first others =>
      cases parts with
      | nil => cases sub
      | cons next rest =>
        rw [List.intercalate_cons_cons, List.intercalate_cons_cons]
        exact ih.append_left _

end Outbox.Text
