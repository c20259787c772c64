import Mathlib.Data.List.DropRight
import Outbox.Text.Blank

/-!
# Trimmed texts

Trimming leaves what stands between the blanks at both ends (`trimChars_between`), and a trimmed text
stays as it is when blanks are put behind it (`trimChars_append`).
-/

namespace Outbox.Text

variable {s t front back : List Char}

/-- No blank stands at either end. -/
structure Bare (t : List Char) : Prop where
  first : ∀ c ∈ t.head?, isBlank c = false
  last : ∀ c ∈ t.getLast?, isBlank c = false

theorem trimChars_eq (s : List Char) :
    trimChars s = (s.dropWhile isBlank).rdropWhile isBlank := rfl

/-- Trimming leaves what stands between blanks. -/
theorem trimChars_between (hf : ∀ c ∈ front, isBlank c = true) (bare : Bare t)
    (hb : ∀ c ∈ back, isBlank c = true) : trimChars (front ++ (t ++ back)) = t := by
  have begins : (t ++ back).dropWhile isBlank = if t = [] then [] else t ++ back := by
    cases t with
    | nil => simpa using hb
    | cons c t => simp [bare.first c rfl]
  rw [trimChars, List.dropWhile_append_of_pos hf, begins]
  split
  · next none => rw [none]; rfl
  · have ends : t.reverse.dropWhile isBlank = t.reverse := by
      rw [← List.reverse_inj, List.reverse_reverse]
      refine List.rdropWhile_eq_self_iff.mpr fun some => ?_
      simpa using bare.last _ (List.getLast?_eq_some_getLast some)
    rw [List.reverse_append, List.dropWhile_append_of_pos (by simpa using hb), ends,
      List.reverse_reverse]

theorem bare_trimChars (s : List Char) : Bare (trimChars s) := by
  refine ⟨fun c hc => ?_, fun c hc => ?_⟩
  · -- the end is cut off a text that begins with the same character
    have front : trimChars s <+: s.dropWhile isBlank := List.rdropWhile_prefix isBlank _
    have first : c ∈ (s.dropWhile isBlank).head? := by
      obtain ⟨rest, eq⟩ := front
      rw [← eq, List.head?_append]
      simp [Option.mem_def.mp hc]
    have := List.head?_dropWhile_not isBlank s
    rw [Option.mem_def.mp first] at this
    simpa using this
  · have some : trimChars s ≠ [] := by
      rintro none
      simp [none] at hc
    rw [List.getLast?_eq_some_getLast some] at hc
    obtain rfl := Option.some.inj hc
    exact Bool.eq_false_iff.mpr (List.rdropWhile_last_not isBlank _ some)

/-- Blanks are cut off at both ends. -/
theorem trimChars_parts (s : List Char) : ∃ front back, s = front ++ (trimChars s ++ back) ∧
    (∀ c ∈ front, isBlank c = true) ∧ ∀ c ∈ back, isBlank c = true := by
  refine ⟨s.takeWhile isBlank, (s.dropWhile isBlank).rtakeWhile isBlank, ?_, ?_, ?_⟩
  · have back := List.rdropWhile_append_rtakeWhile (p := isBlank) (l := s.dropWhile isBlank)
    rw [trimChars_eq, back, List.takeWhile_append_dropWhile]
  · exact fun c hc => List.mem_takeWhile_imp hc
  · exact fun c hc => List.mem_rtakeWhile_imp hc

/-- Blanks behind a trimmed text are cut off again. -/
theorem trimChars_append (hb : ∀ c ∈ back, isBlank c = true) :
    trimChars (trimChars s ++ back) = trimChars s := by
  have none : ∀ c ∈ ([] : List Char), isBlank c = true := nofun
  have kept := trimChars_between none (bare_trimChars s) hb
  rwa [List.nil_append] at kept

end Outbox.Text
