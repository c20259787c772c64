import Mathlib.Tactic.SplitIfs
import Outbox.Json.Layout
import Outbox.Json.Print
import Outbox.Json.Scalar

/-!
# Strings that are read back

A reader reads a text back as a value if it takes just this text from the front of any other, and
gives the value (`Reads`). Every string is read back from what is written for it (`reads_text`).
-/

namespace Outbox.Json

/-- No number goes on at the front of this text. -/
def Ends (rest : Input) : Prop :=
  ∀ c ∈ rest.head?, c.isDigit = false ∧ c ≠ '.' ∧ c ≠ 'e' ∧ c ≠ 'E'

/-- A reader takes the text for the value, whatever follows that does not continue a number. -/
def Reads {α : Type} (read : Reader α) (text : Input) (a : α) : Prop :=
  ∀ rest, Ends rest → read (text ++ rest) = .ok (a, rest)

/-- The text begins with a character that is neither blank nor the first one of `null`. -/
def Starts (text : Input) : Prop := ∃ c s, text = c :: s ∧ isSpace c = false ∧ c ≠ 'n'

theorem ends_nil : Ends [] := fun _ h => nomatch h

section Reads

variable {α β : Type} {read : Reader α} {text : Input} {a : α}

theorem Reads.map (h : Reads read text a) (f : α → β) :
    Reads (fun s => (read s).map fun (a, s) => (f a, s)) text (f a) := by
  intro rest hr
  simp only [h rest hr, Except.map]

theorem Reads.whole (h : Reads read text a) : whole read text = .ok a := by
  have hr := h [] ends_nil
  rw [List.append_nil] at hr
  simp [Json.whole, hr, skipSpace]

theorem skipSpace_cons {c : Char} (h : isSpace c = false) (s : Input) :
    skipSpace (c :: s) = c :: s := by
  simp [skipSpace, h]

/-- A value that may be `null` is read back if it is there. -/
theorem Reads.some (h : Reads read text a) (hs : Starts text) :
    Reads (optional read) text (some a) := by
  obtain ⟨c, s, rfl, space, notNull⟩ := hs
  intro rest hr
  have := h rest hr
  rw [List.cons_append] at this ⊢
  rw [optional, skipSpace_cons space]
  simp [this, notNull, Except.map]

end Reads

theorem reads_null {α : Type} (read : Reader α) :
    Reads (optional read) ['n', 'u', 'l', 'l'] none :=
  fun _ _ => rfl

/-- A value that may be `null` is read back if each value is. -/
theorem reads_printOption {α : Type} {read : Reader α} {print : α → List Char}
    (h : ∀ a, Reads read (print a) a) (hs : ∀ a, Starts (print a)) (a? : Option α) :
    Reads (optional read) (printOption print a?) a? := by
  cases a? with
  | none => exact reads_null read
  | some a => exact (h a).some (hs a)

/-! ### Strings -/

theorem numberOfHex_hexFixed : ∀ n < 0x20, Text.numberOfHex? (Text.hexFixed 4 n) = some n := by
  decide

theorem hexQuad_control {n : Nat} (h : n < 0x20) (s : Input) :
    hexQuad (Text.hexFixed 4 n ++ s) = .ok (n, s) := by
  have back := numberOfHex_hexFixed n h
  simp only [Text.hexFixed, List.nil_append, List.cons_append] at back ⊢
  simp only [hexQuad, back]

/-- What is written for a character is read as this character. -/
theorem textLoop_escaped (n : Nat) (acc : List Char) (c : Char) (s : Input) :
    textLoop (n + 1) acc (escaped c ++ s) = textLoop n (c :: acc) s := by
  unfold escaped
  split_ifs with quote backslash backspace feed newline ret tab control
  · subst quote
    rfl
  · subst backslash
    rfl
  · subst backspace
    rfl
  · subst feed
    rfl
  · subst newline
    rfl
  · subst ret
    rfl
  · subst tab
    rfl
  · have low : ¬ (0xDC00 ≤ c.toNat ∧ c.toNat ≤ 0xDFFF) := by omega
    have high : ¬ (0xD800 ≤ c.toNat ∧ c.toNat ≤ 0xDBFF) := by omega
    simp only [List.cons_append, List.nil_append, textLoop, escape,
      hexQuad_control control, if_neg low, if_neg high, Char.ofNat_toNat]
  · simp [textLoop, control]

/-- The characters of a string are read up to the closing quote. -/
theorem textLoop_flatMap (s : List Char) (n : Nat) (acc : List Char) (rest : Input) :
    textLoop (s.length + n + 1) acc (s.flatMap escaped ++ '"' :: rest) =
      .ok (String.ofList (acc.reverse ++ s), rest) := by
  induction s generalizing acc with
  | nil => simp [textLoop]
  | cons c s ih =>
    rw [List.flatMap_cons, List.append_assoc, List.length_cons, Nat.add_assoc _ 1,
      Nat.add_comm 1, ← Nat.add_assoc, textLoop_escaped, ih]
    simp

theorem length_le_flatMap_escaped (s : List Char) : s.length ≤ (s.flatMap escaped).length := by
  induction s with
  | nil => simp
  | cons c s ih =>
    have one : 1 ≤ (escaped c).length := by
      unfold escaped
      split_ifs <;> simp
    simp only [List.flatMap_cons, List.length_append, List.length_cons]
    omega

/-- A string is read back after its opening quote. -/
theorem textBody_flatMap (s : String) (rest : Input) :
    textBody (s.toList.flatMap escaped ++ '"' :: rest) = .ok (s, rest) := by
  -- The loop may take as many steps as the text has characters, and needs one for each of `s`.
  have enough := length_le_flatMap_escaped s.toList
  obtain ⟨n, hn⟩ := Nat.exists_eq_add_of_le
    (show s.toList.length + 1 ≤ (s.toList.flatMap escaped ++ '"' :: rest).length + 1 by
      simp only [List.length_append]; omega)
  rw [textBody, hn, Nat.add_right_comm, textLoop_flatMap]
  simp

theorem printText_append (s : String) (rest : Input) :
    printText s ++ rest = '"' :: (s.toList.flatMap escaped ++ '"' :: rest) := by
  simp [printText]

theorem starts_printText (s : String) : Starts (printText s) := ⟨_, _, rfl, rfl, by decide⟩

theorem reads_text (s : String) : Reads text (printText s) s := by
  intro rest _
  rw [printText_append, text, skipSpace_cons rfl]
  exact textBody_flatMap s rest

end Outbox.Json
