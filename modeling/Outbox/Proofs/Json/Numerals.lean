import Outbox.Proofs.Json.Grammar
import Outbox.Proofs.Json.Number

/-!
# Numbers in any spelling

The text of a number is taken as its literal wherever nothing follows that continues it
(`literal_text`). A double is read from every number with its value (`reads_doubleText`).
-/

namespace Outbox.Json

variable {rest : Input}

/-- No digit stands at the front of this text. -/
def NoDigit (rest : Input) : Prop := ∀ c ∈ rest.head?, c.isDigit = false

theorem Ends.noDigit (hr : Ends rest) : NoDigit rest := fun c hc => (hr c hc).1

theorem noDigit_cons {c : Char} (h : c.isDigit = false) (s : Input) : NoDigit (c :: s) := by
  rintro d ⟨⟩
  exact h

theorem someDigits_text {ds : List Nat} {t : List Char} (h : DigitsText ds t) (hr : NoDigit rest) :
    someDigits (t ++ rest) = .ok (ds, rest) := by
  obtain ⟨some, all, rfl⟩ := h
  obtain ⟨c, t, rfl⟩ := List.exists_cons_of_ne_nil some
  simp only [someDigits, digits_stop all hr, List.map_cons]

theorem wholeDigits_text {ds : List Nat} {t : List Char} (h : WholeText ds t) (hr : NoDigit rest) :
    wholeDigits (t ++ rest) = .ok (ds, rest) := by
  cases h with
  | zero =>
    cases rest with
    | nil => rfl
    | cons c rest => simp [wholeDigits, hr c rfl]
  | digits h first =>
    obtain ⟨-, all, rfl⟩ := h
    have digit := all _ List.mem_cons_self
    have taken := digits_stop all hr
    rw [List.cons_append] at taken ⊢
    simp [wholeDigits, digit, taken]

theorem fractionDigits_text {fraction : Option (List Nat)} {t : List Char}
    (h : FractionText fraction t) (hr : NoDigit rest) (point : ∀ c ∈ rest.head?, c ≠ '.') :
    fractionDigits (t ++ rest) = .ok (fraction, rest) := by
  cases h with
  | none =>
    cases rest with
    | nil => rfl
    | cons c rest => simp [fractionDigits, point c rfl]
  | some h => simp only [List.cons_append, fractionDigits, someDigits_text h hr, Except.map]

theorem exponentDigits_text {exponent : Option (Bool × List Nat)} {t : List Char}
    (h : ExponentText exponent t) (hr : Ends rest) :
    exponentDigits (t ++ rest) = .ok (exponent, rest) := by
  cases h with
  | none => exact exponentDigits_of_ends hr
  | plain sign h =>
    have taken := someDigits_text h hr.noDigit
    obtain ⟨some, all, -⟩ := h
    obtain ⟨c, t, rfl⟩ := List.exists_cons_of_ne_nil some
    -- The first digit is no sign.
    have notSign {d : Char} (h : d.isDigit = false) (s : Input) : c :: (t ++ rest) ≠ d :: s := by
      intro eq
      rw [← (List.cons.inj eq).1, all c List.mem_cons_self] at h
      cases h
    rw [List.cons_append] at taken
    rw [List.cons_append, List.cons_append, exponentDigits, if_pos sign]
    · simp only [taken, Except.map]
    · exact notSign (by decide)
    · exact notSign (by decide)
  | plus sign h =>
    simp only [List.cons_append, exponentDigits, if_pos sign, someDigits_text h hr.noDigit,
      Except.map]
  | minus sign h =>
    simp only [List.cons_append, exponentDigits, if_pos sign, someDigits_text h hr.noDigit,
      Except.map]

/-- A power of ten begins with its letter. -/
theorem exponent_head {exponent : Option (Bool × List Nat)} {t : List Char}
    (h : ExponentText exponent t) (hr : Ends rest) :
    ∀ c ∈ (t ++ rest).head?, c.isDigit = false ∧ c ≠ '.' := by
  have letter {e : Char} (sign : e = 'e' ∨ e = 'E') : e.isDigit = false ∧ e ≠ '.' := by
    rcases sign with rfl | rfl <;> decide
  cases h with
  | none => exact fun c hc => ⟨(hr c hc).1, (hr c hc).2.1⟩
  | plain sign => rintro c ⟨⟩; exact letter sign
  | plus sign => rintro c ⟨⟩; exact letter sign
  | minus sign => rintro c ⟨⟩; exact letter sign

theorem unsigned_text {negative : Bool} {whole : List Nat} {fraction : Option (List Nat)}
    {exponent : Option (Bool × List Nat)} {w f e : List Char} (hw : WholeText whole w)
    (hf : FractionText fraction f) (he : ExponentText exponent e) (hr : Ends rest) :
    unsigned negative (w ++ (f ++ (e ++ rest))) =
      .ok (⟨negative, whole, fraction, exponent⟩, rest) := by
  have power := exponent_head he hr
  have point : NoDigit (f ++ (e ++ rest)) := by
    cases hf with
    | none => exact fun c hc => (power c hc).1
    | some => exact noDigit_cons (by decide) _
  simp only [unsigned, wholeDigits_text hw point,
    fractionDigits_text hf (fun c hc => (power c hc).1) (fun c hc => (power c hc).2),
    exponentDigits_text he hr, bind, Except.bind, pure, Except.pure]

/-- The digits before the point do not begin with a sign. -/
theorem WholeText.eq_cons {ds : List Nat} {t : List Char} (h : WholeText ds t) :
    ∃ c s, t = c :: s ∧ c.isDigit = true ∧ c ≠ '-' := by
  have digit {c : Char} (h : c.isDigit = true) : c ≠ '-' := by
    rintro rfl
    exact absurd h (by decide)
  cases h with
  | zero => exact ⟨_, _, rfl, rfl, by decide⟩
  | digits h => exact ⟨_, _, rfl, h.digits _ List.mem_cons_self, digit (h.digits _ List.mem_cons_self)⟩

theorem literal_text {l : Literal} {t : List Char} (h : LiteralText l t) (hr : Ends rest) :
    literal (t ++ rest) = .ok (l, rest) := by
  cases h with
  | @plain whole fraction exponent w f e hw hf he =>
    have taken : unsigned false (w ++ (f ++ (e ++ rest))) = _ := unsigned_text hw hf he hr
    obtain ⟨c, s, rfl, -, notSign⟩ := hw.eq_cons
    simp only [List.append_assoc, List.cons_append] at taken ⊢
    rw [literal_plain notSign, taken]
  | minus hw hf he =>
    simp only [List.append_assoc, List.cons_append]
    rw [literal_minus, unsigned_text hw hf he hr]

/-- A number begins with its sign or with a digit. -/
theorem LiteralText.eq_cons {l : Literal} {t : List Char} (h : LiteralText l t) :
    ∃ c s, t = c :: s ∧ (c = '-' ∨ c.isDigit = true) := by
  cases h with
  | plain hw hf he =>
    obtain ⟨c, s, rfl, digit, -⟩ := hw.eq_cons
    exact ⟨c, _, rfl, .inr digit⟩
  | minus hw hf he => exact ⟨_, _, rfl, .inl rfl⟩

/-- Every natural number is written without zeros before it. -/
theorem wholeText_toDigits (m : Nat) :
    WholeText ((Nat.toDigits 10 m).map digitValue) (Nat.toDigits 10 m) := by
  rcases Nat.eq_zero_or_pos m with rfl | some
  · exact .zero
  · obtain ⟨c, cs, hd, first⟩ := toDigits_pos some
    have digits := isDigit_toDigits m
    rw [hd] at digits ⊢
    exact .digits ⟨nofun, digits, rfl⟩ first

/-- Every integer is written as a number. -/
theorem literalText_printInt (n : Int) : ∃ l, LiteralText l (printInt n) := by
  rcases Int.lt_or_le n 0 with neg | nat
  · obtain ⟨m, rfl⟩ : ∃ m : Nat, n = -m := ⟨n.natAbs, by omega⟩
    rw [printInt_neg (by omega)]
    have minus := LiteralText.minus (wholeText_toDigits m) .none .none
    exact ⟨_, by simpa using minus⟩
  · obtain ⟨m, rfl⟩ := Int.eq_ofNat_of_zero_le nat
    rw [printInt_natCast]
    have plain := LiteralText.plain (wholeText_toDigits m) .none .none
    exact ⟨_, by simpa using plain⟩

theorem isValue_printInt (n : Int) : IsValue (printInt n) :=
  let ⟨_, literal⟩ := literalText_printInt n
  .number literal

/-! ### Doubles -/

/-- The double of a number: an integer counts as the nearest one. -/
def Number.double : Number → Binary64
  | .integer n => .ofInt n
  | .floating x => x

/-- The text is a number with this value. -/
def DoubleText (x : Binary64) (t : List Char) : Prop :=
  ∃ l n, LiteralText l t ∧ l.number = .ok n ∧ n.double = x

theorem reads_doubleText {x : Binary64} {t : List Char} (h : DoubleText x t) : Reads double t x := by
  obtain ⟨l, n, literal, value, rfl⟩ := h
  obtain ⟨c, s, rfl, begins⟩ := literal.eq_cons
  obtain ⟨_, _, ⟨⟩, space, -⟩ := starts_of_number begins s
  intro rest hr
  have taken : number (c :: s ++ rest) = .ok (n, rest) :=
    number_eq_ok.mpr ⟨l, literal_text literal hr, value⟩
  rw [List.cons_append] at taken ⊢
  rw [double, numeric, skipSpace_cons space]
  simp only [if_pos begins, taken]
  cases n <;> rfl

end Outbox.Json
