import Outbox.Proofs.Json.Text
import Outbox.Proofs.Results

/-!
# Numbers that are read back

Integers of up to 64 bits are read back from their decimal digits. What a reader of numbers takes
from a text it takes from a longer one too (`literal_longer`), so a double is read back from its
text before any text if it is read back from it alone (`reads_double`).
-/

namespace Outbox.Json

-- Powers are those of numbers, also where a monoid brings its own.
attribute [local instance (high)] instPowNat

/-! ### Digits -/

section Digits

variable {rest : Input}

/-- Digits are taken up to what is none. -/
theorem digits_stop {cs : List Char} (h : ∀ c ∈ cs, c.isDigit = true)
    (hr : ∀ c ∈ rest.head?, c.isDigit = false) :
    digits (cs ++ rest) = (cs.map digitValue, rest) := by
  have stop : rest.takeWhile Char.isDigit = [] ∧ rest.dropWhile Char.isDigit = rest := by
    cases rest with
    | nil => exact ⟨rfl, rfl⟩
    | cons c rest => simp [hr c rfl]
  rw [digits, List.takeWhile_append_of_pos h, List.dropWhile_append_of_pos h, stop.1, stop.2,
    List.append_nil]

theorem digits_append {cs : List Char} (h : ∀ c ∈ cs, c.isDigit = true) (hr : Ends rest) :
    digits (cs ++ rest) = (cs.map digitValue, rest) :=
  digits_stop h fun c hc => (hr c hc).1

theorem isDigit_toDigits (m : Nat) : ∀ c ∈ Nat.toDigits 10 m, c.isDigit = true :=
  fun _ hc => Nat.isDigit_of_mem_toDigits (by decide) (by decide) hc

/-- The first digit of a number is not zero. -/
theorem toDigits_pos {m : Nat} (h : 0 < m) : ∃ c cs, Nat.toDigits 10 m = c :: cs ∧ c ≠ '0' := by
  rw [Nat.toDigits_eq_if (by decide)]
  split
  · next less =>
    refine ⟨_, [], rfl, fun zero => ?_⟩
    have := congrArg Char.toNat zero
    rw [Nat.toNat_digitChar_of_lt_ten less] at this
    exact absurd this (by simp; omega)
  · obtain ⟨c, cs, hd, hc⟩ := toDigits_pos (show 0 < m / 10 by omega)
    exact ⟨c, _, by rw [hd, List.cons_append], hc⟩
  termination_by m

theorem wholeDigits_toDigits (m : Nat) (hr : Ends rest) :
    wholeDigits (Nat.toDigits 10 m ++ rest) = .ok ((Nat.toDigits 10 m).map digitValue, rest) := by
  rcases Nat.eq_zero_or_pos m with rfl | some
  · have zero : Nat.toDigits 10 0 = ['0'] := rfl
    rw [zero]
    cases rest with
    | nil => rfl
    | cons c rest => simp [wholeDigits, (hr c rfl).1, digitValue]
  · obtain ⟨c, cs, hd, hc⟩ := toDigits_pos some
    have digit : c.isDigit = true := isDigit_toDigits m c (by simp [hd])
    have all := digits_append (isDigit_toDigits m) hr
    rw [hd, List.cons_append] at all ⊢
    simp [wholeDigits, digit, all]

theorem fractionDigits_of_ends (hr : Ends rest) : fractionDigits rest = .ok (none, rest) := by
  cases rest with
  | nil => rfl
  | cons c rest => simp [fractionDigits, (hr c rfl).2.1]

theorem exponentDigits_of_ends (hr : Ends rest) : exponentDigits rest = .ok (none, rest) := by
  cases rest with
  | nil => rfl
  | cons c rest => simp [exponentDigits, (hr c rfl).2.2.1, (hr c rfl).2.2.2]

theorem le_foldl_digits (ds : List Nat) (acc : Nat) :
    acc ≤ ds.foldl (fun acc d => 10 * acc + d) acc := by
  induction ds generalizing acc with
  | nil => exact Nat.le_refl _
  | cons d ds ih => exact Nat.le_trans (by omega) (ih (10 * acc + d))

/-- Digits that spell a number of 64 bits are all taken. -/
theorem takeWhole_eq {ds : List Nat} {acc : Nat}
    (h : ds.foldl (fun acc d => 10 * acc + d) acc ≤ wordLimit) :
    takeWhole acc ds = (ds.foldl (fun acc d => 10 * acc + d) acc, 0) := by
  induction ds generalizing acc with
  | nil => rfl
  | cons d ds ih =>
    rw [List.foldl_cons] at h ⊢
    rw [takeWhole, if_pos (Nat.le_trans (le_foldl_digits ds _) h), ih h]

theorem takeWhole_toDigits {m : Nat} (h : m ≤ wordLimit) :
    takeWhole 0 ((Nat.toDigits 10 m).map digitValue) = (m, 0) := by
  have value : ((Nat.toDigits 10 m).map digitValue).foldl (fun acc d => 10 * acc + d) 0 = m := by
    rw [List.foldl_map]
    exact Nat.ofDigitChars_toDigits (by decide) (by decide)
  rw [takeWhole_eq (by rwa [value]), value]

end Digits

/-! ### Integers -/

theorem printInt_natCast (m : Nat) : printInt m = Nat.toDigits 10 m := by
  show (Nat.repr m).toList = _
  rw [Nat.repr_eq_ofList_toDigits, String.toList_ofList]

theorem printInt_neg {m : Nat} (h : 0 < m) : printInt (-m) = '-' :: Nat.toDigits 10 m := by
  obtain ⟨k, rfl⟩ := Nat.exists_eq_succ_of_ne_zero (Nat.pos_iff_ne_zero.mp h)
  show ("-" ++ Nat.repr k.succ).toList = _
  rw [String.toList_append, Nat.repr_eq_ofList_toDigits]
  simp

/-- A literal whose sign has been taken. -/
def unsigned (negative : Bool) (s : Input) : Except Malformed (Literal × Input) := do
  let (whole, s) ← wholeDigits s
  let (fraction, s) ← fractionDigits s
  let (exponent, s) ← exponentDigits s
  return (⟨negative, whole, fraction, exponent⟩, s)

theorem literal_minus (s : Input) : literal ('-' :: s) = unsigned true s := rfl

theorem literal_plain {c : Char} (h : c ≠ '-') (s : Input) :
    literal (c :: s) = unsigned false (c :: s) := by
  unfold literal
  split
  next negative s' sign =>
    split at sign
    · next eq => exact absurd (List.cons.inj eq).1 h
    · cases sign
      rfl

theorem unsigned_toDigits (negative : Bool) (m : Nat) {rest : Input} (hr : Ends rest) :
    unsigned negative (Nat.toDigits 10 m ++ rest) =
      .ok (⟨negative, (Nat.toDigits 10 m).map digitValue, none, none⟩, rest) := by
  simp only [unsigned, wholeDigits_toDigits m hr, fractionDigits_of_ends hr,
    exponentDigits_of_ends hr, bind, Except.bind, pure, Except.pure]

/-- Digits stand where a number may begin, and are not its sign. -/
theorem toDigits_eq_cons (m : Nat) :
    ∃ c cs, Nat.toDigits 10 m = c :: cs ∧ c.isDigit = true ∧ c ≠ '-' := by
  obtain ⟨c, cs, hd⟩ := List.exists_cons_of_ne_nil (Nat.toDigits_ne_nil (n := m) (b := 10))
  have digit := isDigit_toDigits m c (by simp [hd])
  refine ⟨c, cs, hd, digit, ?_⟩
  rintro rfl
  exact absurd digit (by decide)

theorem literal_natural (m : Nat) {rest : Input} (hr : Ends rest) :
    literal (Nat.toDigits 10 m ++ rest) =
      .ok (⟨false, (Nat.toDigits 10 m).map digitValue, none, none⟩, rest) := by
  rw [← unsigned_toDigits false m hr]
  obtain ⟨c, cs, hd, -, plain⟩ := toDigits_eq_cons m
  rw [hd, List.cons_append, literal_plain plain]

/-- An integer of up to 64 bits is read back. -/
theorem number_printInt {n : Int} (least : -2 ^ (63 : Nat) ≤ n) (greatest : n < 2 ^ (64 : Nat))
    {rest : Input} (hr : Ends rest) : number (printInt n ++ rest) = .ok (.integer n, rest) := by
  rcases Int.lt_or_le n 0 with neg | nat
  · obtain ⟨m, rfl⟩ : ∃ m : Nat, n = -m := ⟨n.natAbs, by omega⟩
    have fits : m ≤ wordLimit := by
      unfold wordLimit
      omega
    rw [printInt_neg (by omega), List.cons_append, number, literal_minus,
      unsigned_toDigits true m hr]
    have value : ¬ (m = 0 ∨ 2 ^ (63 : Nat) < m) := by omega
    simp [Literal.number, takeWhole_toDigits fits, value, Except.map]
  · obtain ⟨m, rfl⟩ := Int.eq_ofNat_of_zero_le nat
    have fits : m ≤ wordLimit := by
      unfold wordLimit
      omega
    rw [printInt_natCast, number, literal_natural m hr]
    simp [Literal.number, takeWhole_toDigits fits, Except.map]

theorem starts_of_isDigit {c : Char} (h : c.isDigit = true) (s : Input) : Starts (c :: s) := by
  refine ⟨c, s, rfl, Bool.eq_false_iff.mpr fun space => ?_, ?_⟩
  · simp only [isSpace, Bool.or_eq_true, beq_iff_eq] at space
    rcases space with ((rfl | rfl) | rfl) | rfl <;> exact absurd h (by decide)
  · rintro rfl
    exact absurd h (by decide)

/-- An integer begins with its sign or with a digit. -/
theorem printInt_eq_cons (n : Int) :
    ∃ c s, printInt n = c :: s ∧ (c = '-' ∨ c.isDigit = true) := by
  rcases Int.lt_or_le n 0 with neg | nat
  · obtain ⟨m, rfl⟩ : ∃ m : Nat, n = -m := ⟨n.natAbs, by omega⟩
    exact ⟨_, _, printInt_neg (by omega), .inl rfl⟩
  · obtain ⟨m, rfl⟩ := Int.eq_ofNat_of_zero_le nat
    obtain ⟨c, cs, hd, digit, -⟩ := toDigits_eq_cons m
    exact ⟨c, cs, by rw [printInt_natCast, hd], .inr digit⟩

theorem starts_of_number {c : Char} (h : c = '-' ∨ c.isDigit = true) (s : Input) :
    Starts (c :: s) := by
  rcases h with rfl | digit
  · exact ⟨_, _, rfl, rfl, by decide⟩
  · exact starts_of_isDigit digit s

theorem starts_printInt (n : Int) : Starts (printInt n) := by
  obtain ⟨c, s, hn, hc⟩ := printInt_eq_cons n
  rw [hn]
  exact starts_of_number hc s

theorem reads_integer (expected : String) {n least greatest : Int} (hl : least ≤ n)
    (hg : n ≤ greatest) (fits : -2 ^ (63 : Nat) ≤ n ∧ n < 2 ^ (64 : Nat)) :
    Reads (integer expected least greatest) (printInt n) n := by
  intro rest hr
  have value := number_printInt fits.1 fits.2 hr
  obtain ⟨c, s, hn, hc⟩ := printInt_eq_cons n
  obtain ⟨c', s', eq, space, -⟩ := starts_of_number hc (s ++ rest)
  cases eq
  rw [hn, List.cons_append] at value ⊢
  simp [integer, numeric, skipSpace_cons space, hc, value, hl, hg, Except.map]

theorem reads_int32 (x : Int32) : Reads int32 (printInt x.toInt) x := by
  have least := x.le_toInt
  have greatest := x.toInt_lt
  have one : Reads int32 (printInt x.toInt) (Int32.ofInt x.toInt) :=
    (reads_integer "i32" (by omega) (by omega) (by omega)).map Int32.ofInt
  rwa [Int32.ofInt_toInt] at one

theorem reads_int64 (x : Int64) : Reads int64 (printInt x.toInt) x := by
  have least := x.le_toInt
  have greatest := x.toInt_lt
  have one : Reads int64 (printInt x.toInt) (Int64.ofInt x.toInt) :=
    (reads_integer "i64" (by omega) (by omega) (by omega)).map Int64.ofInt
  rwa [Int64.ofInt_toInt] at one

theorem reads_uint16 (p : UInt16) : Reads uint16 (printInt p.toNat) p := by
  have greatest := p.toNat_lt
  have one : Reads uint16 (printInt p.toNat) (UInt16.ofNat (p.toNat : Int).toNat) :=
    (reads_integer "u16" (by omega) (by omega) (by omega)).map fun n => UInt16.ofNat n.toNat
  rwa [Int.toNat_natCast, UInt16.ofNat_toNat] at one

/-! ### Doubles -/

section Longer

variable {s r rest : Input}

theorem digits_longer (hr : Ends rest) (s : Input) :
    digits (s ++ rest) = ((digits s).1, (digits s).2 ++ rest) := by
  induction s with
  | nil => exact digits_append (List.forall_mem_nil _) hr
  | cons c s ih =>
    by_cases h : c.isDigit = true
    · have eqs := Prod.mk.inj ih
      simp only [digits] at eqs ⊢
      simp [h, eqs]
    · simp [digits, h]

theorem someDigits_longer (hr : Ends rest) {ds : List Nat} (h : someDigits s = .ok (ds, r)) :
    someDigits (s ++ rest) = .ok (ds, r ++ rest) := by
  unfold someDigits at h ⊢
  rw [digits_longer hr]
  generalize digits s = found at h ⊢
  rcases found with ⟨_ | ⟨d, ds'⟩, s'⟩
  · cases s' <;> cases h
  · cases h
    rfl

theorem wholeDigits_longer (hr : Ends rest) {ds : List Nat} (h : wholeDigits s = .ok (ds, r)) :
    wholeDigits (s ++ rest) = .ok (ds, r ++ rest) := by
  cases s with
  | nil => cases h
  | cons c s =>
    by_cases zero : c = '0'
    · subst zero
      cases s with
      | nil =>
        cases h
        exact wholeDigits_toDigits 0 hr
      | cons c s =>
        by_cases digit : c.isDigit = true
        · simp [wholeDigits, digit] at h
        · simp [wholeDigits, digit] at h ⊢
          simp [← h]
    · by_cases digit : c.isDigit = true
      · have longer := digits_longer hr (c :: s)
        rw [List.cons_append] at longer ⊢
        simp only [wholeDigits, digit, if_true, Except.ok.injEq] at h ⊢
        rw [longer, h]
      · simp [wholeDigits, digit] at h

theorem fractionDigits_longer (hr : Ends rest) {ds : Option (List Nat)}
    (h : fractionDigits s = .ok (ds, r)) : fractionDigits (s ++ rest) = .ok (ds, r ++ rest) := by
  cases s with
  | nil =>
    cases h
    exact fractionDigits_of_ends hr
  | cons c s =>
    by_cases point : c = '.'
    · subst point
      obtain ⟨⟨ds', s'⟩, hd, he⟩ := map_eq_ok.mp h
      cases he
      simp only [List.cons_append, fractionDigits, someDigits_longer hr hd, Except.map]
    · simp [fractionDigits, point] at h ⊢
      simp [← h]

theorem exponentDigits_longer (hr : Ends rest) {power : Option (Bool × List Nat)}
    (h : exponentDigits s = .ok (power, r)) :
    exponentDigits (s ++ rest) = .ok (power, r ++ rest) := by
  cases s with
  | nil =>
    cases h
    exact exponentDigits_of_ends hr
  | cons c s =>
    by_cases e : c = 'e' ∨ c = 'E'
    · simp only [exponentDigits, List.cons_append, if_pos e] at h ⊢
      split at h
      · obtain ⟨⟨ds, s'⟩, hd, he⟩ := map_eq_ok.mp h
        cases he
        simp only [List.cons_append, someDigits_longer hr hd, Except.map]
      · obtain ⟨⟨ds, s'⟩, hd, he⟩ := map_eq_ok.mp h
        cases he
        simp only [List.cons_append, someDigits_longer hr hd, Except.map]
      · -- No sign follows. Nothing that is appended can become one, since a digit stands here.
        next minus plus =>
        obtain ⟨⟨ds, s'⟩, hd, he⟩ := map_eq_ok.mp h
        cases he
        have longer := someDigits_longer hr hd
        cases s with
        | nil => cases hd
        | cons d s =>
          rw [List.cons_append] at longer ⊢
          split
          · next eq => exact absurd (congrArg (· :: s) (List.cons.inj eq).1) (minus s)
          · next eq => exact absurd (congrArg (· :: s) (List.cons.inj eq).1) (plus s)
          · simp only [longer, Except.map]
    · simp only [exponentDigits, List.cons_append, if_neg e] at h ⊢
      cases h
      rfl

theorem unsigned_longer (hr : Ends rest) {negative : Bool} {l : Literal}
    (h : unsigned negative s = .ok (l, r)) :
    unsigned negative (s ++ rest) = .ok (l, r ++ rest) := by
  obtain ⟨⟨whole, s₁⟩, hw, h⟩ := bind_eq_ok.mp h
  obtain ⟨⟨fraction, s₂⟩, hf, h⟩ := bind_eq_ok.mp h
  obtain ⟨⟨exponent, s₃⟩, he, h⟩ := bind_eq_ok.mp h
  cases h
  simp only [unsigned, wholeDigits_longer hr hw, fractionDigits_longer hr hf,
    exponentDigits_longer hr he, bind, Except.bind, pure, Except.pure]

/-- A literal at the front of a text stands at the front of a longer one too. -/
theorem literal_longer (hr : Ends rest) {l : Literal} (h : literal s = .ok (l, r)) :
    literal (s ++ rest) = .ok (l, r ++ rest) := by
  cases s with
  | nil => cases h
  | cons c s =>
    by_cases minus : c = '-'
    · subst minus
      exact unsigned_longer hr h
    · rw [literal_plain minus] at h
      rw [List.cons_append, literal_plain minus]
      exact unsigned_longer hr h

end Longer

theorem skipSpace_longer {s : Input} {c : Char} {t : Input} (h : skipSpace s = c :: t)
    (rest : Input) : skipSpace (s ++ rest) = c :: (t ++ rest) := by
  rw [skipSpace] at h
  rw [skipSpace, List.dropWhile_append, h]
  rfl

/-- A number is the value of a literal. -/
theorem number_eq_ok {s r : Input} {n : Number} :
    number s = .ok (n, r) ↔ ∃ l, literal s = .ok (l, r) ∧ l.number = .ok n := by
  constructor
  · intro h
    unfold number at h
    rcases hl : literal s with fault | ⟨l, s'⟩
    · rw [hl] at h
      cases fault <;> cases h
    · rw [hl] at h
      obtain ⟨m, hm, he⟩ := map_eq_ok.mp h
      cases he
      exact ⟨l, rfl, hm⟩
  · rintro ⟨l, hl, value⟩
    simp only [number, hl, value, Except.map]

theorem number_longer {s r rest : Input} (hr : Ends rest) {n : Number}
    (h : number s = .ok (n, r)) : number (s ++ rest) = .ok (n, r ++ rest) := by
  obtain ⟨l, hl, value⟩ := number_eq_ok.mp h
  exact number_eq_ok.mpr ⟨l, literal_longer hr hl, value⟩

/-- The text of a double is read as this double. -/
def ReadsBack (x : Binary64) : Prop := double x.text = .ok (x, [])

theorem readsBack_iff {x : Binary64} : (double x.text).toOption = some (x, []) ↔ ReadsBack x := by
  unfold ReadsBack
  cases double x.text with
  | error fault => simp [Except.toOption]
  | ok found => simp [Except.toOption]

instance (x : Binary64) : Decidable (ReadsBack x) := decidable_of_iff _ readsBack_iff

/-- A double whose text is read back is read back in front of anything. -/
theorem reads_double {x : Binary64} (h : ReadsBack x) : Reads double x.text x := by
  intro rest hr
  unfold ReadsBack double numeric at h
  unfold double numeric
  cases hs : skipSpace x.text with
  | nil => simp [hs] at h
  | cons c s =>
    rw [hs] at h
    rw [skipSpace_longer hs]
    by_cases begins : c = '-' ∨ c.isDigit = true
    · simp only [if_pos begins] at h ⊢
      rcases hn : number (c :: s) with fault | ⟨n, s'⟩
      · simp [hn] at h
      · rw [hn] at h
        obtain ⟨y, hy, he⟩ := map_eq_ok.mp h
        cases he
        have longer := number_longer hr hn
        rw [List.cons_append, List.nil_append] at longer
        simp only [longer, hy, Except.map]
    · -- Nothing else is read as a double.
      simp [begins] at h

theorem pointed_eq_cons {c : Char} (h : c.isDigit = true) (cs : List Char) (point : Int) :
    ∃ d s, Binary64.pointed (c :: cs) point = d :: s ∧ d.isDigit = true := by
  simp only [Binary64.pointed]
  split_ifs with front whole
  · exact ⟨_, _, rfl, rfl⟩
  · exact ⟨c, _, rfl, h⟩
  · obtain ⟨p, hp⟩ := Nat.exists_eq_succ_of_ne_zero (show point.toNat ≠ 0 by omega)
    exact ⟨c, _, by rw [hp]; rfl, h⟩

/-- The decimal of a double begins with a digit. -/
theorem decimal_eq_cons (d : Binary64.Decimal) :
    ∃ c s, d.text = c :: s ∧ c.isDigit = true := by
  obtain ⟨c, cs, hd, digit, -⟩ := toDigits_eq_cons d.coefficient
  have digits : d.digits = c :: cs := hd
  unfold Binary64.Decimal.text
  rw [digits]
  split
  · exact pointed_eq_cons digit cs d.point
  · exact ⟨c, _, rfl, digit⟩

theorem starts_double (x : Binary64) : Starts x.text := by
  unfold Binary64.text
  cases x.negative with
  | true => exact starts_of_number (.inl rfl) _
  | false =>
    obtain ⟨c, s, hd, digit⟩ := decimal_eq_cons x.shortest
    rw [hd]
    exact starts_of_isDigit digit s

/-- A coordinate is read back, unless it is none or not finite. -/
theorem reads_coordinate {x? : Option Binary64}
    (h : ∀ x, x? = some x → x.isFinite = true → ReadsBack x) :
    Reads (optional double) (printOption printDouble x?) (x?.filter Binary64.isFinite) := by
  cases x? with
  | none => exact reads_null double
  | some x =>
    by_cases finite : x.isFinite = true
    · rw [Option.filter_some_pos finite, printOption, printDouble, if_pos finite]
      exact (reads_double (h x rfl finite)).some (starts_double x)
    · rw [Option.filter_some_neg (Bool.eq_false_iff.mpr finite), printOption, printDouble,
        if_neg finite]
      exact reads_null double

end Outbox.Json
