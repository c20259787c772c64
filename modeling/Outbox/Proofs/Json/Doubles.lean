import Mathlib.Data.List.TakeWhile
import Outbox.Proofs.Binary64.Range
import Outbox.Proofs.Json.Numerals

/-!
# Doubles are written as numbers

The shortest decimal of a double is zero for a zero only, so its digits begin with a zero in no other
case (`shortest_pos`). With a point or a power of ten they are the text of a number
(`literalText_double`).
-/

namespace Outbox.Binary64

variable {num den : Nat} {x : Binary64} {d : Decimal}

/-! ### The shortest decimal -/

theorem le_pow_length (h : 0 < num) : 10 ^ ((Nat.toDigits 10 num).length - 1) ≤ num := by
  rcases Nat.eq_zero_or_pos ((Nat.toDigits 10 num).length - 1) with one | some
  · rw [one]
    exact h
  · refine Nat.not_lt.mp fun less => ?_
    have := (Nat.length_toDigits_le_iff (b := 10) (by decide) some).mpr less
    omega

theorem lt_pow_length (num : Nat) : num < 10 ^ (Nat.toDigits 10 num).length :=
  (Nat.length_toDigits_le_iff (by decide) Nat.length_toDigits_pos).mp (Nat.le_refl _)

theorem pointOf_eq {k : Int}
    (hk : ((Nat.toDigits 10 num).length : Int) - (Nat.toDigits 10 den).length = k) :
    pointOf num den =
      if (inUnit 10 num den k).1 < (inUnit 10 num den k).2 then k else k + 1 := by
  subst hk
  unfold pointOf inUnit
  simp only
  split <;> simp

/-- The first digit of a quotient is not zero. -/
theorem le_pointOf (hnum : 0 < num) : (10 : ℚ) ^ (pointOf num den - 1) * den ≤ num := by
  have low := le_pow_length hnum
  have high := lt_pow_length den
  have some := Nat.length_toDigits_pos (b := 10) (n := num)
  generalize hk : ((Nat.toDigits 10 num).length : Int) - (Nat.toDigits 10 den).length = k
  have below := inUnit_lt_one_iff (b := 10) (by decide) num den k
  rw [pointOf_eq hk]
  split
  · calc (10 : ℚ) ^ (k - 1) * den ≤ 10 ^ (k - 1) * 10 ^ (Nat.toDigits 10 den).length := by
          gcongr
          exact_mod_cast high.le
      _ = 10 ^ ((Nat.toDigits 10 num).length - 1) := by
        rw [← zpow_natCast, ← zpow_natCast, ← zpow_add₀ (by norm_num)]
        congr 1
        omega
      _ ≤ num := by exact_mod_cast low
  · next above =>
    rw [below, Nat.cast_ofNat, not_lt] at above
    rwa [add_sub_cancel_right]

theorem magnitude_fst_pos (h : x.isZero = false) : 0 < x.magnitude.1 := by
  have some : 0 < x.significand := by
    have := Nat.two_pow_pos 52
    unfold significand
    split
    · next least =>
      simp only [isZero, least, decide_true, Bool.true_and, decide_eq_false_iff_not] at h
      exact Nat.pos_of_ne_zero h
    · omega
  unfold magnitude
  split
  · exact Nat.mul_pos some (Nat.two_pow_pos _)
  · exact some

/-- A neighbour is the quotient in the unit of its last digit, or the next number. -/
theorem le_neighbours {count : Nat} {e : Int} (hd : d ∈ neighbours x count)
    (he : pointOf x.magnitude.1 x.magnitude.2 - count = e) :
    (inUnit 10 x.magnitude.1 x.magnitude.2 e).1 / (inUnit 10 x.magnitude.1 x.magnitude.2 e).2 ≤
      d.coefficient := by
  subst he
  unfold neighbours at hd
  unfold inUnit
  simp only at hd
  split_ifs at hd ⊢ <;> rcases List.mem_pair.mp hd with rfl | rfl <;>
    first | exact Nat.le_refl _ | exact Nat.le_succ _

theorem neighbours_pos {count : Nat} (h : x.isZero = false) (hc : 0 < count)
    (hd : d ∈ neighbours x count) : 0 < d.coefficient := by
  generalize he : pointOf x.magnitude.1 x.magnitude.2 - count = e
  have first := @le_pointOf _ x.magnitude.2 (magnitude_fst_pos h)
  refine Nat.lt_of_lt_of_le (Nat.div_pos (Nat.not_lt.mp fun less => ?_)
    (inUnit_pos (by decide) x.magnitude_pos e)) (le_neighbours hd he)
  rw [inUnit_lt_one_iff (by decide), Nat.cast_ofNat] at less
  refine absurd (first.trans_lt less) (not_lt.mpr ?_)
  gcongr
  · norm_num
  · omega

theorem neighbours_ne_nil (x : Binary64) (count : Nat) : neighbours x count ≠ [] := by
  unfold neighbours
  simp only
  split_ifs <;> exact List.cons_ne_nil _ _

/-- Only zeros at the end are left out. -/
theorem normal_pos (h : 0 < d.coefficient) : 0 < d.normal.coefficient := by
  obtain ⟨c, cs, digits, first⟩ := Json.toDigits_pos h
  have low := le_pow_length h
  have kept : ((Nat.toDigits 10 d.coefficient).reverse.takeWhile (· == '0')).length ≤
      (Nat.toDigits 10 d.coefficient).length - 1 := by
    have stop : [c].takeWhile (· == '0') = [] := by simp [first]
    rw [digits, List.reverse_cons, List.takeWhile_append, stop]
    have short := (List.takeWhile_prefix (l := cs.reverse) (· == '0')).length_le
    split
    · simp
    · simpa using short
  exact Nat.div_pos (Nat.le_trans (Nat.pow_le_pow_right (by decide) kept) low)
    (Nat.pow_pos (by decide))

theorem shortest_pos (h : x.isZero = false) : 0 < x.shortest.coefficient := by
  unfold shortest
  rw [if_neg (by simp [h])]
  refine normal_pos ?_
  cases found : (List.range 17).findSome? fun i => readBack? x (i + 1) with
  | some d =>
    obtain ⟨i, -, hi⟩ := List.exists_of_findSome?_eq_some found
    exact neighbours_pos h (Nat.succ_pos i) (List.mem_of_find?_eq_some hi)
  | none =>
    obtain ⟨d, ds, hd⟩ := List.exists_cons_of_ne_nil (neighbours_ne_nil x 17)
    rw [hd]
    have some : d ∈ neighbours x 17 := by
      rw [hd]
      exact List.mem_cons_self
    exact neighbours_pos h (by decide) some

end Outbox.Binary64

namespace Outbox.Json

open Binary64 (Decimal)

variable {c : Char} {cs : List Char} {d : Decimal} {x : Binary64}

/-! ### Their texts -/

/-- The text is a number without a sign. -/
inductive UnsignedText : List Char → Prop
  | parts {whole : List Nat} {fraction : Option (List Nat)} {exponent : Option (Bool × List Nat)}
      {w f e : List Char} (hw : WholeText whole w) (hf : FractionText fraction f)
      (he : ExponentText exponent e) : UnsignedText (w ++ (f ++ e))

theorem UnsignedText.literal {t : List Char} (h : UnsignedText t) :
    (∃ l, LiteralText l t) ∧ ∃ l, LiteralText l ('-' :: t) := by
  obtain ⟨hw, hf, he⟩ := h
  exact ⟨⟨_, .plain hw hf he⟩, ⟨_, .minus hw hf he⟩⟩

theorem DigitsText.of_digits (some : cs ≠ []) (h : ∀ c ∈ cs, c.isDigit = true) :
    DigitsText (cs.map digitValue) cs := ⟨some, h, rfl⟩

theorem isDigit_zeros (n : Nat) : ∀ c ∈ List.replicate n '0', c.isDigit = true := by
  intro c hc
  rw [List.eq_of_mem_replicate hc]
  rfl

theorem digitsText_zero : DigitsText [0] ['0'] :=
  ⟨List.cons_ne_nil _ _, isDigit_zeros 1, rfl⟩

theorem pointed_zero : UnsignedText (Binary64.pointed ['0'] 1) :=
  .parts .zero (.some digitsText_zero) .none

/-- Digits that do not begin with a zero are a number with a point at any position. -/
theorem pointed_text (h : ∀ a ∈ c :: cs, a.isDigit = true) (first : c ≠ '0') (point : Int) :
    UnsignedText (Binary64.pointed (c :: cs) point) := by
  simp only [Binary64.pointed]
  split_ifs with front whole
  · have fraction : ∀ a ∈ List.replicate (-point).toNat '0' ++ c :: cs, a.isDigit = true :=
      List.forall_mem_append.mpr ⟨isDigit_zeros _, h⟩
    have text := UnsignedText.parts .zero (.some (.of_digits (by simp) fraction)) .none
    simpa using text
  · have all : ∀ a ∈ c :: (cs ++ List.replicate (point.toNat - (c :: cs).length) '0'),
        a.isDigit = true := by
      rw [← List.cons_append]
      exact List.forall_mem_append.mpr ⟨h, isDigit_zeros _⟩
    have text := UnsignedText.parts (.digits (.of_digits (List.cons_ne_nil _ _) all) first)
      (.some digitsText_zero) .none
    simpa using text
  · obtain ⟨p, hp⟩ := Nat.exists_eq_succ_of_ne_zero (show point.toNat ≠ 0 by omega)
    have front : ∀ a ∈ c :: cs.take p, a.isDigit = true :=
      fun a ha => h a (List.mem_of_mem_take (i := p + 1) ha)
    have back : cs.drop p ≠ [] := by
      rw [List.length_cons] at whole
      rw [Ne, List.drop_eq_nil_iff]
      omega
    have text := UnsignedText.parts (.digits (.of_digits (List.cons_ne_nil _ _) front) first)
      (.some (.of_digits back fun a ha => h a (.tail c (List.mem_of_mem_drop ha)))) .none
    simpa [hp] using text

theorem scientific_text (h : ∀ a ∈ c :: cs, a.isDigit = true) (first : c ≠ '0') (point : Int) :
    UnsignedText (Binary64.scientific (c :: cs) point) := by
  have whole : WholeText _ [c] := .digits (.of_digits nofun fun a ha => h a (by simp_all)) first
  have power := DigitsText.of_digits (List.length_pos_iff.mp Nat.length_toDigits_pos)
    (isDigit_toDigits (point - 1).natAbs)
  obtain ⟨exponent, he⟩ : ∃ exponent, ExponentText exponent
      (['e', if point - 1 < 0 then '-' else '+'] ++ Nat.toDigits 10 (point - 1).natAbs) := by
    split
    · exact ⟨_, .minus (.inl rfl) power⟩
    · exact ⟨_, .plus (.inl rfl) power⟩
  obtain ⟨fraction, hf⟩ : ∃ fraction, FractionText fraction
      (if (c :: cs).length ≤ 1 then [] else '.' :: (c :: cs).drop 1) := by
    split
    · exact ⟨_, .none⟩
    · next long =>
      have some : cs ≠ [] := by
        rintro rfl
        exact long (Nat.le_refl 1)
      exact ⟨_, .some (.of_digits some fun a ha => h a (.tail c ha))⟩
  have text := UnsignedText.parts whole hf he
  rw [Binary64.scientific]
  simpa using text

theorem unsignedText_decimal (h : d = ⟨0, 0⟩ ∨ 0 < d.coefficient) : UnsignedText d.text := by
  rcases h with rfl | some
  · exact pointed_zero
  · obtain ⟨c, cs, digits, first⟩ := toDigits_pos some
    have all := isDigit_toDigits d.coefficient
    rw [digits] at all
    rw [Decimal.text, Decimal.digits, digits]
    split
    · exact pointed_text all first d.point
    · exact scientific_text all first d.point

/-- Every double is written as a number. -/
theorem literalText_double (x : Binary64) : ∃ l, LiteralText l x.text := by
  have decimal : UnsignedText x.shortest.text := by
    cases zero : x.isZero with
    | true =>
      have shortest : x.shortest = ⟨0, 0⟩ := by simp [Binary64.shortest, zero]
      exact unsignedText_decimal (.inl shortest)
    | false => exact unsignedText_decimal (.inr (Binary64.shortest_pos zero))
  unfold Binary64.text
  cases x.negative with
  | true => exact decimal.literal.2
  | false => exact decimal.literal.1

end Outbox.Json
