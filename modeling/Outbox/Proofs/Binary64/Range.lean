import Mathlib.Algebra.Order.Field.Power
import Mathlib.Algebra.Order.Field.Rat
import Mathlib.Tactic.FieldSimp
import Mathlib.Tactic.Linarith
import Mathlib.Tactic.NormNum
import Mathlib.Tactic.Positivity
import Mathlib.Tactic.Ring
import Outbox.Binary64.Arithmetic

/-!
# Where doubles end

A quotient is rounded to a finite double if it lies below the middle between the largest finite
magnitude and the next power of two, and to an infinity from there on (`isFinite_nearest`). So a
product can leave the finite doubles, and an integer next to a finite double, or a quotient by a
hundred, cannot.
-/

namespace Outbox.Binary64

variable {negative : Bool} {num den rest : Nat} {x y : Binary64}

/-- The power of two that is half of the unit of the largest finite magnitudes. -/
def halfScale : Nat := 970

/-- Half of the unit in which the largest finite magnitudes are counted. -/
def halfUnit : Nat := 2 ^ halfScale

/-- The largest finite magnitude. -/
def greatest : Nat := (2 ^ 54 - 2) * halfUnit

/-- The middle between the largest finite magnitude and the next power of two. -/
def overflow : Nat := (2 ^ 54 - 1) * halfUnit

theorem halfUnit_pos : 0 < halfUnit := Nat.two_pow_pos _

theorem halfUnit_cast : (halfUnit : ℚ) = 2 ^ (970 : Int) := by
  rw [halfUnit, Nat.cast_pow, Nat.cast_ofNat, ← zpow_natCast]
  rfl

theorem greatest_lt_overflow : greatest < overflow :=
  Nat.mul_lt_mul_of_pos_right (by decide) halfUnit_pos

theorem overflow_pos : 0 < overflow := Nat.zero_lt_of_lt greatest_lt_overflow

/-! ### Bits -/

theorem toNat_ofSign (h : rest < 2 ^ 63) :
    (ofSign negative rest).bits.toNat = (if negative then 2 ^ 63 else 0) + rest := by
  unfold ofSign
  rw [UInt64.toNat_ofNat']
  refine Nat.mod_eq_of_lt ?_
  split <;> omega

theorem field_ofSign (h : rest < 2 ^ 63) : (ofSign negative rest).field = rest / 2 ^ 52 := by
  unfold field
  rw [toNat_ofSign h]
  split <;> omega

theorem isFinite_ofSign (h : rest ≤ infinityBits) :
    (ofSign negative rest).isFinite = true ↔ rest < infinityBits := by
  unfold infinityBits at *
  rw [isFinite, field_ofSign (by omega), decide_eq_true_eq]
  omega

theorem isNaN_eq_false (h : x.isFinite = true) : x.isNaN = false := by
  have field : x.field ≠ 2047 := by simpa [isFinite] using h
  simp [isNaN, field]

theorem isInfinite_eq_false (h : x.isFinite = true) : x.isInfinite = false := by
  have field : x.field ≠ 2047 := by simpa [isFinite] using h
  simp [isInfinite, field]

/-! ### Rounding to an integer -/

theorem roundHalfEven_eq (n d : Nat) : roundHalfEven n d =
    if 2 * (n % d) < d then n / d else if d < 2 * (n % d) then n / d + 1 else n / d + n / d % 2 :=
  rfl

theorem roundHalfEven_bounds (n d : Nat) :
    n / d ≤ roundHalfEven n d ∧ roundHalfEven n d ≤ n / d + 1 := by
  rw [roundHalfEven_eq]
  split_ifs <;> omega

theorem le_roundHalfEven {n d c : Nat} (hd : 0 < d) (h : c * d ≤ n) : c ≤ roundHalfEven n d :=
  Nat.le_trans ((Nat.le_div_iff_mul_le hd).mpr h) (roundHalfEven_bounds n d).1

/-- A quotient is rounded to less than an even integer if it lies below it by more than a half. -/
theorem roundHalfEven_lt {n d c : Nat} (hd : 0 < d) (even : c % 2 = 0) :
    roundHalfEven n d < c ↔ 2 * n + d < 2 * (c * d) := by
  have split := Nat.div_add_mod n d
  have small := Nat.mod_lt n hd
  have bounds := roundHalfEven_bounds n d
  rcases Nat.lt_trichotomy (n / d + 1) c with below | here | above
  · have room : (n / d + 2) * d ≤ c * d := Nat.mul_le_mul_right d below
    rw [Nat.add_mul, Nat.mul_comm (n / d)] at room
    omega
  · -- the integer below is odd, so the middle goes up
    have product : c * d = d * (n / d) + d := by
      rw [← here, Nat.add_mul, Nat.mul_comm, Nat.one_mul]
    have odd : n / d % 2 = 1 := by omega
    rw [product, roundHalfEven_eq, odd]
    split_ifs <;> omega
  · have room : c * d ≤ n / d * d := Nat.mul_le_mul_right d (by omega)
    rw [Nat.mul_comm (n / d)] at room
    omega

theorem roundHalfEven_le {n d c : Nat} (hd : 0 < d) (h : n ≤ c * d) : roundHalfEven n d ≤ c := by
  rcases Nat.lt_or_ge (n / d) c with below | here
  · exact Nat.le_trans (roundHalfEven_bounds n d).2 below
  · -- the quotient is the integer
    obtain rfl : n = c * d := Nat.le_antisymm h ((Nat.le_div_iff_mul_le hd).mp here)
    simp [roundHalfEven_eq, hd]

/-! ### The unit of a quotient -/

/-- A quotient in the unit `b ^ e`, as a quotient again. -/
def inUnit (b num den : Nat) (e : Int) : Nat × Nat :=
  if 0 ≤ e then (num, den * b ^ e.toNat) else (num * b ^ (-e).toNat, den)

theorem inUnit_pos {b : Nat} (hb : 0 < b) (hden : 0 < den) (e : Int) :
    0 < (inUnit b num den e).2 := by
  unfold inUnit
  split
  · exact Nat.mul_pos hden (Nat.pow_pos hb)
  · exact hden

/-- A quotient is compared with numbers in any unit. -/
theorem inUnit_lt_iff {b : Nat} (hb : 0 < b) (num den c : Nat) (e : Int) :
    (inUnit b num den e).1 < c * (inUnit b num den e).2 ↔ (num : ℚ) < c * (b : ℚ) ^ e * den := by
  unfold inUnit
  split
  · next nat =>
    obtain ⟨k, rfl⟩ := Int.eq_ofNat_of_zero_le nat
    rw [← Nat.cast_lt (α := ℚ)]
    simp [mul_comm, mul_left_comm]
  · next neg =>
    obtain ⟨k, rfl⟩ : ∃ k : Nat, e = -k := ⟨(-e).toNat, by omega⟩
    have pos : (0 : ℚ) < (b : ℚ) ^ k := by positivity
    rw [← Nat.cast_lt (α := ℚ)]
    simp only [Nat.cast_mul, Nat.cast_pow, neg_neg, Int.toNat_natCast, zpow_neg, zpow_natCast]
    rw [← lt_div_iff₀ pos, div_eq_mul_inv, mul_right_comm]

theorem inUnit_lt_one_iff {b : Nat} (hb : 0 < b) (num den : Nat) (e : Int) :
    (inUnit b num den e).1 < (inUnit b num den e).2 ↔ (num : ℚ) < (b : ℚ) ^ e * den := by
  simpa using inUnit_lt_iff hb num den 1 e

/-- The quotient is at least `2 ^ 52` units, as the choice of the unit asks it. -/
def Fits (num den : Nat) (e : Int) : Prop :=
  if 0 ≤ e then den * 2 ^ e.toNat * 2 ^ 52 ≤ num else den * 2 ^ 52 ≤ num * 2 ^ (-e).toNat

instance (num den : Nat) (e : Int) : Decidable (Fits num den e) :=
  inferInstanceAs (Decidable (ite _ _ _))

theorem fits_iff (num den : Nat) (e : Int) :
    Fits num den e ↔ (2 : ℚ) ^ 52 * 2 ^ e * den ≤ num := by
  have below := inUnit_lt_iff two_pos num den (2 ^ 52) e
  have units : Fits num den e ↔ ¬ (inUnit 2 num den e).1 < 2 ^ 52 * (inUnit 2 num den e).2 := by
    unfold Fits inUnit
    split <;> simp [Nat.mul_comm]
  rw [units, below, not_lt]
  norm_num

theorem unitOf_eq {num den : Nat} {e : Int} (he : (num.log2 : Int) - den.log2 - 52 = e) :
    unitOf num den = max (if Fits num den e then e else e - 1) (-1074) := by
  subst he
  rfl

theorem two_zpow_log2_le (h : 0 < num) : (2 : ℚ) ^ (num.log2 : Int) ≤ num := by
  have := Nat.log2_self_le (Nat.pos_iff_ne_zero.mp h)
  exact_mod_cast this

theorem lt_two_zpow_log2 (num : Nat) : (num : ℚ) < 2 ^ (num.log2 + 1 : Int) := by
  have := Nat.lt_log2_self (n := num)
  exact_mod_cast this

theorem two_zpow_split (n : Nat) (a b : Int) : (2 : ℚ) ^ n * 2 ^ a * 2 ^ b = 2 ^ (n + a + b) := by
  rw [← zpow_natCast (2 : ℚ) n, ← zpow_add₀ two_ne_zero, ← zpow_add₀ two_ne_zero]

/-- The quotient is at least `2 ^ 52` and below `2 ^ 53` in a unit that is its own, unless this is
smaller than the least one. -/
theorem unitOf_spec (hnum : 0 < num) (hden : 0 < den) : ∃ e, unitOf num den = max e (-1074) ∧
    (2 : ℚ) ^ 52 * 2 ^ e * den ≤ num ∧ (num : ℚ) < 2 ^ 53 * 2 ^ e * den := by
  have low := two_zpow_log2_le hden
  have high := lt_two_zpow_log2 den
  generalize he : (num.log2 : Int) - den.log2 - 52 = e
  rw [unitOf_eq he]
  by_cases fits : Fits num den e
  · refine ⟨e, by rw [if_pos fits], (fits_iff num den e).mp fits, ?_⟩
    calc (num : ℚ) < 2 ^ (num.log2 + 1 : Int) := lt_two_zpow_log2 num
      _ = 2 ^ 53 * 2 ^ e * 2 ^ (den.log2 : Int) := by
        rw [two_zpow_split]
        congr 1
        omega
      _ ≤ 2 ^ 53 * 2 ^ e * den := by gcongr
  · refine ⟨e - 1, by rw [if_neg fits], ?_, ?_⟩
    · calc (2 : ℚ) ^ 52 * 2 ^ (e - 1) * den ≤ 2 ^ 52 * 2 ^ (e - 1) * 2 ^ (den.log2 + 1 : Int) := by
            gcongr
        _ = 2 ^ (num.log2 : Int) := by
          rw [two_zpow_split]
          congr 1
          omega
        _ ≤ num := two_zpow_log2_le hnum
    · rw [fits_iff, not_le] at fits
      refine fits.trans_eq ?_
      rw [zpow_sub_one₀ two_ne_zero]
      ring

/-- The quotient is below `2 ^ 53` units. -/
theorem lt_unitOf (hnum : 0 < num) (hden : 0 < den) :
    (num : ℚ) < 2 ^ 53 * 2 ^ unitOf num den * den := by
  obtain ⟨e, unit, -, below⟩ := unitOf_spec hnum hden
  refine below.trans_le ?_
  rw [unit]
  gcongr
  · norm_num
  · exact le_max_left e _

/-- The quotient is at least `2 ^ 52` units, unless the unit is the least one. -/
theorem unitOf_le (hnum : 0 < num) (hden : 0 < den) (h : -1074 < unitOf num den) :
    (2 : ℚ) ^ 52 * 2 ^ unitOf num den * den ≤ num := by
  obtain ⟨e, unit, above, -⟩ := unitOf_spec hnum hden
  have own : unitOf num den = e := by omega
  rwa [own]

/-! ### Finite results -/

theorem nearest_eq (hnum : 0 < num) (negative : Bool) (den : Nat) :
    nearest negative num den =
      ofSign negative (min ((unitOf num den + 1074).toNat * 2 ^ 52 +
        roundHalfEven (inUnit 2 num den (unitOf num den)).1
          (inUnit 2 num den (unitOf num den)).2)
        infinityBits) := by
  unfold nearest inUnit
  rw [if_neg (Nat.pos_iff_ne_zero.mp hnum)]
  simp only
  split <;> rfl

/-- The quotient is less than so many half units, as far as they can be compared with its own unit. -/
theorem lt_halfUnit {c : Nat} {e : Int} (h : (num : ℚ) < 2 ^ 53 * 2 ^ e * den) (he : e ≤ 970)
    (hc : 2 ^ 53 ≤ c) : num < c * halfUnit * den := by
  have bound : (num : ℚ) < ((c * halfUnit * den : Nat) : ℚ) := by
    refine h.trans_le ?_
    rw [Nat.cast_mul, Nat.cast_mul, halfUnit_cast]
    gcongr
    · exact_mod_cast hc
    · norm_num
  exact_mod_cast bound

theorem halfUnit_le {c : Nat} {e : Int} (h : (2 : ℚ) ^ 52 * 2 ^ e * den ≤ num) (he : 972 ≤ e)
    (hc : c ≤ 2 ^ 54) : c * halfUnit * den ≤ num := by
  have bound : ((c * halfUnit * den : Nat) : ℚ) ≤ num := by
    refine le_trans ?_ h
    rw [Nat.cast_mul, Nat.cast_mul, halfUnit_cast]
    have four : (2 : ℚ) ^ 52 * 2 ^ e = 2 ^ 54 * 2 ^ (e - 2) := by
      rw [zpow_sub₀ two_ne_zero]
      norm_num
      ring
    rw [four]
    gcongr
    · exact_mod_cast hc
    · norm_num
    · omega
  exact_mod_cast bound

/-- A quotient of less than so many units has at most so many units when it is rounded. -/
theorem roundHalfEven_inUnit_le (hden : 0 < den) {e : Int}
    (h : (num : ℚ) < 2 ^ 53 * 2 ^ e * den) :
    roundHalfEven (inUnit 2 num den e).1 (inUnit 2 num den e).2 ≤ 2 ^ 53 := by
  have some : 0 < (inUnit 2 num den e).2 := inUnit_pos two_pos hden e
  refine roundHalfEven_le some (Nat.le_of_lt ((inUnit_lt_iff two_pos num den (2 ^ 53) e).mpr ?_))
  rwa [Nat.cast_pow, Nat.cast_ofNat]

theorem le_roundHalfEven_inUnit (hden : 0 < den) {e : Int}
    (h : (2 : ℚ) ^ 52 * 2 ^ e * den ≤ num) :
    2 ^ 52 ≤ roundHalfEven (inUnit 2 num den e).1 (inUnit 2 num den e).2 := by
  have some : 0 < (inUnit 2 num den e).2 := inUnit_pos two_pos hden e
  refine le_roundHalfEven some (Nat.not_lt.mp fun less => ?_)
  have less := (inUnit_lt_iff two_pos num den (2 ^ 52) e).mp less
  rw [Nat.cast_pow, Nat.cast_ofNat] at less
  exact absurd h (not_le.mpr less)

/-- A quotient is rounded to a finite double exactly if it is below the middle between the largest
finite magnitude and the next power of two. -/
theorem isFinite_nearest (negative : Bool) (hden : 0 < den) :
    (nearest negative num den).isFinite = true ↔ num < overflow * den := by
  rcases Nat.eq_zero_or_pos num with rfl | hnum
  · have zero : (zero negative).isFinite = true := by cases negative <;> decide
    exact iff_of_true zero (Nat.mul_pos overflow_pos hden)
  · rw [nearest_eq hnum, isFinite_ofSign (Nat.min_le_right _ _), min_lt_iff]
    have least : -1074 ≤ unitOf num den := by
      obtain ⟨e, unit, -⟩ := unitOf_spec hnum hden
      omega
    have above := lt_unitOf hnum hden
    have below := unitOf_le hnum hden
    generalize unitOf num den = e at *
    rcases Int.lt_trichotomy e 971 with low | rfl | high
    · have small := roundHalfEven_inUnit_le hden above
      refine iff_of_true ?_ (lt_halfUnit above (by omega) (by decide))
      unfold infinityBits
      omega
    · -- here the significand decides
      have unit : inUnit 2 num den 971 = (num, den * (2 * halfUnit)) := by
        have scale : (971 : Int).toNat = halfScale + 1 := rfl
        rw [inUnit, if_pos (by decide), scale, Nat.pow_succ', halfUnit]
      have some : 0 < (inUnit 2 num den 971).2 := inUnit_pos two_pos hden 971
      rw [unit] at some ⊢
      have bits : ∀ m, (971 + 1074 : Int).toNat * 2 ^ 52 + m < infinityBits ↔ m < 2 ^ 53 := by
        intro m
        unfold infinityBits
        omega
      have half : den * (2 * halfUnit) = 2 * (halfUnit * den) := by ring
      rw [bits, roundHalfEven_lt some (by decide), overflow, half, Nat.mul_assoc]
      omega
    · have least := below (by omega)
      have large := le_roundHalfEven_inUnit hden least
      refine iff_of_false ?_ (Nat.not_lt.mpr (halfUnit_le least high (by decide)))
      unfold infinityBits
      omega

theorem nearest_eq_ofSign (negative : Bool) (num den : Nat) :
    ∃ rest ≤ infinityBits, nearest negative num den = ofSign negative rest := by
  rcases Nat.eq_zero_or_pos num with rfl | hnum
  · exact ⟨0, Nat.zero_le _, rfl⟩
  · exact ⟨_, Nat.min_le_right _ _, nearest_eq hnum negative den⟩

/-- What is not rounded to a finite double is rounded to an infinity. -/
theorem nearest_infinite (h : (nearest negative num den).isFinite = false) :
    nearest negative num den = infinity negative := by
  obtain ⟨rest, le, eq⟩ := nearest_eq_ofSign negative num den
  rw [eq, Bool.eq_false_iff, Ne, isFinite_ofSign le, not_lt] at h
  rw [eq, infinity, Nat.le_antisymm le h]

/-! ### Arithmetic -/

theorem magnitude_pos (x : Binary64) : 0 < x.magnitude.2 := by
  unfold magnitude
  split
  · exact Nat.one_pos
  · exact Nat.two_pow_pos _

theorem significand_lt (x : Binary64) : x.significand < 2 ^ 53 := by
  have := Nat.mod_lt x.bits.toNat (Nat.two_pow_pos 52)
  unfold significand fraction
  split <;> omega

/-- A finite double is at most the largest one. -/
theorem magnitude_le (h : x.isFinite = true) : x.magnitude.1 ≤ greatest * x.magnitude.2 := by
  have field : x.field ≠ 2047 := by simpa [isFinite] using h
  have bits : x.field < 2 ^ 11 := Nat.mod_lt _ (Nat.two_pow_pos 11)
  have significand := x.significand_lt
  unfold magnitude
  split
  · next nat =>
    have scale : x.scale.toNat ≤ halfScale + 1 := by
      unfold Binary64.scale halfScale
      omega
    have power : 2 ^ x.scale.toNat ≤ 2 * halfUnit := by
      rw [halfUnit, ← Nat.pow_succ']
      exact Nat.pow_le_pow_right (by decide) scale
    have unit : greatest = (2 ^ 53 - 1) * (2 * halfUnit) := by
      unfold greatest
      omega
    simp only [Nat.mul_one]
    rw [unit]
    exact Nat.mul_le_mul (by omega) power
  · have large : 2 ^ 53 ≤ greatest :=
      Nat.le_trans (by decide) (Nat.le_mul_of_pos_right _ halfUnit_pos)
    have some := Nat.le_mul_of_pos_right greatest (Nat.two_pow_pos (-x.scale).toNat)
    simp only
    omega

theorem hundred_fields : hundred.isFinite = true ∧ hundred.isZero = false ∧
    hundred.magnitude = (100 * 2 ^ 46, 2 ^ 46) := by
  decide +kernel

/-- A hundred times a finite double is finite if it is below the middle after the largest one. -/
theorem isFinite_mul_hundred (h : x.isFinite = true) :
    (x.mul hundred).isFinite = true ↔ 100 * x.magnitude.1 < overflow * x.magnitude.2 := by
  obtain ⟨finite, -, magnitude⟩ := hundred_fields
  have product : x.mul hundred = nearest (x.negative != hundred.negative)
      (x.magnitude.1 * (100 * 2 ^ 46)) (x.magnitude.2 * 2 ^ 46) := by
    simp [mul, isNaN_eq_false, isInfinite_eq_false, h, finite, magnitude]
  rw [product, isFinite_nearest _ (Nat.mul_pos x.magnitude_pos (Nat.two_pow_pos 46)),
    ← Nat.mul_assoc, ← Nat.mul_assoc, Nat.mul_lt_mul_right (Nat.two_pow_pos 46),
    Nat.mul_comm x.magnitude.1]

/-- A product that leaves the finite doubles is an infinity. -/
theorem mul_hundred_infinite (h : x.isFinite = true) (leaves : (x.mul hundred).isFinite = false) :
    ∃ negative, x.mul hundred = infinity negative := by
  obtain ⟨finite, -, -⟩ := hundred_fields
  have product : x.mul hundred = nearest (x.negative != hundred.negative)
      (x.magnitude.1 * hundred.magnitude.1) (x.magnitude.2 * hundred.magnitude.2) := by
    simp [mul, isNaN_eq_false, isInfinite_eq_false, h, finite]
  rw [product] at leaves ⊢
  exact ⟨_, nearest_infinite leaves⟩

/-- The integer next to a finite double is finite. -/
theorem isFinite_roundHalfAway (h : x.isFinite = true) : x.roundHalfAway.isFinite = true := by
  have le := magnitude_le h
  have pos := x.magnitude_pos
  rw [roundHalfAway, if_pos h, isFinite_nearest _ Nat.one_pos, Nat.mul_one]
  refine Nat.lt_of_le_of_lt ?_ greatest_lt_overflow
  refine Nat.lt_succ_iff.mp ((Nat.div_lt_iff_lt_mul (by omega)).mpr ?_)
  -- only the order counts, not the number
  generalize greatest = bound at le ⊢
  nlinarith

/-- A hundredth of a finite double is finite. -/
theorem isFinite_div_hundred (h : x.isFinite = true) : (x.div hundred).isFinite = true := by
  obtain ⟨finite, nonzero, magnitude⟩ := hundred_fields
  have quotient : x.div hundred = nearest (x.negative != hundred.negative)
      (x.magnitude.1 * 2 ^ 46) (x.magnitude.2 * (100 * 2 ^ 46)) := by
    simp [div, isNaN_eq_false, isInfinite_eq_false, h, finite, nonzero, magnitude]
  have pos := x.magnitude_pos
  have le := magnitude_le h
  have less := greatest_lt_overflow
  rw [quotient, isFinite_nearest _ (Nat.mul_pos pos (by decide))]
  generalize greatest = bound at le less
  generalize overflow = limit at less ⊢
  nlinarith

end Outbox.Binary64
