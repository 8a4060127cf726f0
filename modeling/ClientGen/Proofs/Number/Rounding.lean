import ClientGen.Number.Binary64
import Mathlib.Algebra.Order.Field.Power
import Mathlib.Data.Int.Log
import Mathlib.Data.Rat.Floor
import Mathlib.Tactic.FieldSimp
import Mathlib.Tactic.Positivity

/-!
Rounding to binary numbers. The number nearest to a ratio depends on the ratio alone, not on the numerator and
denominator that it is given by (`ofRatio_mul`), so a power of ten may stand in the digits of a decimal as well as in
its exponent (`ofDecimal_mul_pow`). A number of the format is the nearest one to its own ratio (`ofRatio_exact`), and
what is rounded is of the format (`isProper_ofRatio`).
-/

namespace ClientGen.Binary64

/-- What the significand and the exponent of a finite number satisfy, so that a number has one representation. -/
structure IsNormal (m : Nat) (e : Int) : Prop where
  below : m < 2 ^ 53
  above_lowest : lowest ≤ e
  below_highest : e ≤ highest
  full : 2 ^ 52 ≤ m ∨ e = lowest

/-- A finite number of the format. -/
def IsProper : Binary64 → Prop
  | finite _ m e => IsNormal m e
  | _ => False

variable {num den : Nat}

private theorem le_ratio_iff (denPositive : 0 < den) (k : Int) :
    (2 : ℚ) ^ k ≤ num / den ↔ if 0 ≤ k then den <<< k.toNat ≤ num else den ≤ num <<< (-k).toNat := by
  have cast : (0 : ℚ) < den := by exact_mod_cast denPositive
  rw [le_div_iff₀ cast]
  split
  case isTrue whole =>
    obtain ⟨n, rfl⟩ := Int.eq_ofNat_of_zero_le whole
    rw [Int.toNat_natCast, Nat.shiftLeft_eq, zpow_natCast, mul_comm]
    exact_mod_cast Iff.rfl
  case isFalse part =>
    obtain ⟨n, n_eq⟩ := Int.eq_ofNat_of_zero_le (show 0 ≤ -k by omega)
    obtain rfl : k = -n := by omega
    rw [neg_neg, Int.toNat_natCast, Nat.shiftLeft_eq, zpow_neg, zpow_natCast, inv_mul_le_iff₀ (by positivity), mul_comm]
    exact_mod_cast Iff.rfl

/-- A binary logarithm is told by the powers on both sides. -/
private theorem log_eq {r : ℚ} {k : Int} (low : (2 : ℚ) ^ k ≤ r) (high : r < 2 ^ (k + 1)) : Int.log 2 r = k := by
  have positive : 0 < r := lt_of_lt_of_le (by positivity) low
  have below := (Int.zpow_le_iff_le_log one_lt_two positive).mp low
  have above := (Int.lt_zpow_iff_log_lt one_lt_two positive).mp high
  omega

private theorem log2_bounds {n : Nat} (positive : 0 < n) :
    (2 : ℚ) ^ (n.log2 : Int) ≤ n ∧ (n : ℚ) < 2 ^ ((n.log2 : Int) + 1) := by
  have low := Nat.log2_self_le (Nat.ne_of_gt positive)
  have high : n < 2 ^ (n.log2 + 1) := Nat.lt_log2_self
  exact ⟨by exact_mod_cast low, by exact_mod_cast high⟩

/-- The whole part of the binary logarithm is just that. -/
theorem ratioLog2_eq_log (positive : 0 < num) (denPositive : 0 < den) :
    ratioLog2 num den = Int.log 2 ((num : ℚ) / den) := by
  obtain ⟨numLow, numHigh⟩ := log2_bounds positive
  obtain ⟨denLow, denHigh⟩ := log2_bounds denPositive
  have denCast : (0 : ℚ) < den := by exact_mod_cast denPositive
  -- the ratio lies between two powers whose exponents differ by two
  have low : (2 : ℚ) ^ ((num.log2 : Int) - den.log2 - 1) ≤ num / den := by
    rw [sub_sub, zpow_sub₀ two_ne_zero]
    gcongr
  have high : (num : ℚ) / den < 2 ^ ((num.log2 : Int) - den.log2 + 1) := by
    rw [sub_add_eq_add_sub, zpow_sub₀ two_ne_zero]
    gcongr
  have reached := @le_ratio_iff num den denPositive ((num.log2 : Int) - den.log2)
  rw [ratioLog2]
  by_cases above : (2 : ℚ) ^ ((num.log2 : Int) - den.log2) ≤ num / den
  · rw [if_pos (reached.mp above)]
    exact (log_eq above high).symm
  · rw [if_neg (above ∘ reached.mpr)]
    refine (log_eq low ?_).symm
    rw [sub_add_cancel]
    exact not_le.mp above

/-! ### Ratios given in several ways -/

private theorem roundedQuotient_mul {c : Nat} (positive : 0 < c) (num den : Nat) :
    roundedQuotient (c * num) (c * den) = roundedQuotient num den := by
  have double : 2 * (c * (num % den)) = c * (2 * (num % den)) := Nat.mul_left_comm 2 c _
  simp only [roundedQuotient, Nat.mul_div_mul_left num den positive, Nat.mul_mod_mul_left, double,
    Nat.mul_lt_mul_left positive]

/-- The nearest number depends on the ratio alone. -/
theorem ofRatio_mul {c : Nat} (positive : 0 < c) (negative : Bool) (num : Nat) (denPositive : 0 < den) :
    ofRatio negative (c * num) (c * den) = ofRatio negative num den := by
  rcases Nat.eq_zero_or_pos num with rfl | numPositive
  · rfl
  · have cast : (c : ℚ) ≠ 0 := by exact_mod_cast Nat.ne_of_gt positive
    have sameLog : ratioLog2 (c * num) (c * den) = ratioLog2 num den := by
      rw [ratioLog2_eq_log (Nat.mul_pos positive numPositive) (Nat.mul_pos positive denPositive),
        ratioLog2_eq_log numPositive denPositive, Nat.cast_mul, Nat.cast_mul, mul_div_mul_left _ _ cast]
    have shifted (a n : Nat) : (c * a) <<< n = c * (a <<< n) := by rw [Nat.shiftLeft_eq, Nat.shiftLeft_eq, Nat.mul_assoc]
    have some : c * num ≠ 0 := Nat.ne_of_gt (Nat.mul_pos positive numPositive)
    simp only [ofRatio, if_neg some, if_neg (Nat.ne_of_gt numPositive), sameLog, shifted, roundedQuotient_mul positive]

private theorem ofRatio_congr {a b c d : Nat} (negative : Bool) (bPositive : 0 < b) (dPositive : 0 < d)
    (same : (a : ℚ) / b = c / d) : ofRatio negative a b = ofRatio negative c d := by
  have bCast : (b : ℚ) ≠ 0 := by exact_mod_cast Nat.ne_of_gt bPositive
  have dCast : (d : ℚ) ≠ 0 := by exact_mod_cast Nat.ne_of_gt dPositive
  have cross : d * a = b * c := by
    rw [div_eq_div_iff bCast dCast] at same
    rw [mul_comm d, mul_comm b]
    exact_mod_cast same
  rw [← ofRatio_mul dPositive negative a bPositive, cross, mul_comm d b, ofRatio_mul bPositive negative c dPositive]

/-! ### Numbers of the format -/

private theorem log_significand {m : Nat} {e : Int} (positive : 0 < m) : Int.log 2 ((m : ℚ) * 2 ^ e) = m.log2 + e := by
  obtain ⟨low, high⟩ := log2_bounds positive
  refine log_eq ?_ ?_
  · rw [zpow_add₀ two_ne_zero]
    gcongr
  · rw [add_right_comm, zpow_add₀ two_ne_zero]
    gcongr

private theorem log2_of_normal {m : Nat} {e : Int} (normal : IsNormal m e) (positive : 0 < m) :
    max ((m.log2 : Int) + e - 52) lowest = e := by
  have high : m.log2 < 53 := (Nat.log2_lt (Nat.ne_of_gt positive)).mpr normal.below
  have above := normal.above_lowest
  rcases normal.full with full | rfl
  · have low : ¬ m.log2 < 52 := fun less => absurd ((Nat.log2_lt (Nat.ne_of_gt positive)).mp less) (by omega)
    omega
  · omega

/-- What a ratio over a power of two is rounded to, as the rounded quotient of two whole numbers. -/
private theorem scaled_quotient (num : Nat) (denPositive : 0 < den) (e : Int) : ∃ a b : Nat, 0 < b ∧
    (a : ℚ) / b = num / den / 2 ^ e ∧
    (if 0 ≤ e then roundedQuotient num (den <<< e.toNat) else roundedQuotient (num <<< (-e).toNat) den) =
      roundedQuotient a b := by
  by_cases whole : 0 ≤ e
  · obtain ⟨n, rfl⟩ := Int.eq_ofNat_of_zero_le whole
    refine ⟨num, den <<< n, by rw [Nat.shiftLeft_eq]; positivity, ?_, by rw [if_pos whole, Int.toNat_natCast]⟩
    rw [Nat.shiftLeft_eq, zpow_natCast, div_div]
    push_cast
    rfl
  · obtain ⟨n, n_eq⟩ := Int.eq_ofNat_of_zero_le (show 0 ≤ -e by omega)
    obtain rfl : e = -n := by omega
    refine ⟨num <<< n, den, denPositive, ?_, by rw [if_neg whole, neg_neg, Int.toNat_natCast]⟩
    rw [Nat.shiftLeft_eq, zpow_neg, zpow_natCast, div_inv_eq_mul, div_mul_eq_mul_div]
    push_cast
    rfl

private theorem roundedQuotient_exact {den : Nat} (positive : 0 < den) (m : Nat) : roundedQuotient (m * den) den = m := by
  rw [roundedQuotient, Nat.mul_mod_left, Nat.mul_div_cancel m positive, if_pos (by omega)]

/-- A number of the format is the nearest one to its own ratio. -/
theorem ofRatio_exact {m : Nat} {e : Int} (normal : IsNormal m e) (positive : 0 < m) (negative : Bool)
    (denPositive : 0 < den) (same : (num : ℚ) / den = m * 2 ^ e) : ofRatio negative num den = finite negative m e := by
  have numPositive : 0 < num := by
    by_contra none
    obtain rfl : num = 0 := by omega
    have zero : (m : ℚ) * 2 ^ e = 0 := by rw [← same, Nat.cast_zero, zero_div]
    exact absurd zero (by positivity)
  have exponent : max (ratioLog2 num den - 52) lowest = e := by
    rw [ratioLog2_eq_log numPositive denPositive, same, log_significand positive, log2_of_normal normal positive]
  obtain ⟨a, b, bPositive, scaled, quotient⟩ := scaled_quotient num denPositive e
  have product : a = m * b := by
    have bCast : (b : ℚ) ≠ 0 := by exact_mod_cast Nat.ne_of_gt bPositive
    rw [same, mul_div_cancel_right₀ _ (by positivity), div_eq_iff bCast] at scaled
    exact_mod_cast scaled
  rw [product, roundedQuotient_exact bPositive] at quotient
  have small : m ≠ Nat.pow 2 53 := Nat.ne_of_lt normal.below
  have finite : ¬ highest < e := not_lt.mpr normal.below_highest
  simp only [ofRatio, if_neg (Nat.ne_of_gt numPositive), exponent, quotient, if_neg small, if_neg finite]

private theorem roundedQuotient_bounds {a b : Nat} (positive : 0 < b) (k : Nat) :
    (a < k * b → roundedQuotient a b ≤ k) ∧ (k * b ≤ a → k ≤ roundedQuotient a b) := by
  have near : a / b ≤ roundedQuotient a b ∧ roundedQuotient a b ≤ a / b + 1 := by
    unfold roundedQuotient
    dsimp only
    split_ifs <;> omega
  constructor
  · intro below
    have less := (Nat.div_lt_iff_lt_mul positive).mpr below
    omega
  · intro above
    exact le_trans ((Nat.le_div_iff_mul_le positive).mpr above) near.1

/-- What is rounded is of the format, unless it is too large. -/
theorem isProper_ofRatio (negative : Bool) (num : Nat) (denPositive : 0 < den) :
    IsProper (ofRatio negative num den) ∨ ofRatio negative num den = infinite negative := by
  rcases Nat.eq_zero_or_pos num with rfl | numPositive
  · exact .inl ⟨by norm_num, le_rfl, by decide, .inr rfl⟩
  set e := max (ratioLog2 num den - 52) lowest with e_eq
  obtain ⟨a, b, bPositive, scaled, quotient⟩ := scaled_quotient num denPositive e
  have bCast : (0 : ℚ) < b := by exact_mod_cast bPositive
  have ratioPositive : (0 : ℚ) < num / den := by positivity
  have log := ratioLog2_eq_log numPositive denPositive
  have high : roundedQuotient a b ≤ 2 ^ 53 := by
    refine (roundedQuotient_bounds bPositive (2 ^ 53)).1 ?_
    have below : (a : ℚ) / b < 2 ^ 53 := by
      rw [scaled, div_lt_iff₀ (by positivity), ← zpow_natCast, ← zpow_add₀ two_ne_zero]
      exact (Int.lt_zpow_iff_log_lt one_lt_two ratioPositive).mpr (by push_cast; omega)
    rw [div_lt_iff₀ bCast] at below
    exact_mod_cast below
  have low : 2 ^ 52 ≤ roundedQuotient a b ∨ e = lowest := by
    rcases max_choice (ratioLog2 num den - 52) lowest with inside | least
    · refine .inl ((roundedQuotient_bounds bPositive (2 ^ 52)).2 ?_)
      have above : (2 : ℚ) ^ 52 ≤ a / b := by
        rw [scaled, le_div_iff₀ (by positivity), ← zpow_natCast, ← zpow_add₀ two_ne_zero]
        exact (Int.zpow_le_iff_le_log one_lt_two ratioPositive).mpr (by push_cast; omega)
      rw [le_div_iff₀ bCast] at above
      exact_mod_cast above
    · exact .inr (e_eq.trans least)
  have atLeast : lowest ≤ e := le_max_right _ _
  rw [ofRatio, if_neg (Nat.ne_of_gt numPositive)]
  simp only [← e_eq, quotient, Nat.pow_eq]
  by_cases full : roundedQuotient a b = 2 ^ 53
  · rw [if_pos full]
    by_cases large : highest < e + 1
    · exact .inr (if_pos large)
    · refine .inl ?_
      rw [if_neg large]
      exact ⟨by norm_num, by omega, not_lt.mp large, .inl le_rfl⟩
  · rw [if_neg full]
    by_cases large : highest < e
    · exact .inr (if_pos large)
    · refine .inl ?_
      rw [if_neg large]
      exact ⟨lt_of_le_of_ne high full, atLeast, not_lt.mp large, low⟩

/-! ### Decimals -/

/-- The number of digits of a positive number lies between the powers of ten around it. -/
private theorem digits_bounds {n : Nat} (positive : 0 < n) :
    (10 : ℚ) ^ (((Nat.toDigits 10 n).length : Int) - 1) ≤ n ∧ (n : ℚ) < 10 ^ ((Nat.toDigits 10 n).length : Int) := by
  have some : 0 < (Nat.toDigits 10 n).length := List.length_pos_iff.mpr Nat.toDigits_ne_nil
  have high : n < 10 ^ (Nat.toDigits 10 n).length := (Nat.length_toDigits_le_iff (by decide) some).mp le_rfl
  refine ⟨?_, by exact_mod_cast high⟩
  obtain ⟨k, k_eq⟩ := Nat.exists_eq_succ_of_ne_zero (Nat.ne_of_gt some)
  rw [k_eq, Nat.cast_succ, add_sub_cancel_right]
  rcases Nat.eq_zero_or_pos k with rfl | kPositive
  · rw [Nat.cast_zero, zpow_zero]
    exact_mod_cast positive
  · have low : 10 ^ k ≤ n := by
      rw [← not_lt, ← Nat.length_toDigits_le_iff (by decide) kPositive]
      omega
    exact_mod_cast low

/-- Within reach, the number nearest to a decimal is that nearest to any ratio that comes to the same. -/
private theorem ofDecimal_eq_ofRatio {n : Nat} {f : Int} (positive : 0 < n)
    (low : -decimalReach ≤ f + (Nat.toDigits 10 n).length) (high : f + (Nat.toDigits 10 n).length ≤ decimalReach)
    (negative : Bool) (denPositive : 0 < den) (same : (num : ℚ) / den = n * 10 ^ f) :
    ofDecimal negative n f = ofRatio negative num den := by
  rw [ofDecimal, if_neg (Nat.ne_of_gt positive), if_neg (not_lt.mpr high), if_neg (not_lt.mpr low)]
  split
  case isTrue whole =>
    obtain ⟨k, rfl⟩ := Int.eq_ofNat_of_zero_le whole
    refine ofRatio_congr negative one_pos denPositive ?_
    rw [same, zpow_natCast, Int.toNat_natCast, Nat.pow_eq]
    push_cast
    rw [div_one]
  case isFalse part =>
    obtain ⟨k, k_eq⟩ := Int.eq_ofNat_of_zero_le (show 0 ≤ -f by omega)
    obtain rfl : f = -k := by omega
    refine ofRatio_congr negative (by rw [Nat.pow_eq]; positivity) denPositive ?_
    rw [same, zpow_neg, zpow_natCast, neg_neg, Int.toNat_natCast, Nat.pow_eq]
    push_cast
    rw [div_eq_mul_inv]

private theorem exists_ratio (n : Nat) (f : Int) : ∃ num den : Nat, 0 < den ∧ (num : ℚ) / den = n * 10 ^ f := by
  rcases Int.eq_nat_or_neg f with ⟨k, rfl | rfl⟩
  · exact ⟨n * 10 ^ k, 1, one_pos, by push_cast; rw [zpow_natCast, div_one]⟩
  · exact ⟨n, 10 ^ k, by positivity, by push_cast; rw [zpow_neg, zpow_natCast, div_eq_mul_inv]⟩

private theorem length_toDigits_mul_pow {n : Nat} (positive : 0 < n) (k : Nat) :
    (Nat.toDigits 10 (n * 10 ^ k)).length = (Nat.toDigits 10 n).length + k := by
  induction k with
  | zero => rw [pow_zero, mul_one, add_zero]
  | succ k ih =>
    have split := Nat.toDigits_append_toDigits (b := 10) (n := n * 10 ^ k) (d := 0) (by decide) (by positivity) (by decide)
    have product : n * 10 ^ (k + 1) = 10 * (n * 10 ^ k) + 0 := by ring
    rw [product, ← split, List.length_append, ih]
    rfl

/-- A power of ten may stand in the digits of a decimal or in its exponent. -/
theorem ofDecimal_mul_pow (negative : Bool) (n k : Nat) (f : Int) :
    ofDecimal negative (n * 10 ^ k) f = ofDecimal negative n (f + k) := by
  rcases Nat.eq_zero_or_pos n with rfl | positive
  · rw [zero_mul]
    rfl
  have scaled : 0 < n * 10 ^ k := by positivity
  have size : f + (Nat.toDigits 10 (n * 10 ^ k)).length = f + k + (Nat.toDigits 10 n).length := by
    rw [length_toDigits_mul_pow positive]
    omega
  by_cases high : f + k + (Nat.toDigits 10 n).length ≤ decimalReach
  · by_cases low : -decimalReach ≤ f + k + (Nat.toDigits 10 n).length
    · obtain ⟨num, den, denPositive, same⟩ := exists_ratio n (f + k)
      have sameScaled : (num : ℚ) / den = (n * 10 ^ k : Nat) * 10 ^ f := by
        rw [same, zpow_add₀ (by norm_num), zpow_natCast]
        push_cast
        ring
      rw [ofDecimal_eq_ofRatio positive low high negative denPositive same,
        ofDecimal_eq_ofRatio scaled (by rwa [size]) (by rwa [size]) negative denPositive sameScaled]
    · simp only [ofDecimal, size, if_neg (Nat.ne_of_gt scaled), if_neg (Nat.ne_of_gt positive), if_neg (not_lt.mpr high),
        if_pos (not_le.mp low)]
  · simp only [ofDecimal, size, if_neg (Nat.ne_of_gt scaled), if_neg (Nat.ne_of_gt positive), if_pos (not_le.mp high)]

private theorem lowest_within_reach : (10 : ℚ) ^ (-decimalReach) < 2 ^ lowest := by
  have less : (2 : Nat) ^ 1074 < 10 ^ 400 := by decide +kernel
  rw [decimalReach, lowest, zpow_neg, zpow_neg]
  exact inv_strictAnti₀ (by positivity) (by exact_mod_cast less)

private theorem highest_within_reach : (2 : ℚ) ^ 53 * 2 ^ highest < 10 ^ decimalReach := by
  have less : (2 : Nat) ^ 53 * 2 ^ 971 < 10 ^ 400 := by decide +kernel
  rw [decimalReach, highest]
  exact_mod_cast less

/-- A number of the format is the nearest one to a decimal that comes to the same. -/
theorem ofDecimal_exact {m n : Nat} {e f : Int} (normal : IsNormal m e) (positive : 0 < m) (negative : Bool)
    (same : (n : ℚ) * 10 ^ f = m * 2 ^ e) : ofDecimal negative n f = finite negative m e := by
  have nPositive : 0 < n := by
    have product : (0 : ℚ) < n * 10 ^ f := by
      rw [same]
      positivity
    exact_mod_cast pos_of_mul_pos_left product (by positivity)
  obtain ⟨below, above⟩ := digits_bounds nPositive
  have ten : (10 : ℚ) ≠ 0 := by norm_num
  -- the reach of decimals is wider than the format
  have low : -decimalReach ≤ f + (Nat.toDigits 10 n).length := by
    have least : (10 : ℚ) ^ (-decimalReach) < 10 ^ (f + (Nat.toDigits 10 n).length) :=
      calc (10 : ℚ) ^ (-decimalReach) < 2 ^ lowest := lowest_within_reach
        _ ≤ 2 ^ e := zpow_le_zpow_right₀ one_le_two normal.above_lowest
        _ ≤ m * 2 ^ e := le_mul_of_one_le_left (by positivity) (by exact_mod_cast positive)
        _ = n * 10 ^ f := same.symm
        _ < 10 ^ ((Nat.toDigits 10 n).length : Int) * 10 ^ f := by gcongr
        _ = 10 ^ (f + (Nat.toDigits 10 n).length) := by rw [mul_comm, zpow_add₀ ten]
    exact le_of_lt ((zpow_lt_zpow_iff_right₀ (by norm_num)).mp least)
  have high : f + (Nat.toDigits 10 n).length ≤ decimalReach := by
    have most : (10 : ℚ) ^ (f + (Nat.toDigits 10 n).length - 1) < 10 ^ decimalReach :=
      calc (10 : ℚ) ^ (f + (Nat.toDigits 10 n).length - 1) = 10 ^ (((Nat.toDigits 10 n).length : Int) - 1) * 10 ^ f := by
            rw [add_sub_assoc, zpow_add₀ ten, mul_comm]
        _ ≤ n * 10 ^ f := by gcongr
        _ = m * 2 ^ e := same
        _ ≤ 2 ^ 53 * 2 ^ highest := by
            gcongr
            · exact_mod_cast Nat.le_of_lt normal.below
            · exact one_le_two
            · exact normal.below_highest
        _ < 10 ^ decimalReach := highest_within_reach
    have less := (zpow_lt_zpow_iff_right₀ (by norm_num)).mp most
    omega
  obtain ⟨num, den, denPositive, ratio⟩ := exists_ratio n f
  rw [ofDecimal_eq_ofRatio nPositive low high negative denPositive ratio,
    ofRatio_exact normal positive negative denPositive (ratio.trans same)]

end ClientGen.Binary64
