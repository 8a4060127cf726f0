import ClientGen.Number.Shortest
import ClientGen.Proofs.Number.Rounding

/-!
Shortest decimals read back. Whichever grid the search ends on, the decimal that it finds is read as the number that
it was searched for, and so is what is left of it when its trailing zeros are trimmed (`shortest_reads`).
-/

namespace ClientGen.Binary64

variable {m : Nat} {e : Int}

theorem trimZeros_reads (negative : Bool) (fuel : Nat) (d : Decimal) :
    ofDecimal negative (d.trimZeros fuel).digits (d.trimZeros fuel).exponent = ofDecimal negative d.digits d.exponent := by
  induction fuel generalizing d with
  | zero => rfl
  | succ fuel ih =>
    rw [Decimal.trimZeros]
    split
    case isTrue ends =>
      have whole : d.digits / 10 * 10 ^ 1 = d.digits := by omega
      have scaled := ofDecimal_mul_pow negative (d.digits / 10) 1 d.exponent
      rw [whole] at scaled
      rw [ih, scaled]
      rfl
    case isFalse => rfl

/-- The exact expansion of a number in decimals. -/
theorem exactDecimal_eq (m : Nat) (e : Int) :
    ((exactDecimal m e).digits : ℚ) * 10 ^ (exactDecimal m e).exponent = m * 2 ^ e := by
  rw [exactDecimal]
  split
  case isTrue whole =>
    obtain ⟨n, rfl⟩ := Int.eq_ofNat_of_zero_le whole
    rw [Int.toNat_natCast, zpow_zero, mul_one, zpow_natCast, Nat.pow_eq]
    push_cast
    rfl
  case isFalse part =>
    obtain ⟨n, n_eq⟩ := Int.eq_ofNat_of_zero_le (show 0 ≤ -e by omega)
    obtain rfl : e = -n := by omega
    have ten : (10 : ℚ) ^ n = 5 ^ n * 2 ^ n := by rw [← mul_pow]; norm_num
    rw [neg_neg, Int.toNat_natCast, Nat.pow_eq, zpow_neg, zpow_neg, zpow_natCast, zpow_natCast, ten]
    push_cast
    field_simp

theorem searchGrids_reads (normal : IsNormal m e) (positive : 0 < m) (num den : Nat) (top : Int) (tries count : Nat) :
    ofDecimal false (searchGrids m e num den top tries count).digits (searchGrids m e num den top tries count).exponent =
      finite false m e := by
  induction tries generalizing count with
  | zero => exact ofDecimal_exact normal positive false (exactDecimal_eq m e)
  | succ tries ih =>
    rw [searchGrids]
    cases found : (neighbours num den (top - count + 1)).find? fun d =>
        ofDecimal false d.digits d.exponent = finite false m e with
    | none => exact ih (count + 1)
    | some d =>
      have reads := List.find?_some found
      exact of_decide_eq_true reads

/-- The shortest decimal of a number is read as the number. -/
theorem shortest_reads (normal : IsNormal m e) (positive : 0 < m) :
    ofDecimal false (shortest m e).digits (shortest m e).exponent = finite false m e := by
  rw [shortest, if_neg (Nat.ne_of_gt positive)]
  exact (trimZeros_reads false 20 _).trans (searchGrids_reads normal positive _ _ _ 17 1)

theorem shortest_positive (normal : IsNormal m e) (positive : 0 < m) : 0 < (shortest m e).digits := by
  by_contra none
  have zero : (shortest m e).digits = 0 := by omega
  have reads := shortest_reads normal positive
  rw [zero] at reads
  injection reads with _ isZero
  omega

end ClientGen.Binary64
