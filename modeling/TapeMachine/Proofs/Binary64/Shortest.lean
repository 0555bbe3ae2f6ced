import TapeMachine.Proofs.Binary64.Rounding

/-! The digits that numbers are written with are read as the numbers they were written for. -/
namespace TapeMachine.Binary64

variable {m digits fuel : Nat} {e scale : Int} {negative : Bool}

theorem quotient_value (m : Nat) (e : Int) :
    ((quotient m e).1 : ℚ) / (quotient m e).2 = m * 2 ^ e := by
  unfold quotient
  split
  · next he =>
    obtain ⟨j, rfl⟩ := Int.eq_ofNat_of_zero_le he
    simp only [Nat.pow_eq, Int.toNat_natCast, zpow_natCast]
    push_cast
    rw [div_one]
  · next he =>
    obtain ⟨j, hj⟩ := Int.eq_ofNat_of_zero_le (show 0 ≤ -e by omega)
    obtain rfl : e = -(j : Int) := by omega
    simp only [Nat.pow_eq, neg_neg, Int.toNat_natCast, zpow_neg, zpow_natCast]
    push_cast
    rw [div_eq_mul_inv]

/-- All the digits of a magnitude: a multiple of `2 ^ -j` is one of `10 ^ -j`. -/
theorem exact_value (m : Nat) (e : Int) :
    (((quotient m e).1 * Nat.pow 10 (-e).toNat / (quotient m e).2 : Nat) : ℚ) *
      10 ^ (-((-e).toNat : Int)) =
      m * 2 ^ e := by
  by_cases he : 0 ≤ e
  · have hnone : (-e).toNat = 0 := by omega
    rw [← quotient_value, quotient, if_pos he, hnone]
    simp
  · obtain ⟨j, hj⟩ := Int.eq_ofNat_of_zero_le (show 0 ≤ -e by omega)
    obtain rfl : e = -(j : Int) := by omega
    have hexact : m * 10 ^ j / 2 ^ j = m * 5 ^ j := by
      rw [show 10 = 5 * 2 by norm_num, Nat.mul_pow, ← Nat.mul_assoc]
      exact Nat.mul_div_cancel _ (by positivity)
    rw [quotient, if_neg he, neg_neg, Int.toNat_natCast, Nat.pow_eq, Nat.pow_eq, hexact,
      zpow_neg, zpow_neg, zpow_natCast, zpow_natCast, show (10 : ℚ) = 5 * 2 by norm_num, mul_pow]
    push_cast
    field_simp

theorem stripZeros_value (fuel digits : Nat) (scale : Int) :
    ((stripZeros fuel digits scale).1 : ℚ) * 10 ^ (stripZeros fuel digits scale).2 =
      digits * 10 ^ scale := by
  induction fuel generalizing digits scale with
  | zero => rfl
  | succ fuel ih =>
    rw [stripZeros]
    split
    · next hzero =>
      simp only [Bool.and_eq_true, decide_eq_true_eq] at hzero
      have hdigits : (digits : ℚ) = (digits / 10 : Nat) * 10 := by
        exact_mod_cast (Nat.div_mul_cancel (Nat.dvd_of_mod_eq_zero hzero.1)).symm
      rw [ih, hdigits, zpow_add_one₀ (by norm_num)]
      ring
    · rfl

/-- What is written for a number is nearest to it. -/
theorem Canonical.nearest_shortest (h : Canonical m e) (negative : Bool) :
    nearest negative ((shortest m e).1 * 10 ^ (shortest m e).2) = .finite negative m e := by
  suffices hpositive : nearest false ((shortest m e).1 * 10 ^ (shortest m e).2) =
      .finite false m e from
    nearest_sign hpositive
  simp only [shortest, stripZeros_value]
  generalize hfound : List.find? _ _ = found
  cases found with
  | none => rw [Option.getD_none, exact_value, h.nearest_eq]
  | some found =>
    have hreads := List.find?_some hfound
    rw [beq_iff_eq, ofDecimal_eq] at hreads
    exact hreads

theorem Canonical.shortest_ne_zero (h : Canonical m e) (hm : m ≠ 0) : (shortest m e).1 ≠ 0 := by
  intro hzero
  have hnearest := h.nearest_shortest false
  rw [hzero, Nat.cast_zero, zero_mul, nearest_zero] at hnearest
  cases hnearest
  exact hm rfl

end TapeMachine.Binary64
