import Mathlib.Data.Int.Log
import Mathlib.Data.Rat.Floor
import Mathlib.Algebra.Order.Field.Power
import Mathlib.Algebra.Order.Floor.Semifield
import Mathlib.Tactic.FieldSimp
import Mathlib.Tactic.Linarith
import Mathlib.Tactic.NormNum
import Mathlib.Tactic.Positivity
import Mathlib.Tactic.Ring
import TapeMachine.Json.Binary64

/-!
Rounding: a quotient and a decimal are read as the number nearest to their value. A number that has
the digits and an exponent it may have is nearest to itself.
-/
namespace TapeMachine.Binary64

variable {n d m digits : Nat} {e scale : Int} {x y : ℚ} {negative : Bool}

/-- The whole number next to a magnitude, a half going to the even neighbour. -/
def toEven (y : ℚ) : Nat :=
  if y - ⌊y⌋₊ < 1 / 2 then ⌊y⌋₊
  else if 1 / 2 < y - ⌊y⌋₊ then ⌊y⌋₊ + 1
  else if ⌊y⌋₊ % 2 = 0 then ⌊y⌋₊ else ⌊y⌋₊ + 1

/-- The exponent for 53 binary digits of a magnitude, or the least one. -/
def exponentOf (x : ℚ) : Int := max (Int.log 2 x - 52) leastExponent

/-- The number nearest to a magnitude. -/
def nearest (negative : Bool) (x : ℚ) : Binary64 :=
  if x = 0 then .finite negative 0 leastExponent
  else
    let m := toEven (x / 2 ^ exponentOf x)
    let (m, e) := if m = 2 ^ 53 then (2 ^ 52, exponentOf x + 1) else (m, exponentOf x)
    if e > greatestExponent then .infinite negative else .finite negative m e

theorem floor_eq_div (n d : Nat) : ⌊(n / d : ℚ)⌋₊ = n / d := Nat.floor_div_eq_div n d

theorem divideToEven_eq (hd : 0 < d) (n : Nat) : divideToEven n d = toEven (n / d) := by
  have hpos : (0 : ℚ) < d := by exact_mod_cast hd
  have hrest : (n / d : ℚ) - ((n / d : Nat) : ℚ) = ((n % d : Nat) : ℚ) / d := by
    have hn : (n : ℚ) = d * ((n / d : Nat) : ℚ) + ((n % d : Nat) : ℚ) := by
      exact_mod_cast (Nat.div_add_mod n d).symm
    rw [eq_div_iff hpos.ne', sub_mul, div_mul_cancel₀ _ hpos.ne']
    linarith
  have hless : ((n % d : Nat) : ℚ) / d < 1 / 2 ↔ 2 * (n % d) < d := by
    rw [div_lt_div_iff₀ hpos (by norm_num), one_mul, mul_comm]
    exact_mod_cast Iff.rfl
  have hgreater : 1 / 2 < ((n % d : Nat) : ℚ) / d ↔ d < 2 * (n % d) := by
    rw [div_lt_div_iff₀ (by norm_num) hpos, one_mul, mul_comm]
    exact_mod_cast Iff.rfl
  simp only [divideToEven, toEven, floor_eq_div, hrest, hless, hgreater]
  grind

theorem inUnits_pos (hd : 0 < d) (n : Nat) (e : Int) : 0 < (inUnits n d e).2 := by
  unfold inUnits
  split
  · exact Nat.mul_pos hd (Nat.pow_pos (by decide))
  · exact hd

theorem inUnits_value (n d : Nat) (e : Int) :
    ((inUnits n d e).1 : ℚ) / (inUnits n d e).2 = n / d / 2 ^ e := by
  unfold inUnits
  split
  · next he =>
    obtain ⟨j, rfl⟩ := Int.eq_ofNat_of_zero_le he
    simp only [Nat.pow_eq, Int.toNat_natCast, zpow_natCast]
    push_cast
    rw [div_div]
  · next he =>
    obtain ⟨j, hj⟩ := Int.eq_ofNat_of_zero_le (show 0 ≤ -e by omega)
    obtain rfl : e = -(j : Int) := by omega
    simp only [Nat.pow_eq, neg_neg, Int.toNat_natCast, zpow_neg, zpow_natCast, div_inv_eq_mul]
    push_cast
    rw [div_mul_eq_mul_div]

theorem le_log_div (hn : n ≠ 0) (hd : d ≠ 0) :
    (n.log2 : Int) - d.log2 - 1 ≤ Int.log 2 (n / d : ℚ) := by
  have hpos : (0 : ℚ) < d := by exact_mod_cast Nat.pos_of_ne_zero hd
  have hvalue : (0 : ℚ) < n / d := div_pos (by exact_mod_cast Nat.pos_of_ne_zero hn) hpos
  have hlow : (2 : ℚ) ^ n.log2 ≤ n := by exact_mod_cast Nat.log2_self_le hn
  have hhigh : (d : ℚ) < 2 ^ (d.log2 + 1) := by exact_mod_cast Nat.lt_log2_self
  rw [← Int.zpow_le_iff_le_log (by decide) hvalue, le_div_iff₀ hpos, Nat.cast_ofNat]
  calc (2 : ℚ) ^ ((n.log2 : Int) - d.log2 - 1) * d
      ≤ 2 ^ ((n.log2 : Int) - d.log2 - 1) * 2 ^ (d.log2 + 1) := by gcongr
    _ = 2 ^ n.log2 := by
      rw [← zpow_natCast, ← zpow_natCast, ← zpow_add₀ (by norm_num)]
      congr 1
      push_cast
      ring
    _ ≤ n := hlow

theorem log_div_lt (hn : n ≠ 0) (hd : d ≠ 0) :
    Int.log 2 (n / d : ℚ) < (n.log2 : Int) - d.log2 + 1 := by
  have hpos : (0 : ℚ) < d := by exact_mod_cast Nat.pos_of_ne_zero hd
  have hvalue : (0 : ℚ) < n / d := div_pos (by exact_mod_cast Nat.pos_of_ne_zero hn) hpos
  have hlow : (2 : ℚ) ^ d.log2 ≤ d := by exact_mod_cast Nat.log2_self_le hd
  have hhigh : (n : ℚ) < 2 ^ (n.log2 + 1) := by exact_mod_cast Nat.lt_log2_self
  rw [← Int.lt_zpow_iff_log_lt (by decide) hvalue, div_lt_iff₀ hpos, Nat.cast_ofNat]
  calc (n : ℚ) < 2 ^ (n.log2 + 1) := hhigh
    _ = 2 ^ ((n.log2 : Int) - d.log2 + 1) * 2 ^ d.log2 := by
      rw [← zpow_natCast, ← zpow_natCast, ← zpow_add₀ (by norm_num)]
      congr 1
      push_cast
      ring
    _ ≤ 2 ^ ((n.log2 : Int) - d.log2 + 1) * d := by gcongr

/-- The exponent of a quotient is that of its value. -/
theorem exponentFor_eq (hn : n ≠ 0) (hd : d ≠ 0) : exponentFor n d = exponentOf (n / d) := by
  have hpos := Nat.pos_of_ne_zero hd
  have hvalue : (0 : ℚ) < n / d := by
    have := Nat.pos_of_ne_zero hn
    positivity
  have hlow := le_log_div hn hd
  have hhigh := log_div_lt hn hd
  let guess : Int := n.log2 - d.log2 - 52
  have hfew : (inUnits n d guess).1 / (inUnits n d guess).2 < 2 ^ 52 ↔
      Int.log 2 (n / d : ℚ) < (n.log2 : Int) - d.log2 := by
    have hunits : (0 : ℚ) < (inUnits n d guess).2 := by exact_mod_cast inUnits_pos hpos n guess
    calc (inUnits n d guess).1 / (inUnits n d guess).2 < 2 ^ 52
        ↔ ((inUnits n d guess).1 : ℚ) / (inUnits n d guess).2 < 2 ^ 52 := by
          rw [Nat.div_lt_iff_lt_mul (inUnits_pos hpos n guess), div_lt_iff₀ hunits]
          exact_mod_cast Iff.rfl
      _ ↔ (n / d : ℚ) < 2 ^ ((n.log2 : Int) - d.log2) := by
          rw [inUnits_value, div_lt_iff₀ (by positivity), ← zpow_natCast, ← zpow_add₀ (by norm_num)]
          simp only [guess, Nat.cast_ofNat, add_sub_cancel]
      _ ↔ Int.log 2 (n / d : ℚ) < (n.log2 : Int) - d.log2 := by
          rw [← Int.lt_zpow_iff_log_lt (by decide) hvalue, Nat.cast_ofNat]
  have hexponent : exponentFor n d = max (if (inUnits n d guess).1 / (inUnits n d guess).2 < 2 ^ 52
      then guess - 1 else guess) leastExponent := rfl
  simp only [hexponent, hfew, exponentOf]
  congr 1
  split <;> omega

/-- A quotient is read as the number nearest to its value. -/
theorem ofQuotient_eq (hd : d ≠ 0) (negative : Bool) (n : Nat) :
    ofQuotient negative n d = nearest negative (n / d) := by
  by_cases hn : n = 0
  · rw [ofQuotient, if_pos hn, nearest, if_pos (by rw [hn]; simp)]
  · have hvalue : (n / d : ℚ) ≠ 0 := div_ne_zero (by exact_mod_cast hn) (by exact_mod_cast hd)
    have hunits := inUnits_pos (Nat.pos_of_ne_zero hd) n (exponentOf (n / d))
    simp only [ofQuotient, if_neg hn, nearest, if_neg hvalue, exponentFor_eq hn hd,
      divideToEven_eq hunits, inUnits_value]
    rfl

/-! ### Numbers far out of range -/

theorem nearest_zero (negative : Bool) : nearest negative 0 = .finite negative 0 leastExponent :=
  if_pos rfl

/-- From `2 ^ 1024` on there is only infinity. -/
theorem nearest_large (h : (2 : ℚ) ^ (1024 : Int) ≤ x) :
    nearest negative x = .infinite negative := by
  have hx : 0 < x := lt_of_lt_of_le (by positivity) h
  have hlog : 1024 ≤ Int.log 2 x := (Int.zpow_le_iff_le_log (by decide) hx).mp (by exact_mod_cast h)
  have hexponent : greatestExponent < exponentOf x := by
    rw [exponentOf, greatestExponent]
    omega
  rw [nearest, if_neg hx.ne']
  by_cases hcarry : toEven (x / 2 ^ exponentOf x) = 2 ^ 53
  · simp only [if_pos hcarry, if_pos (hexponent.trans (lt_add_one _))]
  · simp only [if_neg hcarry, if_pos hexponent]

/-- Below `2 ^ -1075` everything is nearest to zero. -/
theorem nearest_small (hx : 0 ≤ x) (h : x < (2 : ℚ) ^ (-1075 : Int)) :
    nearest negative x = .finite negative 0 leastExponent := by
  rcases hx.eq_or_lt with rfl | hpos
  · exact nearest_zero negative
  have hlog : Int.log 2 x < -1075 :=
    (Int.lt_zpow_iff_log_lt (by decide) hpos).mp (by exact_mod_cast h)
  have hexponent : exponentOf x = leastExponent := by
    rw [exponentOf, leastExponent]
    omega
  have hhalf : x / 2 ^ leastExponent < 1 / 2 := by
    rw [div_lt_iff₀ (by positivity)]
    calc x < (2 : ℚ) ^ (-1075 : Int) := h
      _ = 1 / 2 * 2 ^ leastExponent := by
        rw [leastExponent, show (-1075 : Int) = -1 + -1074 by norm_num, zpow_add₀ (by norm_num)]
        norm_num
  have hfloor : ⌊x / 2 ^ leastExponent⌋₊ = 0 := Nat.floor_eq_zero.mpr (hhalf.trans (by norm_num))
  have hmantissa : toEven (x / 2 ^ leastExponent) = 0 := by
    rw [toEven, hfloor, Nat.cast_zero, sub_zero, if_pos hhalf]
  rw [nearest, if_neg hpos.ne', hexponent, hmantissa]
  rfl

theorem pow_length_toDigits (hn : n ≠ 0) : 10 ^ ((Nat.toDigits 10 n).length - 1) ≤ n ∧
    n < 10 ^ (Nat.toDigits 10 n).length := by
  have hpos := Nat.length_toDigits_pos (b := 10) (n := n)
  refine ⟨?_, (Nat.length_toDigits_le_iff (by decide) hpos).mp le_rfl⟩
  by_contra hless
  rw [not_le] at hless
  cases hlength : (Nat.toDigits 10 n).length - 1 with
  | zero =>
    rw [hlength, pow_zero] at hless
    omega
  | succ length =>
    have hshort :=
      (Nat.length_toDigits_le_iff (b := 10) (n := n) (k := length + 1) (by decide) (by omega)).mpr
      (hlength ▸ hless)
    omega

theorem two_pow_le : (2 : ℚ) ^ (1024 : Int) ≤ 10 ^ (320 : Int) := by
  have h : 2 ^ 1024 ≤ 10 ^ 320 := by decide +kernel
  exact_mod_cast h

theorem ten_pow_le : (10 : ℚ) ^ (-330 : Int) ≤ 2 ^ (-1075 : Int) := by
  have h : 2 ^ 1075 ≤ 10 ^ 330 := by decide +kernel
  rw [zpow_neg, zpow_neg]
  exact inv_anti₀ (by positivity) (by exact_mod_cast h)

/-- A decimal is read as the number nearest to its value. -/
theorem ofDecimal_eq (negative : Bool) (digits : Nat) (scale : Int) :
    ofDecimal negative digits scale = nearest negative (digits * 10 ^ scale) := by
  by_cases hzero : digits = 0
  · rw [ofDecimal, if_pos (by simp [hzero]), hzero, Nat.cast_zero, zero_mul, nearest_zero]
  obtain ⟨hlow, hhigh⟩ := pow_length_toDigits hzero
  have hlength := Nat.length_toDigits_pos (b := 10) (n := digits)
  let size := (Nat.toDigits 10 digits).length
  have hlow : (10 : ℚ) ^ ((size : Int) - 1) ≤ digits := by
    rw [show (size : Int) - 1 = ((size - 1 : Nat) : Int) by omega, zpow_natCast]
    exact_mod_cast hlow
  have hhigh : (digits : ℚ) < 10 ^ (size : Int) := by
    rw [zpow_natCast]
    exact_mod_cast hhigh
  simp only [ofDecimal, hzero, decide_false, Bool.false_or, decide_eq_true_eq]
  split
  · next hsmall =>
    refine (nearest_small (by positivity) ?_).symm
    calc (digits : ℚ) * 10 ^ scale < 10 ^ (size : Int) * 10 ^ scale := by gcongr
      _ = 10 ^ ((size : Int) + scale) := (zpow_add₀ (by norm_num) _ _).symm
      _ ≤ 10 ^ (-330 : Int) := zpow_le_zpow_right₀ (by norm_num) (by omega)
      _ ≤ 2 ^ (-1075 : Int) := ten_pow_le
  · split
    · next hlarge =>
      refine (nearest_large ?_).symm
      calc (2 : ℚ) ^ (1024 : Int) ≤ 10 ^ (320 : Int) := two_pow_le
        _ ≤ 10 ^ ((size : Int) - 1 + scale) := zpow_le_zpow_right₀ (by norm_num) (by omega)
        _ = 10 ^ ((size : Int) - 1) * 10 ^ scale := zpow_add₀ (by norm_num) _ _
        _ ≤ digits * 10 ^ scale := by gcongr
    · split
      · next hscale =>
        obtain ⟨j, rfl⟩ := Int.eq_ofNat_of_zero_le hscale
        rw [ofQuotient_eq (by decide), Int.toNat_natCast, Nat.pow_eq, zpow_natCast]
        push_cast
        rw [div_one]
      · next hscale =>
        obtain ⟨j, hj⟩ := Int.eq_ofNat_of_zero_le (show 0 ≤ -scale by omega)
        obtain rfl : scale = -(j : Int) := by omega
        rw [neg_neg, Int.toNat_natCast, Nat.pow_eq, ofQuotient_eq (by positivity), zpow_neg,
          zpow_natCast, ← div_eq_mul_inv]
        push_cast
        rfl

/-! ### Numbers that are nearest to themselves -/

/-- A mantissa and an exponent that a finite number has: 53 binary digits, or fewer at the least
exponent. -/
structure Canonical (m : Nat) (e : Int) : Prop where
  digits : m < 2 ^ precision
  least : leastExponent ≤ e
  greatest : e ≤ greatestExponent
  full : 2 ^ (precision - 1) ≤ m ∨ e = leastExponent

theorem toEven_natCast (m : Nat) : toEven m = m := by
  rw [toEven, Nat.floor_natCast, sub_self, if_pos (by norm_num)]

theorem Canonical.exponentOf_eq (h : Canonical m e) (hm : m ≠ 0) : exponentOf (m * 2 ^ e) = e := by
  have hpos : (0 : ℚ) < m := by exact_mod_cast Nat.pos_of_ne_zero hm
  have hvalue : (0 : ℚ) < m * 2 ^ e := by positivity
  have hhigh : Int.log 2 (m * 2 ^ e : ℚ) < e + 53 := by
    have hm : (m : ℚ) < 2 ^ (53 : Int) := by exact_mod_cast h.digits
    rw [← Int.lt_zpow_iff_log_lt (by decide) hvalue, Nat.cast_ofNat, add_comm,
      zpow_add₀ (by norm_num)]
    gcongr
  have hleast := h.least
  rw [exponentOf]
  rcases h.full with hfull | rfl
  · have hlow : e + 52 ≤ Int.log 2 (m * 2 ^ e : ℚ) := by
      have hm : (2 : ℚ) ^ (52 : Int) ≤ m := by exact_mod_cast hfull
      rw [← Int.zpow_le_iff_le_log (by decide) hvalue, Nat.cast_ofNat, add_comm,
        zpow_add₀ (by norm_num)]
      gcongr
    omega
  · omega

theorem Canonical.nearest_eq (h : Canonical m e) (negative : Bool) :
    nearest negative (m * 2 ^ e) = .finite negative m e := by
  by_cases hm : m = 0
  · obtain rfl : e = leastExponent := by
      rcases h.full with hfull | he
      · rw [hm] at hfull
        exact absurd hfull (by decide)
      · exact he
    rw [hm, Nat.cast_zero, zero_mul, nearest_zero]
  · have hvalue : (m * 2 ^ e : ℚ) ≠ 0 := mul_ne_zero (by exact_mod_cast hm) (by positivity)
    have hdigits : m ≠ 2 ^ 53 := h.digits.ne
    have hgreatest : ¬ e > greatestExponent := h.greatest.not_gt
    simp only [nearest, if_neg hvalue, h.exponentOf_eq hm, mul_div_cancel_right₀ (m : ℚ)
      (show (2 : ℚ) ^ e ≠ 0 by positivity), toEven_natCast, if_neg hdigits, if_neg hgreatest]

/-- The sign is taken over as it is. -/
theorem nearest_sign {other : Bool} (h : nearest negative x = .finite negative m e) :
    nearest other x = .finite other m e := by
  simp only [nearest] at h ⊢
  grind

end TapeMachine.Binary64
