import LookupLog.Proofs.Binary64.Nearest
import Mathlib.Algebra.Order.Field.Rat
import Mathlib.Data.Rat.Lemmas
import Mathlib.Tactic.Linarith
import Mathlib.Tactic.Positivity
import Mathlib.Tactic.FieldSimp
import Mathlib.Tactic.NormNum

/-!
# Rounding rational numbers

The rounding of codes (`nearestCode`) seen from the rational numbers that doubles denote:

* `code_nearest`: the code of the nearest double depends on the magnitude only, however it is
  written as a quotient;
* `value_nearest_mono`: of two numbers that are not negative, the greater one has no smaller nearest
  double;
* `value_share_le_one`: so a part of a whole is not rounded to more than one.
-/

namespace LookupLog.Binary64

/-! ## 1. Values -/

/-- A double is its sign and its code. -/
theorem ext_code {x y : Binary64} (hn : x.negative = y.negative) (hc : x.code = y.code) :
    x = y := by
  obtain ⟨n, c, h⟩ := x
  obtain ⟨n', c', h'⟩ := y
  cases hn
  cases hc
  rfl

theorem mkRat_shiftLeft (num places : Nat) : mkRat num (1 <<< places) = (num : ℚ) / 2 ^ places := by
  rw [Rat.mkRat_eq_div, Nat.one_shiftLeft, Int.cast_natCast, Nat.cast_pow, Nat.cast_ofNat]

theorem magnitude_eq (x : Binary64) : x.magnitude = (units x.code : ℚ) / 2 ^ 1074 :=
  mkRat_shiftLeft _ _

theorem magnitude_nonneg (x : Binary64) : 0 ≤ x.magnitude := by
  rw [magnitude_eq]
  positivity

theorem value_of_not_negative {x : Binary64} (h : x.negative = false) : x.value = x.magnitude := by
  rw [value, h, if_neg Bool.false_ne_true]

/-- Magnitudes are in the order of their codes. -/
theorem magnitude_mono {x y : Binary64} (h : x.code ≤ y.code) : x.magnitude ≤ y.magnitude := by
  have hu : (units x.code : ℚ) ≤ units y.code := Nat.cast_le.mpr (units_strictMono.monotone h)
  have hp : (0 : ℚ) ≤ 2 ^ 1074 := by positivity
  rw [magnitude_eq, magnitude_eq]
  exact div_le_div_of_nonneg_right hu hp

/-! ## 2. The nearest double -/

theorem negative_nearest_of_nonneg {q : ℚ} (h : 0 ≤ q) : (nearest q).negative = false :=
  decide_eq_false (not_lt.mpr h)

theorem abs_eq_natAbs_div (q : ℚ) : |q| = q.num.natAbs / q.den := by
  conv_lhs => rw [← Rat.num_div_den q]
  rw [abs_div, Nat.abs_cast, Nat.cast_natAbs, Int.cast_abs]

/-- **The nearest code depends on the magnitude**, however it is written as a quotient. -/
theorem code_nearest {q : ℚ} {num den : Nat} (hd : 0 < den) (h : |q| * den = num) :
    (nearest q).code = nearestCode (num <<< 1074) den := by
  have hq : (q.den : ℚ) ≠ 0 := by exact_mod_cast q.den_ne_zero
  have hm : (q.num.natAbs : ℚ) * den = num * q.den := by
    rw [← h, abs_eq_natAbs_div]
    field_simp
  have hm : q.num.natAbs * den = num * q.den := by exact_mod_cast hm
  refine nearestCode_congr q.den_pos hd ?_
  rw [Nat.shiftLeft_eq, Nat.shiftLeft_eq, Nat.mul_right_comm, hm, Nat.mul_right_comm]

/-- **Rounding is monotone in the magnitude.** -/
theorem code_nearest_mono {q r : ℚ} (h : |q| ≤ |r|) : (nearest q).code ≤ (nearest r).code := by
  have hqr : q.num.natAbs * r.den ≤ r.num.natAbs * q.den := by
    have hq := abs_eq_natAbs_div q
    have hr := abs_eq_natAbs_div r
    rw [hq, hr, div_le_div_iff₀ (by exact_mod_cast q.den_pos) (by exact_mod_cast r.den_pos)] at h
    exact_mod_cast h
  refine nearestCode_mono q.den_pos r.den_pos ?_
  rw [Nat.shiftLeft_eq, Nat.shiftLeft_eq, Nat.mul_right_comm, Nat.mul_right_comm r.num.natAbs]
  exact Nat.mul_le_mul_right _ hqr

theorem value_nearest_mono {q r : ℚ} (h0 : 0 ≤ q) (h : q ≤ r) :
    (nearest q).value ≤ (nearest r).value := by
  rw [value_of_not_negative (negative_nearest_of_nonneg h0),
    value_of_not_negative (negative_nearest_of_nonneg (h0.trans h))]
  refine magnitude_mono (code_nearest_mono ?_)
  rwa [abs_of_nonneg h0, abs_of_nonneg (h0.trans h)]

theorem value_nearest_nonneg {q : ℚ} (h : 0 ≤ q) : 0 ≤ (nearest q).value := by
  rw [value_of_not_negative (negative_nearest_of_nonneg h)]
  exact magnitude_nonneg _

/-- A number that is not beyond one whose nearest double is finite has a finite one, too. -/
theorem isFinite_nearest {q r : ℚ} (h : |q| ≤ |r|) (hr : (nearest r).IsFinite) :
    (nearest q).IsFinite :=
  Nat.lt_of_le_of_lt (code_nearest_mono h) hr

/-! ## 3. Whole numbers and shares -/

theorem value_ofNat_mono {m n : Nat} (h : m ≤ n) : (ofNat m).value ≤ (ofNat n).value :=
  value_nearest_mono (Nat.cast_nonneg m) (Nat.cast_le.mpr h)

theorem value_ofNat_nonneg (n : Nat) : 0 ≤ (ofNat n).value :=
  value_nearest_nonneg (Nat.cast_nonneg n)

theorem value_ofNat_one : (ofNat 1).value = 1 := by decide +kernel

/-- A part of a whole number is not rounded to more than one, even if the whole is not finite. -/
theorem value_share_le_one {m n : Nat} (h : m ≤ n) : (ofNat m / ofNat n).value ≤ 1 := by
  have hq : (ofNat m).value / (ofNat n).value ≤ 1 :=
    div_le_one_of_le₀ (value_ofNat_mono h) (value_ofNat_nonneg n)
  have h0 : 0 ≤ (ofNat m).value / (ofNat n).value :=
    div_nonneg (value_ofNat_nonneg m) (value_ofNat_nonneg n)
  calc (ofNat m / ofNat n).value = (nearest ((ofNat m).value / (ofNat n).value)).value := rfl
    _ ≤ (nearest 1).value := value_nearest_mono h0 hq
    _ = 1 := value_ofNat_one

theorem value_share_nonneg (m n : Nat) : 0 ≤ (ofNat m / ofNat n).value :=
  value_nearest_nonneg (div_nonneg (value_ofNat_nonneg m) (value_ofNat_nonneg n))

end LookupLog.Binary64
