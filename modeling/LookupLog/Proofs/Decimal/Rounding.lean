import LookupLog.Proofs.Binary64.Value
import LookupLog.Proofs.Text.Numerals
import Mathlib.Algebra.Order.Field.Power

/-!
# The double nearest to a decimal

`Decimal.toBinary64` does not expand decimals that are far outside the range of doubles. This is no
exception: for every decimal it is the double nearest to the number that the decimal denotes, with
the sign of the decimal (`toBinary64_eq_nearest`). So only the value and the sign matter
(`toBinary64_congr`).
-/

namespace LookupLog

namespace Binary64

/-! ## 1. Beyond the range -/

/-- A rounded quotient is known by its sign and its code. -/
theorem ofQuotient_eq {x : Binary64} {num den : Nat}
    (h : nearestCode (num <<< 1074) den = x.code) : ofQuotient x.negative num den = x := by
  obtain ⟨negative, code, hc⟩ := x
  change nearestCode (num <<< 1074) den = code at h
  subst h
  rfl

/-- Less than half of the least magnitude is rounded to zero. -/
theorem nearestCode_eq_zero {num den : Nat} (h : 2 * num < den) : nearestCode num den = 0 := by
  refine nearestCode_eq (Nat.zero_lt_of_lt h) (Nat.zero_le _) ?_ fun _ => ?_
  · intro m hm
    cases hm
  · exact not_beyond_of_lt (by rw [units_zero]; simpa [units] using h)

/-- What is not below the magnitude of the code of infinity is rounded to infinity. -/
theorem nearestCode_eq_infinity {num den : Nat} (hd : 0 < den)
    (h : 0x10000000000000 * 2 ^ 2046 * den ≤ num) : nearestCode num den = infinityCode := by
  refine nearestCode_eq hd (Nat.le_refl _) ?_ fun hlt => absurd hlt (Nat.lt_irrefl _)
  intro m hm
  have hu := units_lt_units_succ m
  rw [hm, units_infinityCode] at hu
  rw [units_infinityCode]
  have hs := Nat.mul_lt_mul_of_pos_right hu hd
  refine beyond_of_lt ?_
  rw [Nat.add_mul]
  omega

end Binary64

namespace Decimal

open Binary64

/-! ## 2. Every decimal -/

theorem two_mul_shiftLeft (c n : Nat) : 2 * (c <<< n) = c * 2 ^ (n + 1) := by
  rw [Nat.shiftLeft_eq, Nat.pow_succ, Nat.mul_left_comm, Nat.mul_comm 2]

/-- A decimal below 10^-400, in units of 2^-1074, is less than half a unit. -/
theorem small_quotient {c places digits : Nat} (hc : c < 10 ^ digits)
    (hs : digits + 400 ≤ places) : 2 * (c <<< 1074) < 10 ^ places := by
  have h2 : 2 ^ (1074 + 1) ≤ 10 ^ 400 := by decide +kernel
  have h0 : 0 < 2 ^ (1074 + 1) := by decide +kernel
  calc 2 * (c <<< 1074) = c * 2 ^ (1074 + 1) := two_mul_shiftLeft c 1074
    _ < 10 ^ digits * 2 ^ (1074 + 1) := Nat.mul_lt_mul_of_pos_right hc h0
    _ ≤ 10 ^ digits * 10 ^ 400 := Nat.mul_le_mul_left _ h2
    _ = 10 ^ (digits + 400) := by rw [Nat.pow_add]
    _ ≤ 10 ^ places := Nat.pow_le_pow_right (by decide) hs

/-- A decimal of at least 10^400, in units of 2^-1074, is not below the magnitude of the code of
    infinity. -/
theorem large_quotient {c exponent places digits : Nat} (hc : 10 ^ digits ≤ c)
    (hs : places + 400 ≤ digits + exponent) :
    0x10000000000000 * 2 ^ 2046 * 10 ^ places ≤ (c * 10 ^ exponent) <<< 1074 := by
  have h2 : 2 ^ 1024 ≤ 10 ^ 400 := by decide +kernel
  have hp : 0x10000000000000 * 2 ^ 2046 = 2 ^ 1024 * 2 ^ 1074 := by decide +kernel
  calc 0x10000000000000 * 2 ^ 2046 * 10 ^ places = 10 ^ places * 2 ^ 1024 * 2 ^ 1074 := by
        rw [hp, Nat.mul_comm, Nat.mul_assoc]
    _ ≤ 10 ^ places * 10 ^ 400 * 2 ^ 1074 :=
      Nat.mul_le_mul_right _ (Nat.mul_le_mul_left _ h2)
    _ = 10 ^ (places + 400) * 2 ^ 1074 := by rw [Nat.pow_add]
    _ ≤ 10 ^ (digits + exponent) * 2 ^ 1074 :=
      Nat.mul_le_mul_right _ (Nat.pow_le_pow_right (by decide) hs)
    _ ≤ (c * 10 ^ exponent) * 2 ^ 1074 := by
      rw [Nat.pow_add]
      exact Nat.mul_le_mul_right _ (Nat.mul_le_mul_right _ hc)
    _ = (c * 10 ^ exponent) <<< 1074 := by rw [Nat.shiftLeft_eq]

/-- **No decimal is an exception**: expanded or not, the quotient it stands for is rounded. -/
theorem toBinary64_eq_ofQuotient (d : Decimal) :
    d.toBinary64 = ofQuotient d.negative (d.coefficient * 10 ^ d.exponent.toNat)
      (10 ^ (-d.exponent).toNat) := by
  obtain ⟨negative, c, e⟩ := d
  unfold toBinary64
  simp only
  split
  · rename_i h
    refine Binary64.ext_code rfl (Eq.symm ?_)
    by_cases hc : c = 0
    · subst hc
      refine nearestCode_eq_zero ?_
      rw [Nat.zero_mul, Nat.zero_shiftLeft]
      exact Nat.pow_pos (by decide)
    · have hs := h.resolve_left hc
      have he : e.toNat = 0 := by omega
      rw [he, Nat.pow_zero, Nat.mul_one]
      exact nearestCode_eq_zero (small_quotient (Text.lt_pow_length c) (by omega))
  · split
    · rename_i h hs
      have hc : c ≠ 0 := fun hc => h (Or.inl hc)
      have hl := List.length_pos_iff.mpr (Text.ofNat_ne_nil c)
      refine Binary64.ext_code rfl (Eq.symm ?_)
      exact nearestCode_eq_infinity (Nat.pow_pos (by decide))
        (large_quotient (Text.pow_length_le hc) (by omega))
    · rfl

/-! ## 3. The value -/

theorem abs_value (d : Decimal) : |d.value| = d.coefficient * 10 ^ d.exponent := by
  have hn : (0 : ℚ) ≤ d.coefficient * 10 ^ d.exponent := by positivity
  have hv : d.value = if d.negative then -(d.coefficient * 10 ^ d.exponent : ℚ)
      else d.coefficient * 10 ^ d.exponent := rfl
  rw [hv]
  split
  · rw [abs_neg, abs_of_nonneg hn]
  · exact abs_of_nonneg hn

/-- **The double nearest to a decimal is nearest to its value**, and has its sign. -/
theorem toBinary64_eq_nearest (d : Decimal) :
    d.toBinary64 = (nearest d.value).withSign d.negative := by
  rw [toBinary64_eq_ofQuotient]
  refine Binary64.ext_code rfl (code_nearest (Nat.pow_pos (by decide)) ?_).symm
  have hz : (10 : ℚ) ≠ 0 := by norm_num
  have he : d.exponent + (-d.exponent).toNat = d.exponent.toNat := by omega
  rw [abs_value, mul_assoc, Nat.cast_pow, Nat.cast_ofNat,
    ← zpow_natCast (10 : ℚ) (-d.exponent).toNat, ← zpow_add₀ hz, he, zpow_natCast]
  push_cast
  rfl

/-- **Only the value and the sign matter.** -/
theorem toBinary64_congr {d d' : Decimal} (hn : d.negative = d'.negative)
    (hv : d.value = d'.value) : d.toBinary64 = d'.toBinary64 := by
  rw [toBinary64_eq_nearest, toBinary64_eq_nearest, hn, hv]

end Decimal

end LookupLog
