import LookupLog.Binary64.Rounding
import Mathlib.Tactic.Ring
import Mathlib.Tactic.Linarith

/-!
# Which code is nearest

Rounding is decided by the midpoints between neighbouring magnitudes: a magnitude is rounded to a
code above `n` exactly if it lies beyond the midpoint between the codes `n` and `n + 1`, or on it
and `n` is odd (`Beyond`). This holds for whole numbers (`lt_roundHalfEven_iff`) and carries over to
codes, since these run through the multiples of one power of two after the other (`units_block`):

* `units_lt_units`: codes are in the order of their magnitudes;
* `lt_nearestCode_iff`: the midpoint decides;
* `nearestCode_congr`, `nearestCode_mono`: so only the quotient matters, and rounding is monotone.
-/

namespace LookupLog

/-! ## 1. Whole numbers -/

/-- The magnitude `num / den` lies beyond half of `twice`, the midpoint between a whole number `n`
    or a code `n` and the next one; or exactly on it, and `n` is odd. -/
def Beyond (n twice num den : Nat) : Prop :=
  twice * den < 2 * num ∨ twice * den = 2 * num ∧ n % 2 = 1

theorem beyond_of_lt {n twice num den : Nat} (h : twice * den < 2 * num) : Beyond n twice num den :=
  Or.inl h

theorem not_beyond_of_lt {n twice num den : Nat} (h : 2 * num < twice * den) :
    ¬Beyond n twice num den := by
  unfold Beyond
  omega

/-- **A quotient is rounded to more than `n` exactly if it is beyond the middle after `n`.** -/
theorem lt_roundHalfEven_iff {n num den : Nat} (hd : 0 < den) :
    n < roundHalfEven num den ↔ Beyond n (2 * n + 1) num den := by
  have hq := Nat.div_add_mod num den
  have hr := Nat.mod_lt num hd
  unfold roundHalfEven Beyond
  simp only
  generalize num / den = q at hq ⊢
  generalize num % den = r at hq hr ⊢
  subst hq
  rcases Nat.lt_trichotomy n q with h | rfl | h
  · -- the middle after `n` is at most `q - 1 / 2`
    obtain ⟨k, rfl⟩ := Nat.exists_eq_add_of_lt h
    have hm : (2 * n + 1) * den < 2 * (den * (n + k + 1) + r) := by nlinarith
    refine ⟨fun _ => Or.inl hm, fun _ => ?_⟩
    split <;> omega
  · have hm : (2 * n + 1) * den = 2 * (den * n) + den := by ring
    rw [hm]
    split <;> omega
  · -- the middle after `n` is at least `q + 3 / 2`
    obtain ⟨k, rfl⟩ := Nat.exists_eq_add_of_lt h
    have hm : 2 * (den * q + r) < (2 * (q + k + 1) + 1) * den := by nlinarith
    constructor
    · intro hl
      split at hl <;> omega
    · intro hl
      omega

namespace Binary64

/-! ## 2. Codes and their magnitudes -/

/-- **Codes run through blocks**: from 2^52 to 2^53 times a power of two, in the first block from 0
    on. The end of one block is the beginning of the next. -/
theorem units_block {e m : Nat} (hm : m ≤ 0x20000000000000) (he : e = 0 ∨ 0x10000000000000 ≤ m) :
    units (e * 0x10000000000000 + m) = m * 2 ^ e := by
  unfold units
  rw [Nat.shiftLeft_eq]
  split
  · obtain rfl : e = 0 := by omega
    omega
  · by_cases hend : m = 0x20000000000000
    · subst hend
      have hq : (e * 0x10000000000000 + 0x20000000000000) / 0x10000000000000 = e + 2 := by omega
      have hr : (e * 0x10000000000000 + 0x20000000000000) % 0x10000000000000 = 0 := by omega
      have hs : e + 2 - 1 = e + 1 := rfl
      rw [hq, hr, hs, Nat.pow_succ]
      omega
    · have hq : (e * 0x10000000000000 + m) / 0x10000000000000 = e + 1 := by omega
      have hr : (e * 0x10000000000000 + m) % 0x10000000000000 = m - 0x10000000000000 := by omega
      have hs : e + 1 - 1 = e := rfl
      have hc : 0x10000000000000 + (m - 0x10000000000000) = m := by omega
      rw [hq, hr, hs, hc]

/-- Every code stands in a block, before its end. -/
theorem exists_block (n : Nat) :
    ∃ e m, n = e * 0x10000000000000 + m ∧ m < 0x20000000000000 ∧
      (e = 0 ∨ 0x10000000000000 ≤ m) := by
  by_cases h : n < 0x20000000000000
  · exact ⟨0, n, by omega, h, Or.inl rfl⟩
  · refine ⟨n / 0x10000000000000 - 1, n % 0x10000000000000 + 0x10000000000000, ?_, ?_,
      Or.inr ?_⟩ <;>
      omega

theorem units_lt_units_succ (n : Nat) : units n < units (n + 1) := by
  obtain ⟨e, m, rfl, hm, he⟩ := exists_block n
  rw [units_block (Nat.le_of_lt hm) he, Nat.add_assoc, units_block (by omega) (by omega)]
  exact Nat.mul_lt_mul_of_pos_right (Nat.lt_succ_self m) (Nat.pow_pos (by decide))

/-- **Codes are in the order of their magnitudes.** -/
theorem units_strictMono : StrictMono units :=
  strictMono_nat_of_lt_succ units_lt_units_succ

theorem units_infinityCode : units infinityCode = 0x10000000000000 * 2 ^ 2046 :=
  units_block (e := 2046) (m := 0x10000000000000) (by decide) (by decide)

/-! ## 3. The nearest code -/

/-- The block whose multiples a quotient is rounded to: it lies before the end of that block, and
    not before its beginning. -/
theorem block_of_quotient (num : Nat) {den : Nat} (hd : 0 < den) :
    num < 0x20000000000000 * (den * 2 ^ ((num / den).log2 - 52)) ∧
      ((num / den).log2 - 52 = 0 ∨
        0x10000000000000 * (den * 2 ^ ((num / den).log2 - 52)) ≤ num) := by
  have hlt : num / den < 2 ^ (53 + ((num / den).log2 - 52)) :=
    Nat.lt_of_lt_of_le Nat.lt_log2_self (Nat.pow_le_pow_right (by decide) (by omega))
  rw [Nat.div_lt_iff_lt_mul hd, Nat.pow_add] at hlt
  refine ⟨by linarith, ?_⟩
  rcases Nat.eq_zero_or_pos ((num / den).log2 - 52) with he | he
  · exact Or.inl he
  · have hq : num / den ≠ 0 := by
      intro h0
      rw [h0] at he
      exact absurd he (by decide)
    have hle : 2 ^ (52 + ((num / den).log2 - 52)) ≤ num / den := by
      have hs := Nat.log2_self_le hq
      rwa [Nat.add_sub_cancel' (by omega)]
    rw [Nat.le_div_iff_mul_le hd, Nat.pow_add] at hle
    exact Or.inr (by linarith)

/-- **A magnitude is rounded to a code above `n` exactly if it is beyond the midpoint after `n`.**
    -/
theorem lt_nearestCode_iff {n num den : Nat} (hd : 0 < den) (hn : n < infinityCode) :
    n < nearestCode num den ↔ Beyond n (units n + units (n + 1)) num den := by
  obtain ⟨hlt, hle⟩ := block_of_quotient num hd
  unfold nearestCode
  simp only
  generalize (num / den).log2 - 52 = e at hlt hle ⊢
  rw [Nat.shiftLeft_eq, lt_min_iff, and_iff_right hn]
  have hD : 0 < den * 2 ^ e := Nat.mul_pos hd (Nat.pow_pos (by decide))
  -- the rounded multiple stays in the block
  have hhigh : ¬0x20000000000000 < roundHalfEven num (den * 2 ^ e) := by
    rw [lt_roundHalfEven_iff hD]
    exact not_beyond_of_lt (by linarith)
  have hlow : e = 0 ∨ 0xfffffffffffff < roundHalfEven num (den * 2 ^ e) := by
    refine hle.imp_right fun h => ?_
    rw [lt_roundHalfEven_iff hD]
    exact beyond_of_lt (by linarith)
  rcases Nat.lt_or_ge n (e * 0x10000000000000 + 0x20000000000000) with hblock | hblock
  · by_cases hbelow : e = 0 ∨ e * 0x10000000000000 + 0x10000000000000 ≤ n
    · -- within the block it is the question for whole numbers
      obtain ⟨m, rfl⟩ : ∃ m, n = e * 0x10000000000000 + m := ⟨n - e * 0x10000000000000, by omega⟩
      rw [Nat.add_lt_add_iff_left, lt_roundHalfEven_iff hD, Nat.add_assoc,
        units_block (by omega) (by omega), units_block (by omega) (by omega), Beyond, Beyond]
      have hm : (m * 2 ^ e + (m + 1) * 2 ^ e) * den = (2 * m + 1) * (den * 2 ^ e) := by ring
      have hp : (e * 0x10000000000000 + m) % 2 = m % 2 := by omega
      rw [hm, hp]
    · -- below the block both sides hold
      have hu : units n + units (n + 1) < 2 * (0x10000000000000 * 2 ^ e) := by
        have hs := units_block (e := e) (m := 0x10000000000000) (by decide) (by omega)
        have h1 := units_strictMono.monotone
          (show n + 1 ≤ e * 0x10000000000000 + 0x10000000000000 by
          omega)
        have h2 := units_lt_units_succ n
        omega
      have hm := Nat.mul_lt_mul_of_pos_right hu hd
      have hc : 2 * (0x10000000000000 * 2 ^ e) * den = 2 * (0x10000000000000 * (den * 2 ^ e)) := by
        ring
      have hb : Beyond n (units n + units (n + 1)) num den := beyond_of_lt (by omega)
      exact iff_of_true (by omega) hb
  · -- above the block both sides fail
    have hu : 2 * (0x20000000000000 * 2 ^ e) ≤ units n + units (n + 1) := by
      have hs := units_block (e := e) (m := 0x20000000000000) (by decide) (by omega)
      have h1 := units_strictMono.monotone hblock
      have h2 := units_lt_units_succ n
      omega
    have hm := Nat.mul_le_mul_right den hu
    have hc : 2 * (0x20000000000000 * 2 ^ e) * den = 2 * (0x20000000000000 * (den * 2 ^ e)) := by
      ring
    have hb : ¬Beyond n (units n + units (n + 1)) num den := not_beyond_of_lt (by omega)
    exact iff_of_false (by omega) hb

/-! ## 4. What the midpoints decide -/

theorem nearestCode_le (num den : Nat) : nearestCode num den ≤ infinityCode :=
  Nat.min_le_left ..

/-- **The midpoints on both sides of a code decide whether it is the nearest.** -/
theorem nearestCode_eq {n num den : Nat} (hd : 0 < den) (hn : n ≤ infinityCode)
    (hlow : ∀ m, m + 1 = n → Beyond m (units m + units n) num den)
    (hhigh : n < infinityCode → ¬Beyond n (units n + units (n + 1)) num den) :
    nearestCode num den = n := by
  apply Nat.le_antisymm
  · rcases Nat.lt_or_eq_of_le hn with h | h
    · exact Nat.le_of_not_lt fun hl => hhigh h ((lt_nearestCode_iff hd h).mp hl)
    · exact h ▸ nearestCode_le num den
  · cases n with
    | zero => exact Nat.zero_le _
    | succ m => exact (lt_nearestCode_iff hd hn).mpr (hlow m rfl)

end Binary64

/-- A greater quotient is beyond every midpoint that a smaller one is beyond. -/
theorem Beyond.mono {n twice num den num' den' : Nat} (hd : 0 < den) (hd' : 0 < den')
    (hle : num * den' ≤ num' * den) (h : Beyond n twice num den) : Beyond n twice num' den' := by
  rcases h with h | ⟨h, hn⟩
  · left
    by_contra hn
    have h1 : 2 * num' * den ≤ twice * den' * den := Nat.mul_le_mul_right den (Nat.le_of_not_lt hn)
    have h2 : twice * den * den' < 2 * num * den' := Nat.mul_lt_mul_of_pos_right h hd'
    nlinarith
  · have h1 : twice * den * den' = 2 * num * den' := congrArg (· * den') h
    have h2 : twice * den' * den ≤ 2 * num' * den := by nlinarith
    rcases Nat.lt_or_eq_of_le (Nat.le_of_mul_le_mul_right h2 hd) with h3 | h3
    · exact Or.inl h3
    · exact Or.inr ⟨h3, hn⟩

namespace Binary64

/-- **Rounding is monotone.** -/
theorem nearestCode_mono {num den num' den' : Nat} (hd : 0 < den) (hd' : 0 < den')
    (h : num * den' ≤ num' * den) : nearestCode num den ≤ nearestCode num' den' := by
  by_contra hlt
  rw [Nat.not_le] at hlt
  have hn := Nat.lt_of_lt_of_le hlt (nearestCode_le num den)
  have hb := (lt_nearestCode_iff hd hn).mp hlt
  exact absurd ((lt_nearestCode_iff hd' hn).mpr (hb.mono hd hd' h)) (Nat.lt_irrefl _)

/-- **Only the quotient matters.** -/
theorem nearestCode_congr {num den num' den' : Nat} (hd : 0 < den) (hd' : 0 < den')
    (h : num * den' = num' * den) : nearestCode num den = nearestCode num' den' :=
  Nat.le_antisymm (nearestCode_mono hd hd' (Nat.le_of_eq h))
    (nearestCode_mono hd' hd (Nat.le_of_eq h.symm))

end Binary64

end LookupLog
