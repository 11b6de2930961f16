import LookupLog.Proofs.Binary64.Spacing
import LookupLog.Proofs.Summary.Finite

/-!
# Failure rates rank runs

A failure rate is rounded twice, the share of failures first and the hundredfold share after it.
Both roundings are monotone, so rates are never in another order than the exact shares, and a rate
depends on the share alone (`value_percentage_le`, `percentage_congr`).

At both ends nothing is lost either, up to 2^53 lookups: one failure among them is not rounded to
none (`percentage_pos`), and with one success the rate stays below a hundred
(`percentage_lt_hundred`). The greatest share below one is one less half a step there; a hundred
times this is nearer to the double before one hundred than to one hundred
(`nearest_hundredfold_lt`).
-/

namespace LookupLog

open Binary64

/-! ## 1. Shares -/

/-- The share of failures as a rational number. -/
def exactShare (failures lookups : Nat) : ℚ :=
  failures / lookups

/-- A share, rounded, and a hundred times that, rounded once more. -/
def percentage (failures lookups : Nat) : Binary64 :=
  .ofNat failures / .ofNat lookups * .ofNat 100

theorem failurePercentage_eq_ok {successes failures : Nat} (h : 0 < successes + failures) :
    failurePercentage successes failures = .ok (percentage failures (successes + failures)) :=
  if_neg h.ne'

theorem exactShare_nonneg (failures lookups : Nat) : 0 ≤ exactShare failures lookups :=
  div_nonneg (Nat.cast_nonneg failures) (Nat.cast_nonneg lookups)

theorem isDouble_hundred : IsDouble 100 := by
  have h := isDouble_natCast (n := 100) (by decide)
  exact_mod_cast h

theorem value_ofNat_hundred : (Binary64.ofNat 100).value = 100 := by
  have h := value_ofNat (n := 100) (by decide)
  exact_mod_cast h

theorem percentage_eq (failures lookups : Nat) :
    percentage failures lookups =
      nearest ((Binary64.ofNat failures / Binary64.ofNat lookups).value * 100) := by
  rw [percentage, mul_def, value_ofNat_hundred]

section Bounds

variable {failures lookups : Nat}

/-- **A failure rate is from 0 to 100**, for any number of lookups. -/
theorem percentage_bounds (h : failures ≤ lookups) :
    (percentage failures lookups).negative = false ∧
      0 ≤ (percentage failures lookups).value ∧ (percentage failures lookups).value ≤ 100 := by
  have h0 : 0 ≤ (Binary64.ofNat failures / Binary64.ofNat lookups).value * 100 :=
    mul_nonneg (value_share_nonneg failures lookups) (by norm_num)
  have h1 : (Binary64.ofNat failures / Binary64.ofNat lookups).value * 100 ≤ 100 := by
    have hs := value_share_le_one h
    linarith
  rw [percentage_eq]
  exact ⟨negative_nearest_of_nonneg h0, value_nearest_nonneg h0,
    value_nearest_le isDouble_hundred h0 h1⟩

/-- Up to 2^53 lookups both counts are exact, so it is the exact share that is rounded. -/
theorem share_eq_nearest (h : failures ≤ lookups) (hl : lookups ≤ 2 ^ 53) :
    Binary64.ofNat failures / Binary64.ofNat lookups = nearest (exactShare failures lookups) := by
  rw [div_def, value_ofNat (h.trans hl), value_ofNat hl, exactShare]

theorem percentage_eq_nearest (h : failures ≤ lookups) (hl : lookups ≤ 2 ^ 53) :
    percentage failures lookups =
      nearest ((nearest (exactShare failures lookups)).value * 100) := by
  rw [percentage_eq, share_eq_nearest h hl]

/-! ## 2. The ends -/

/-- **A share that is not zero is not rounded to zero**, nor is the rate. -/
theorem percentage_pos (h0 : 0 < failures) (h : failures ≤ lookups) (hl : lookups ≤ 2 ^ 53) :
    0 < (percentage failures lookups).value := by
  have hpos : (0 : ℚ) < lookups := by exact_mod_cast h0.trans_le h
  have hshare : (1 : Nat) / 2 ^ 53 ≤ exactShare failures lookups := by
    rw [exactShare, div_le_div_iff₀ (by positivity) hpos]
    exact_mod_cast Nat.mul_le_mul h0 hl
  have hrounded : (1 : Nat) / 2 ^ 53 ≤ (nearest (exactShare failures lookups)).value :=
    le_value_nearest (isDouble_div_pow (by decide) (by decide)) (exactShare_nonneg _ _) hshare
  have hscaled : ((100 : Nat) / 2 ^ 53 : ℚ) ≤
      (nearest (exactShare failures lookups)).value * 100 := by
    push_cast at hrounded ⊢
    linarith
  have hleast : ((100 : Nat) / 2 ^ 53 : ℚ) ≤ (percentage failures lookups).value := by
    rw [percentage_eq_nearest h hl]
    exact le_value_nearest (isDouble_div_pow (by decide) (by decide))
      (mul_nonneg (value_nearest_nonneg (exactShare_nonneg _ _)) (by norm_num)) hscaled
  exact lt_of_lt_of_le (by norm_num) hleast

/-- The worst case: a hundred times the double before one is below 100 by 100 of the steps of 2^-53,
    and doubles before 100 are 128 of them apart. So it is rounded down. -/
theorem nearest_hundredfold_lt :
    (nearest ((0x1fffffffffffff : Nat) / 2 ^ 53 * 100)).value < 100 := by
  decide +kernel

/-- **With one success the rate stays below a hundred.** -/
theorem percentage_lt_hundred (h : failures < lookups) (hl : lookups ≤ 2 ^ 53) :
    (percentage failures lookups).value < 100 := by
  have hpos : (0 : ℚ) < lookups := by exact_mod_cast Nat.zero_lt_of_lt h
  have hle : failures * 2 ^ 53 ≤ 0x1fffffffffffff * lookups := by omega
  have hshare : exactShare failures lookups ≤ (0x1fffffffffffff : Nat) / 2 ^ 53 := by
    rw [exactShare, div_le_div_iff₀ hpos (by positivity)]
    exact_mod_cast hle
  have hrounded : (nearest (exactShare failures lookups)).value ≤
      (0x1fffffffffffff : Nat) / 2 ^ 53 :=
    value_nearest_le (isDouble_div_pow (by decide) (by decide)) (exactShare_nonneg _ _) hshare
  rw [percentage_eq_nearest h.le hl]
  refine lt_of_le_of_lt (value_nearest_mono ?_ ?_) nearest_hundredfold_lt
  · exact mul_nonneg (value_nearest_nonneg (exactShare_nonneg _ _)) (by norm_num)
  · exact mul_le_mul_of_nonneg_right hrounded (by norm_num)

theorem value_percentage_eq_zero_iff (h : failures ≤ lookups) (hl : lookups ≤ 2 ^ 53) :
    (percentage failures lookups).value = 0 ↔ failures = 0 := by
  constructor
  · intro hz
    by_contra h0
    exact (percentage_pos (Nat.pos_of_ne_zero h0) h hl).ne' hz
  · rintro rfl
    have hz : exactShare 0 lookups = (0 : Nat) := by rw [exactShare, Nat.cast_zero, zero_div]
    have h0 : IsDouble (0 : Nat) := isDouble_natCast (Nat.zero_le _)
    rw [percentage_eq_nearest h hl, hz, value_nearest_of_isDouble h0 (Nat.cast_nonneg 0),
      Nat.cast_zero, zero_mul, ← Nat.cast_zero, value_nearest_of_isDouble h0 (Nat.cast_nonneg 0)]

theorem value_percentage_eq_hundred_iff (h : failures ≤ lookups) (h0 : 0 < lookups)
    (hl : lookups ≤ 2 ^ 53) :
    (percentage failures lookups).value = 100 ↔ failures = lookups := by
  constructor
  · intro hz
    by_contra hne
    exact (percentage_lt_hundred (Nat.lt_of_le_of_ne h hne) hl).ne hz
  · rintro rfl
    have hone : exactShare failures failures = 1 := div_self (by exact_mod_cast h0.ne')
    have h1 : (nearest 1).value = 1 := value_ofNat_one
    rw [percentage_eq_nearest h hl, hone, h1, one_mul,
      value_nearest_of_isDouble isDouble_hundred (by norm_num)]

end Bounds

/-! ## 3. The order -/

section Order

variable {failures lookups failures' lookups' : Nat}

/-- **Rates are in the order of the exact shares.** -/
theorem value_percentage_le (h : failures ≤ lookups) (hl : lookups ≤ 2 ^ 53)
    (h' : failures' ≤ lookups') (hl' : lookups' ≤ 2 ^ 53)
    (hle : exactShare failures lookups ≤ exactShare failures' lookups') :
    (percentage failures lookups).value ≤ (percentage failures' lookups').value := by
  have h0 := exactShare_nonneg failures lookups
  have hrounded := value_nearest_mono h0 hle
  rw [percentage_eq_nearest h hl, percentage_eq_nearest h' hl']
  refine value_nearest_mono (mul_nonneg (value_nearest_nonneg h0) (by norm_num)) ?_
  exact mul_le_mul_of_nonneg_right hrounded (by norm_num)

/-- **Equal shares have the same rate**, bit for bit. -/
theorem percentage_congr (h : failures ≤ lookups) (hl : lookups ≤ 2 ^ 53)
    (h' : failures' ≤ lookups') (hl' : lookups' ≤ 2 ^ 53)
    (he : exactShare failures lookups = exactShare failures' lookups') :
    percentage failures lookups = percentage failures' lookups' := by
  rw [percentage_eq_nearest h hl, percentage_eq_nearest h' hl', he]

end Order

/-- **Failure rates rank runs.** Any number of lookups but none has a rate, a double from 0 to 100
    which is not a negative zero. Up to 2^53 lookups the rate is 0 exactly if nothing failed and 100
    exactly if nothing succeeded, a run with a greater share of failures has no smaller rate, and
    runs with equal shares have the same one. -/
theorem failurePercentage_ranked {successes failures : Nat} (h : 0 < successes + failures) :
    ∃ x, failurePercentage successes failures = .ok x ∧
      x.IsFinite ∧ x.negative = false ∧ 0 ≤ x.value ∧ x.value ≤ 100 ∧
      (successes + failures ≤ 2 ^ 53 →
        (x.value = 0 ↔ failures = 0) ∧ (x.value = 100 ↔ successes = 0) ∧
        ∀ successes' failures', 0 < successes' + failures' → successes' + failures' ≤ 2 ^ 53 →
          ∃ x', failurePercentage successes' failures' = .ok x' ∧
            (exactShare failures (successes + failures) ≤
              exactShare failures' (successes' + failures') → x.value ≤ x'.value) ∧
            (exactShare failures (successes + failures) =
              exactShare failures' (successes' + failures') → x = x')) := by
  have hf := Nat.le_add_left failures successes
  have hrate := failurePercentage_eq_ok h
  obtain ⟨hsign, hlow, hhigh⟩ := percentage_bounds hf
  refine ⟨_, hrate, isFinite_of_failurePercentage hrate, hsign, hlow, hhigh,
    fun hl => ⟨?_, ?_, ?_⟩⟩
  · exact value_percentage_eq_zero_iff hf hl
  · rw [value_percentage_eq_hundred_iff hf h hl]
    omega
  · intro successes' failures' h' hl'
    have hf' := Nat.le_add_left failures' successes'
    exact ⟨_, failurePercentage_eq_ok h', value_percentage_le hf hl hf' hl',
      percentage_congr hf hl hf' hl'⟩

/-- One success among 2^53 lookups: the rate is the double before 100, and not above that of a run
    without any success. -/
theorem failurePercentage_ranked_one_success :
    0 < 1 + 0x1fffffffffffff ∧ 1 + 0x1fffffffffffff ≤ 2 ^ 53 ∧
    ∃ x, failurePercentage 1 0x1fffffffffffff = .ok x ∧
      x = .ofBits 0x4058ffffffffffff ∧ x.value ≠ 100 ∧
      ∃ x', failurePercentage 0 7 = .ok x' ∧ x'.value = 100 ∧ x.value ≤ x'.value := by
  have h : 0 < 1 + 0x1fffffffffffff := by decide
  have hl : 1 + 0x1fffffffffffff ≤ 2 ^ 53 := by decide
  have hx : failurePercentage 1 0x1fffffffffffff = .ok (.ofBits 0x4058ffffffffffff) := by
    decide +kernel
  have hx' : failurePercentage 0 7 = .ok (.ofBits 0x4059000000000000) := by decide +kernel
  have hshare : exactShare 0x1fffffffffffff (1 + 0x1fffffffffffff) ≤ exactShare 7 (0 + 7) := by
    decide +kernel
  obtain ⟨x, he, -, -, -, -, hends⟩ := failurePercentage_ranked h
  obtain ⟨-, hhundred, horder⟩ := hends hl
  obtain ⟨x', he', hle, -⟩ := horder 0 7 (by decide) (by decide)
  obtain rfl : x' = .ofBits 0x4059000000000000 := Except.ok.inj (he'.symm.trans hx')
  exact ⟨h, hl, x, he, Except.ok.inj (he.symm.trans hx), mt hhundred.mp (by decide), _, he',
    by decide +kernel, hle hshare⟩

end LookupLog
