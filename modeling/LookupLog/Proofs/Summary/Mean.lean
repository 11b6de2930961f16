import LookupLog.Proofs.Binary64.Faithful
import LookupLog.Proofs.Summary.Finite

/-!
# How exact a mean is

A mean is rounded several times: its whole part, the fraction that the remainder makes, and their
sum. For at most 2^53 words, what is rounded last stands for the exact mean (`exists_standsFor`). So
the mean is one of the two doubles on both sides of it (`isFaithful_sumOfParts`), which bounds the
error and makes it exact where it can be (`mean_accurate`).

It is the nearest double, too, unless rounding a part has moved it onto a midpoint between two
doubles that the exact mean is beside (`mean_isNearest`). This does happen: five thirds is the
smallest case (`mean_of_five_thirds`).
-/

namespace LookupLog

open Binary64

/-! ## 1. The sum -/

/-- The sum as a word of 128 bits accumulates it. -/
def accumulated (values : List UInt64) : BitVec 128 :=
  values.foldl (fun sum value => sum + BitVec.ofNat 128 value.toNat) 0

theorem toNat_foldl_accumulated (values : List UInt64) (sum : BitVec 128) :
    (values.foldl (fun sum value => sum + BitVec.ofNat 128 value.toNat) sum).toNat =
      (sum.toNat + total values) % 2 ^ 128 := by
  induction values generalizing sum with
  | nil => exact (Nat.mod_eq_of_lt sum.isLt).symm
  | cons v vs ih =>
    rw [List.foldl_cons, ih, total_cons, BitVec.toNat_add, BitVec.toNat_ofNat]
    omega

/-- **The accumulated sum is exact** unless there are 2^64 words or more. -/
theorem toNat_accumulated {values : List UInt64} (h : values.length < 2 ^ 64) :
    (accumulated values).toNat = total values := by
  have ht := total_le values
  have h0 : (0 : BitVec 128).toNat = 0 := rfl
  have hsum : (accumulated values).toNat = ((0 : BitVec 128).toNat + total values) % 2 ^ 128 :=
    toNat_foldl_accumulated values 0
  rw [hsum, h0]
  omega

/-- The mean as a rational number. -/
def exactMean (values : List UInt64) : ℚ :=
  total values / values.length

/-! ## 2. The parts -/

/-- The fraction that a remainder makes, rounded. -/
def fraction (rest count : Nat) : Binary64 :=
  .ofNat rest / .ofNat count

/-- The whole part and the fraction, each of them rounded, and their sum rounded once more. -/
def sumOfParts (whole rest count : Nat) : Binary64 :=
  .ofNat whole + fraction rest count

theorem mean_eq_ok (kind : Text) {values : List UInt64} (h : values ≠ []) :
    mean kind values =
      .ok (sumOfParts (total values / values.length) (total values % values.length)
        values.length) :=
  if_neg h

/-- The exact mean in two parts. -/
theorem exactMean_eq {values : List UInt64} (h : values ≠ []) :
    exactMean values = (total values / values.length : Nat) +
      (total values % values.length : Nat) / values.length := by
  have hc : (values.length : ℚ) ≠ 0 := by exact_mod_cast (List.length_pos_iff.mpr h).ne'
  have hd : (total values : ℚ) = values.length * (total values / values.length : Nat) +
      (total values % values.length : Nat) := by
    exact_mod_cast (Nat.div_add_mod _ _).symm
  rw [exactMean, hd, add_div, mul_div_cancel_left₀ _ hc]

section Parts

variable {whole rest count : Nat}

theorem fraction_nonneg (rest count : Nat) : 0 ≤ (fraction rest count).value :=
  value_share_nonneg rest count

theorem fraction_le_one (h : rest < count) : (fraction rest count).value ≤ 1 :=
  value_share_le_one (Nat.le_of_lt h)

theorem isFinite_fraction (h : rest < count) : (fraction rest count).IsFinite := by
  have hq : (Binary64.ofNat rest).value / (Binary64.ofNat count).value ≤ 1 :=
    div_le_one_of_le₀ (value_ofNat_mono (Nat.le_of_lt h)) (value_ofNat_nonneg count)
  have h0 : 0 ≤ (Binary64.ofNat rest).value / (Binary64.ofNat count).value :=
    div_nonneg (value_ofNat_nonneg rest) (value_ofNat_nonneg count)
  have hone : IsDouble (1 : Nat) := isDouble_natCast (by decide)
  rw [Nat.cast_one] at hone
  exact isFinite_nearest_of_le hone h0 hq

theorem share_nonneg (rest count : Nat) : (0 : ℚ) ≤ rest / count := by
  positivity

theorem share_lt_one (h : rest < count) : (rest / count : ℚ) < 1 := by
  rw [div_lt_one (by exact_mod_cast Nat.zero_lt_of_lt h)]
  exact_mod_cast h

/-- Up to 2^53, remainder and count are exact, so the fraction is rounded once. -/
theorem fraction_eq_nearest (hlt : rest < count) (hc : count ≤ 2 ^ 53) :
    fraction rest count = nearest (rest / count) := by
  rw [fraction, div_def, value_ofNat (by omega), value_ofNat (by omega)]

/-- **A fraction is not rounded to one**, since the count has at most 53 bits. -/
theorem fraction_lt_one (hlt : rest < count) (hc : count ≤ 2 ^ 53) :
    (fraction rest count).value < 1 := by
  have hpos : (0 : ℚ) < count := by exact_mod_cast Nat.zero_lt_of_lt hlt
  have hle : rest * 2 ^ 53 ≤ 0x1fffffffffffff * count := by omega
  have hq : (rest / count : ℚ) ≤ (0x1fffffffffffff : Nat) / 2 ^ 53 := by
    rw [div_le_div_iff₀ hpos (by positivity)]
    exact_mod_cast hle
  have hd : IsDouble ((0x1fffffffffffff : Nat) / 2 ^ 53) := isDouble_div_pow (by decide) (by decide)
  have hr : (fraction rest count).value ≤ (0x1fffffffffffff : Nat) / 2 ^ 53 := by
    rw [fraction_eq_nearest hlt hc]
    exact value_nearest_le hd (by positivity) hq
  refine hr.trans_lt ?_
  norm_num

/-- **Rounding the fraction does not step over a number with 53 places**, upwards. -/
theorem whole_add_fraction_le (whole : Nat) (hlt : rest < count) (hc : count ≤ 2 ^ 53) {j : Nat}
    (h : (whole + rest / count : ℚ) ≤ j / 2 ^ 53) :
    whole + (fraction rest count).value ≤ j / 2 ^ 53 := by
  have hq := share_nonneg rest count
  have hj : whole * 2 ^ 53 ≤ j := by
    have hw : (whole * 2 ^ 53 : ℚ) ≤ j := by linarith
    exact_mod_cast hw
  obtain ⟨d, rfl⟩ := Nat.exists_eq_add_of_le hj
  push_cast at h ⊢
  by_cases hd : d ≤ 2 ^ 53
  · have hf : (fraction rest count).value ≤ d / 2 ^ 53 := by
      rw [fraction_eq_nearest hlt hc]
      exact value_nearest_le (isDouble_div_pow (by omega) (by decide)) hq (by linarith)
    linarith
  · have hd : (2 ^ 53 : ℚ) ≤ d := by exact_mod_cast Nat.le_of_not_le hd
    have hf := fraction_le_one hlt
    linarith

/-- Nor downwards. -/
theorem le_whole_add_fraction (whole : Nat) (hlt : rest < count) (hc : count ≤ 2 ^ 53) {j : Nat}
    (h : (j / 2 ^ 53 : ℚ) ≤ whole + rest / count) :
    (j / 2 ^ 53 : ℚ) ≤ whole + (fraction rest count).value := by
  have hf := fraction_nonneg rest count
  by_cases hj : j ≤ whole * 2 ^ 53
  · have hw : (j : ℚ) ≤ whole * 2 ^ 53 := by exact_mod_cast hj
    linarith
  · obtain ⟨d, rfl⟩ := Nat.exists_eq_add_of_le (Nat.le_of_not_le hj)
    push_cast at h ⊢
    have hq := share_lt_one hlt
    have hd : (d : ℚ) ≤ (2 ^ 53 : Nat) := by
      push_cast
      linarith
    have hd : d ≤ 2 ^ 53 := by exact_mod_cast hd
    have hfd : (d / 2 ^ 53 : ℚ) ≤ (fraction rest count).value := by
      rw [fraction_eq_nearest hlt hc]
      exact le_value_nearest (isDouble_div_pow (by omega) (by decide)) (by positivity) (by linarith)
    linarith

/-! ## 3. Their sum -/

/-- A whole part that is a double is exact, so what is rounded last is the sum with the fraction. -/
theorem sumOfParts_of_isDouble (rest count : Nat) (h : IsDouble whole) :
    sumOfParts whole rest count = nearest (whole + (fraction rest count).value) := by
  have hw : (Binary64.ofNat whole).value = whole :=
    value_nearest_of_isDouble h (Nat.cast_nonneg whole)
  rw [sumOfParts, add_def, hw]

/-- Without a whole part the mean is the rounded fraction. -/
theorem sumOfParts_zero (h : rest < count) : sumOfParts 0 rest count = fraction rest count := by
  have h0 : IsDouble (0 : Nat) := isDouble_natCast (Nat.zero_le _)
  rw [sumOfParts_of_isDouble rest count h0, Nat.cast_zero, zero_add]
  refine nearest_value (isFinite_fraction h) (negative_nearest_of_nonneg ?_)
  exact div_nonneg (value_ofNat_nonneg rest) (value_ofNat_nonneg count)

theorem isFinite_ofNat {n : Nat} (h : n ≤ 0x10000000000000000) : (Binary64.ofNat n).IsFinite :=
  isFinite_nearest_of_le isDouble_wordSize (Nat.cast_nonneg n) (Nat.cast_le.mpr h)

/-- **From 2^53 on the fraction is lost**, since it is not rounded to one. -/
theorem sumOfParts_of_le (h : 2 ^ 53 ≤ whole) (hw : whole ≤ 0x10000000000000000)
    (hlt : rest < count) (hc : count ≤ 2 ^ 53) :
    sumOfParts whole rest count = .ofNat whole := by
  have hd : IsDouble (2 ^ 53 : Nat) := isDouble_natCast (by decide)
  have hbig := le_value_nearest hd (Nat.cast_nonneg whole) (Nat.cast_le.mpr h)
  rw [Nat.cast_pow, Nat.cast_ofNat] at hbig
  rw [sumOfParts, add_def]
  exact nearest_value_add (isFinite_ofNat hw) (negative_nearest_of_nonneg (Nat.cast_nonneg whole))
    hbig (fraction_nonneg rest count) (fraction_lt_one hlt hc)

theorem negative_sumOfParts : (sumOfParts whole rest count).negative = false :=
  negative_nearest_of_nonneg (add_nonneg (value_ofNat_nonneg whole) (fraction_nonneg rest count))

/-- With an exact whole part, the sum with the fraction is rounded last: beyond one, boundaries have
    at most 53 places, and rounding the fraction does not step over such a number. -/
theorem standsFor_add_fraction (h : 1 ≤ whole) (hlt : rest < count) (hc : count ≤ 2 ^ 53) :
    StandsFor (whole + (fraction rest count).value) (whole + rest / count) := by
  have hw : (1 : ℚ) ≤ whole := by exact_mod_cast h
  have hf := fraction_nonneg rest count
  have hq := share_nonneg rest count
  refine ⟨by linarith, fun b hb hle => ?_, fun b hb hle => ?_⟩
  · rcases lt_or_ge b 1 with hb1 | hb1
    · linarith
    · obtain ⟨j, rfl⟩ := hb.exists_fraction hb1
      exact le_whole_add_fraction whole hlt hc hle
  · obtain ⟨j, rfl⟩ := hb.exists_fraction (by linarith)
    exact whole_add_fraction_le whole hlt hc hle

/-- From 2^53 on, the whole part alone is rounded: boundaries are whole numbers there. -/
theorem standsFor_whole (h : 2 ^ 53 ≤ whole) (hlt : rest < count) :
    StandsFor whole (whole + rest / count) := by
  have hw : (2 ^ 53 : ℚ) ≤ whole := by exact_mod_cast h
  have hq := share_nonneg rest count
  have hq1 := share_lt_one hlt
  refine ⟨Nat.cast_nonneg whole, fun b hb hle => ?_, fun b hb hle => by linarith⟩
  rcases lt_or_ge b (2 ^ 53) with hb1 | hb1
  · exact hb1.le.trans hw
  · obtain ⟨j, rfl⟩ := hb.exists_whole hb1
    have hj : (j : ℚ) < whole + 1 := by linarith
    have hj : j < whole + 1 := by exact_mod_cast hj
    exact_mod_cast Nat.le_of_lt_succ hj

/-- **What is rounded last stands for the exact number**: it is the exact number itself without a
    whole part, the sum of whole part and fraction while the whole part is exact, and the whole part
    alone from 2^53 on. -/
theorem exists_standsFor (hw : whole ≤ 0x10000000000000000) (hlt : rest < count)
    (hc : count ≤ 2 ^ 53) :
    ∃ r, sumOfParts whole rest count = nearest r ∧ StandsFor r (whole + rest / count) ∧
      (r = whole + rest / count ∨ r = whole ∨ r = whole + (fraction rest count).value) := by
  rcases Nat.eq_zero_or_pos whole with rfl | hpos
  · have hq := share_nonneg rest count
    rw [sumOfParts_zero hlt, fraction_eq_nearest hlt hc, Nat.cast_zero, zero_add]
    exact ⟨_, rfl, StandsFor.refl hq, Or.inl rfl⟩
  rcases Nat.lt_or_ge whole (2 ^ 53) with h | h
  · have hd : IsDouble whole := isDouble_natCast (by omega)
    exact ⟨_, sumOfParts_of_isDouble rest count hd, standsFor_add_fraction hpos hlt hc,
      Or.inr (Or.inr rfl)⟩
  · exact ⟨_, sumOfParts_of_le h hw hlt hc, standsFor_whole h hlt, Or.inr (Or.inl rfl)⟩

/-- The exact number is not beyond the double of the next whole number after all words. -/
theorem whole_add_share_le (hw : whole < 0x10000000000000000) (hlt : rest < count) :
    (whole + rest / count : ℚ) ≤ (0x10000000000000000 : Nat) := by
  have hq := share_lt_one hlt
  calc (whole + rest / count : ℚ) ≤ (whole + 1 : Nat) := by
        push_cast
        linarith
    _ ≤ (0x10000000000000000 : Nat) := Nat.cast_le.mpr hw

/-- **No double lies between the exact number and the sum of its parts.** -/
theorem isFaithful_sumOfParts (hw : whole < 0x10000000000000000) (hlt : rest < count)
    (hc : count ≤ 2 ^ 53) : IsFaithful (whole + rest / count) (sumOfParts whole rest count) := by
  obtain ⟨r, he, hr, -⟩ := exists_standsFor hw.le hlt hc
  have hfin : (nearest (0x10000000000000000 : Nat)).IsFinite := isFinite_ofNat (Nat.le_refl _)
  rw [he]
  refine hr.isFaithful (isFinite_nearest ?_ hfin)
  rw [Nat.abs_cast, abs_of_nonneg hr.nonneg]
  exact hr.above _ (Or.inl isDouble_wordSize) (whole_add_share_le hw hlt)

/-- **Unless a part is rounded onto a midpoint, the sum is the nearest double.** -/
theorem sumOfParts_eq_nearest (hw : whole ≤ 0x10000000000000000) (hlt : rest < count)
    (hc : count ≤ 2 ^ 53)
    (h : ∀ m, IsMidpoint m → m = whole ∨ m = whole + (fraction rest count).value →
      m = (whole + rest / count : ℚ)) :
    sumOfParts whole rest count = nearest (whole + rest / count) := by
  obtain ⟨r, he, hr, hcases⟩ := exists_standsFor hw hlt hc
  have h0 : (0 : ℚ) ≤ whole + rest / count :=
    add_nonneg (Nat.cast_nonneg whole) (share_nonneg rest count)
  rw [he]
  refine hr.nearest_eq h0 fun hm => ?_
  rcases hcases with hexact | hpart
  · exact hexact
  · exact h r hm hpart

end Parts

/-! ## 4. Means -/

/-- Upper bounds of the words are bounds of their sum, in proportion to their count. -/
theorem total_le_mul {values : List UInt64} {bound : Nat} (h : ∀ v ∈ values, v.toNat ≤ bound) :
    total values ≤ bound * values.length := by
  induction values with
  | nil => exact Nat.zero_le _
  | cons v vs ih =>
    have hv := h v List.mem_cons_self
    have hvs := ih fun w hw => h w (List.mem_cons_of_mem _ hw)
    rw [total_cons, List.length_cons, Nat.mul_succ]
    omega

/-- So are lower bounds. -/
theorem mul_le_total {values : List UInt64} {bound : Nat} (h : ∀ v ∈ values, bound ≤ v.toNat) :
    bound * values.length ≤ total values := by
  induction values with
  | nil => exact Nat.le_refl _
  | cons v vs ih =>
    have hv := h v List.mem_cons_self
    have hvs := ih fun w hw => h w (List.mem_cons_of_mem _ hw)
    rw [total_cons, List.length_cons, Nat.mul_succ]
    omega

/-- Equal words have a sum that is a multiple. -/
theorem total_of_forall_eq {values : List UInt64} {v : UInt64} (h : ∀ value ∈ values, value = v) :
    total values = v.toNat * values.length :=
  Nat.le_antisymm (total_le_mul fun w hw => (congrArg UInt64.toNat (h w hw)).le)
    (mul_le_total fun w hw => (congrArg UInt64.toNat (h w hw)).ge)

section Means

variable {values : List UInt64}

theorem whole_lt (h : values ≠ []) : total values / values.length < 0x10000000000000000 := by
  have hc := List.length_pos_iff.mpr h
  have ht : total values ≤ 0xffffffffffffffff * values.length :=
    total_le_mul fun v _ => Nat.le_of_lt_succ v.toNat_lt
  exact Nat.div_lt_of_lt_mul (by omega)

theorem rest_lt (h : values ≠ []) : total values % values.length < values.length :=
  Nat.mod_lt _ (List.length_pos_iff.mpr h)

/-- A mean that is not zero is far above the least numbers. -/
theorem le_exactMean (hlen : values.length ≤ 2 ^ 53) (h0 : exactMean values ≠ 0) :
    1 / 2 ^ 1022 ≤ exactMean values := by
  have ht : 1 ≤ total values := by
    by_contra ht
    rw [exactMean, Nat.eq_zero_of_not_pos ht, Nat.cast_zero, zero_div] at h0
    exact h0 rfl
  have hc : 0 < values.length := by
    by_contra hc
    rw [exactMean, Nat.eq_zero_of_not_pos hc, Nat.cast_zero, div_zero] at h0
    exact h0 rfl
  have hl : (values.length : ℚ) ≤ 2 ^ 53 := by exact_mod_cast hlen
  calc (1 / 2 ^ 1022 : ℚ) ≤ 1 / 2 ^ 53 := one_div_pow_le_one_div_pow_of_le one_le_two (by decide)
    _ ≤ 1 / values.length := one_div_le_one_div_of_le (by exact_mod_cast hc) hl
    _ ≤ exactMean values := div_le_div_of_nonneg_right (by exact_mod_cast ht) (Nat.cast_nonneg _)

/-- **A mean is accurate.** The 128-bit sum is exact at every word, so it does not wrap around. The
    mean is off by at most the 2^52nd part, and not at all if the exact mean is a double: the mean
    of equal words that are doubles is this double, however great their sum is. -/
theorem mean_accurate (kind : Text) (hne : values ≠ []) (hlen : values.length ≤ 2 ^ 53) :
    (∀ n, (accumulated (values.take n)).toNat = total (values.take n)) ∧
    ∃ x, mean kind values = .ok x ∧ x.IsFinite ∧
      |x.value - exactMean values| ≤ 1 / 2 ^ 52 * exactMean values ∧
      (IsDouble (exactMean values) → x.value = exactMean values) ∧
      ∀ v : UInt64, (∀ value ∈ values, value = v) → IsDouble v.toNat → x.value = v.toNat := by
  have hfaithful := isFaithful_sumOfParts (whole_lt hne) (rest_lt hne) hlen
  rw [← exactMean_eq hne] at hfaithful
  refine ⟨fun n => toNat_accumulated ?_, _, mean_eq_ok kind hne, hfaithful.finite, ?_,
    hfaithful.value_eq, ?_⟩
  · rw [List.length_take]
    omega
  · by_cases h0 : exactMean values = 0
    · have hz : IsDouble 0 := by exact_mod_cast isDouble_natCast (Nat.zero_le _)
      have hv := hfaithful.value_eq (h0 ▸ hz)
      rw [hv, h0]
      norm_num
    · have hle := whole_add_share_le (whole_lt hne) (rest_lt hne)
      rw [← exactMean_eq hne] at hle
      have ha := hfaithful.abs_sub_le (le_exactMean hlen h0) isDouble_wordSize hle
      linarith
  · intro v hv hd
    have hm : exactMean values = v.toNat := by
      have hc : (values.length : ℚ) ≠ 0 := by exact_mod_cast (List.length_pos_iff.mpr hne).ne'
      rw [exactMean, total_of_forall_eq hv, Nat.cast_mul, mul_div_cancel_right₀ _ hc]
    rw [hfaithful.value_eq (hm ▸ hd), hm]

/-- The mean of ten copies of 2^53 + 2, whose sum is no double. -/
theorem mean_accurate_tenfold :
    let values : List UInt64 := List.replicate 10 0x20000000000002
    values ≠ [] ∧ values.length ≤ 2 ^ 53 ∧
    ∃ x, mean latencyKind values = .ok x ∧ x.value = 0x20000000000002 := by
  intro values
  have hne : values ≠ [] := by decide
  have hlen : values.length ≤ 2 ^ 53 := by decide
  have hd : IsDouble ((0x20000000000002 : UInt64).toNat) :=
    ⟨ofBits 0x4340000000000001, by decide, by decide +kernel⟩
  obtain ⟨-, x, hx, -, -, -, heq⟩ := mean_accurate latencyKind hne hlen
  refine ⟨hne, hlen, x, hx, ?_⟩
  exact_mod_cast heq 0x20000000000002 (fun v hv => List.eq_of_mem_replicate hv) hd

/-- **A mean is the nearest double, up to what rounding its parts hides.** The fraction that the
    remainder makes is rounded by itself. Then no double lies between the exact mean and the mean.
    It is the nearest double, ties going to even codes, if no midpoint between two neighbouring
    doubles but the exact mean itself is the whole part, or the whole part with the rounded
    fraction. And as long as the whole part is a double, the mean is nearest to the whole part with
    the rounded fraction. -/
theorem mean_isNearest (kind : Text) (hne : values ≠ []) (hlen : values.length ≤ 2 ^ 53) :
    let whole := total values / values.length
    let rest := total values % values.length
    let part := fraction rest values.length
    IsNearest (rest / values.length) part ∧
    ∃ x, mean kind values = .ok x ∧ x.negative = false ∧ IsFaithful (exactMean values) x ∧
      ((∀ m, IsMidpoint m → m = whole ∨ m = whole + part.value → m = exactMean values) →
        IsNearest (exactMean values) x) ∧
      (IsDouble whole → IsNearest (whole + part.value) x) := by
  intro whole rest part
  have hw := whole_lt hne
  have hr := rest_lt hne
  have hfaithful := isFaithful_sumOfParts hw hr hlen
  have hfin := hfaithful.finite
  have h0 : 0 ≤ exactMean values := div_nonneg (Nat.cast_nonneg _) (Nat.cast_nonneg _)
  rw [← exactMean_eq hne] at hfaithful
  refine ⟨?_, _, mean_eq_ok kind hne, negative_sumOfParts, hfaithful, fun h => ?_, fun h => ?_⟩
  · have hp := isFinite_fraction hr
    have he := fraction_eq_nearest hr hlen
    change IsNearest _ (fraction rest values.length)
    rw [he] at hp ⊢
    exact isNearest_nearest (share_nonneg rest values.length) hp
  · have he := sumOfParts_eq_nearest hw.le hr hlen (exactMean_eq hne ▸ h)
    rw [← exactMean_eq hne] at he
    rw [he] at hfin ⊢
    exact isNearest_nearest h0 hfin
  · have he := sumOfParts_of_isDouble rest values.length h
    rw [he] at hfin ⊢
    exact isNearest_nearest
      (add_nonneg (Nat.cast_nonneg _) (fraction_nonneg rest values.length)) hfin

/-- A mean far beyond 2^53, where the fraction is lost: its whole part is a double, and a midpoint
    there is a whole number. -/
theorem mean_isNearest_beyond_fractions :
    let values : List UInt64 := [0x20000000000002, 0x20000000000003]
    values ≠ [] ∧ values.length ≤ 2 ^ 53 ∧
    ∃ x, mean latencyKind values = .ok x ∧ IsNearest (exactMean values) x := by
  intro values
  have hne : values ≠ [] := by decide
  have hlen : values.length ≤ 2 ^ 53 := by decide
  have hwhole : (total values / values.length : Nat) = 0x20000000000002 := by decide
  have hd : IsDouble ((0x20000000000002 : Nat) : ℚ) :=
    ⟨ofBits 0x4340000000000001, by decide, by decide +kernel⟩
  have hpart : (fraction (total values % values.length) values.length).value = 1 / 2 := by
    decide +kernel
  obtain ⟨-, x, hx, -, -, hnearest, -⟩ := mean_isNearest latencyKind hne hlen
  refine ⟨hne, hlen, x, hx, hnearest fun m hm he => ?_⟩
  rw [hwhole, hpart] at he
  rcases he with rfl | rfl
  · exact absurd hd hm.not_isDouble
  · obtain ⟨j, hj⟩ := IsBoundary.exists_whole (Or.inr hm) (by norm_num)
    have hj : 2 * 0x20000000000002 + 1 = 2 * j := by
      have hq : (2 * 0x20000000000002 + 1 : ℚ) = 2 * j := by
        push_cast at hj
        linarith
      exact_mod_cast hq
    omega

/-- Five thirds are not given by the nearest double: two thirds are rounded down onto the midpoint
    before it, and then the tie goes to the even double below. -/
theorem mean_of_five_thirds :
    mean latencyKind [1, 2, 2] = .ok (ofBits 0x3ffaaaaaaaaaaaaa) ∧ exactMean [1, 2, 2] = 5 / 3 ∧
    ¬IsNearest (5 / 3) (ofBits 0x3ffaaaaaaaaaaaaa) ∧
    IsNearest (5 / 3) (ofBits 0x3ffaaaaaaaaaaaab) := by
  have hbelow : (ofBits 0x3ffaaaaaaaaaaaaa).value = 0x1aaaaaaaaaaaaa / 0x10000000000000 := by
    decide +kernel
  have habove : (ofBits 0x3ffaaaaaaaaaaaab).value = 0x1aaaaaaaaaaaab / 0x10000000000000 := by
    decide +kernel
  have hnearest : nearest (5 / 3) = ofBits 0x3ffaaaaaaaaaaaab := by decide +kernel
  refine ⟨by decide +kernel, by decide +kernel, fun h => ?_, ?_⟩
  · have hle := h.le (ofBits 0x3ffaaaaaaaaaaaab) (by decide)
    rw [hbelow, habove] at hle
    norm_num [abs_of_nonneg, abs_of_neg] at hle
  · rw [← hnearest]
    exact isNearest_nearest (by norm_num) (by decide +kernel)

end Means

end LookupLog
