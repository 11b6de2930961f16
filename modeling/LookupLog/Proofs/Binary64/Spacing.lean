import LookupLog.Proofs.Binary64.Closest

/-!
# How far apart doubles are

Within a block of codes the magnitudes are the multiples of one power of two, and this power doubles
from each block to the next one:

* `units_succ`, `mul_step_le`: the step from one code to the next, and that it is small beside the
  magnitude;
* `isDouble_div_pow`, `value_ofNat`: numbers with at most 53 bits are doubles, so whole numbers up
  to 2^53 are;
* `le_value_nearest`, `value_nearest_le`: rounding does not step over a double, and leaves doubles
  as they are;
* `IsDouble.exists_even`, `IsBoundary.exists_whole` and their like: beyond a power of two, doubles
  and the midpoints between them are multiples of another one;
* `nearest_value_add`: so less than one is lost from 2^53 on;
* `nearest_eq_of_midpoints`: numbers on the same sides of all midpoints have the same nearest
  double.
-/

namespace LookupLog.Binary64

/-! ## 1. Steps between codes -/

/-- The distance from a code to the next one, in units. -/
def step (code : Nat) : Nat :=
  2 ^ (code / 0x10000000000000 - 1)

theorem units_succ (code : Nat) : units (code + 1) = units code + step code := by
  obtain ⟨e, m, rfl, hm, he⟩ := exists_block code
  have hs : (e * 0x10000000000000 + m) / 0x10000000000000 - 1 = e := by omega
  rw [step, hs, Nat.add_assoc, units_block (Nat.le_of_lt hm) he, units_block (by omega) (by omega),
    Nat.succ_mul]

theorem step_mono {m n : Nat} (h : m ≤ n) : step m ≤ step n := by
  have hd := Nat.div_le_div_right (c := 0x10000000000000) h
  exact Nat.pow_le_pow_right (by decide) (by omega)

/-- **Steps do not get smaller**: a magnitude is no further from the one before than from the next.
    -/
theorem two_mul_codeMagnitude_succ_le (code : Nat) :
    2 * codeMagnitude (code + 1) ≤ codeMagnitude code + codeMagnitude (code + 2) := by
  have hs : (step code : ℚ) ≤ step (code + 1) := by exact_mod_cast step_mono (Nat.le_succ code)
  have hp : (0 : ℚ) ≤ 2 ^ 1074 := by positivity
  have hu : 2 * (units (code + 1) : ℚ) ≤ units code + units (code + 2) := by
    rw [units_succ (code + 1), units_succ code]
    push_cast
    linarith
  unfold codeMagnitude
  rw [← mul_div_assoc, ← add_div]
  exact div_le_div_of_nonneg_right hu hp

/-- **The step is small beside the magnitude**: with 53 significant bits it is at most the 2^52nd
    part. -/
theorem mul_step_le {code : Nat} (h : 0x10000000000000 ≤ code) :
    0x10000000000000 * step code ≤ units code := by
  obtain ⟨e, m, rfl, hm, he⟩ := exists_block code
  have hs : (e * 0x10000000000000 + m) / 0x10000000000000 - 1 = e := by omega
  rw [step, hs, units_block (Nat.le_of_lt hm) he]
  exact Nat.mul_le_mul_right _ (by omega)

/-- From a block on, magnitudes are multiples of its power of two. -/
theorem pow_dvd_units {e code : Nat} (h : (e + 1) * 0x10000000000000 ≤ code) :
    2 ^ e ∣ units code := by
  obtain ⟨e', m, rfl, hm, he'⟩ := exists_block code
  rw [units_block (Nat.le_of_lt hm) he']
  exact Dvd.dvd.mul_left (Nat.pow_dvd_pow 2 (by omega)) m

/-- A number of at most 53 bits, times a power of two, is the magnitude of a code. -/
theorem exists_units (e : Nat) {m : Nat} (hm : m ≤ 0x20000000000000) :
    ∃ code, units code = m * 2 ^ e := by
  induction e generalizing m with
  | zero => exact ⟨0 * 0x10000000000000 + m, units_block hm (Or.inl rfl)⟩
  | succ e ih =>
    by_cases h : 0x10000000000000 ≤ m
    · exact ⟨(e + 1) * 0x10000000000000 + m, units_block hm (Or.inr h)⟩
    · -- there is room for another bit
      obtain ⟨code, hc⟩ := ih (m := 2 * m) (by omega)
      refine ⟨code, hc.trans ?_⟩
      rw [Nat.pow_succ, Nat.mul_comm 2 m, Nat.mul_assoc, Nat.mul_comm 2]

/-! ## 2. Doubles among the rational numbers -/

/-- A number that a finite double denotes. -/
def IsDouble (q : ℚ) : Prop :=
  ∃ x : Binary64, x.IsFinite ∧ x.value = q

theorem isDouble_value {x : Binary64} (h : x.IsFinite) : IsDouble x.value :=
  ⟨x, h, rfl⟩

theorem abs_value (x : Binary64) : |x.value| = codeMagnitude x.code := by
  have hm := magnitude_nonneg x
  rw [← magnitude_eq_codeMagnitude, value]
  split
  · rw [abs_neg, abs_of_nonneg hm]
  · exact abs_of_nonneg hm

theorem value_eq_codeMagnitude {x : Binary64} (h : x.negative = false) :
    x.value = codeMagnitude x.code := by
  rw [value_of_not_negative h, magnitude_eq_codeMagnitude]

theorem value_nearest {q : ℚ} (h : 0 ≤ q) : (nearest q).value = codeMagnitude (nearest q).code :=
  value_eq_codeMagnitude (negative_nearest_of_nonneg h)

theorem isDouble_codeMagnitude {code : Nat} (h : code < infinityCode) :
    IsDouble (codeMagnitude code) := by
  have hc : code < 0x8000000000000000 := Nat.lt_trans h (by decide)
  exact ⟨⟨false, code, hc⟩, h, value_eq_codeMagnitude rfl⟩

/-- A double that is not negative is the magnitude of a finite code. -/
theorem IsDouble.exists_code {q : ℚ} (h : IsDouble q) (h0 : 0 ≤ q) :
    ∃ code < infinityCode, codeMagnitude code = q := by
  obtain ⟨x, hx, rfl⟩ := h
  refine ⟨x.code, hx, ?_⟩
  rw [← abs_value, abs_of_nonneg h0]

theorem codeMagnitude_eq_div {code m e : Nat} (hu : units code = m * 2 ^ (1074 - e))
    (he : e ≤ 1074) : codeMagnitude code = m / 2 ^ e := by
  have hp : (2 : ℚ) ^ 1074 = 2 ^ e * 2 ^ (1074 - e) := by
    rw [← pow_add, Nat.add_sub_cancel' he]
  have h0 : (2 : ℚ) ^ (1074 - e) ≠ 0 := pow_ne_zero _ two_ne_zero
  rw [codeMagnitude, hu, hp, Nat.cast_mul, Nat.cast_pow, Nat.cast_ofNat, mul_div_mul_right _ _ h0]

/-- **A fraction of at most 53 bits is a double.** -/
theorem isDouble_div_pow {m e : Nat} (hm : m ≤ 0x20000000000000) (he : e ≤ 1074) :
    IsDouble (m / 2 ^ e) := by
  obtain ⟨code, hc⟩ := exists_units (1074 - e) hm
  rw [← codeMagnitude_eq_div hc he]
  refine isDouble_codeMagnitude (units_strictMono.lt_iff_lt.mp ?_)
  rw [hc, units_infinityCode]
  calc m * 2 ^ (1074 - e) ≤ 0x20000000000000 * 2 ^ 1074 :=
        Nat.mul_le_mul hm (Nat.pow_le_pow_right (by decide) (Nat.sub_le _ _))
    _ < 0x10000000000000 * 2 ^ 2046 := by decide +kernel

theorem isDouble_natCast {n : Nat} (h : n ≤ 0x20000000000000) : IsDouble n := by
  have hd := isDouble_div_pow h (Nat.zero_le 1074)
  rwa [pow_zero, div_one] at hd

/-- Whole numbers of at most 53 bits stay doubles when they are multiplied by powers of two. -/
theorem isDouble_mul_pow {m e : Nat} (hm : m ≤ 0x20000000000000) (he : e ≤ 900) :
    IsDouble (m * 2 ^ e) := by
  obtain ⟨code, hc⟩ := exists_units (1074 + e) hm
  have hq : codeMagnitude code = m * 2 ^ e := by
    have h0 : (2 : ℚ) ^ 1074 ≠ 0 := pow_ne_zero _ two_ne_zero
    rw [codeMagnitude, hc, Nat.cast_mul, Nat.cast_pow, Nat.cast_ofNat, pow_add,
      mul_left_comm, mul_div_cancel_left₀ _ h0]
  rw [← hq]
  refine isDouble_codeMagnitude (units_strictMono.lt_iff_lt.mp ?_)
  have hlt : ∀ last, 2 + (1074 + e) ≤ last →
      m * 2 ^ (1074 + e) < 0x10000000000000 * 2 ^ last := by
    intro last h
    calc m * 2 ^ (1074 + e) < 0x10000000000000 * 2 ^ 2 * 2 ^ (1074 + e) :=
          Nat.mul_lt_mul_of_pos_right (by omega) (Nat.pow_pos (by decide))
      _ = 0x10000000000000 * 2 ^ (2 + (1074 + e)) := by rw [Nat.mul_assoc, ← Nat.pow_add]
      _ ≤ 0x10000000000000 * 2 ^ last := Nat.mul_le_mul_left _ (Nat.pow_le_pow_right (by decide) h)
  rw [hc, units_infinityCode]
  exact hlt 2046 (by omega)

/-! ## 3. Rounding and doubles -/

/-- The magnitude of a finite code is rounded to this code. -/
theorem code_nearest_codeMagnitude {code : Nat} (h : code < infinityCode) :
    (nearest (codeMagnitude code)).code = code := by
  have habs := abs_of_nonneg (codeMagnitude_nonneg code)
  apply Nat.le_antisymm
  · refine Nat.le_of_not_lt fun hlt => ?_
    have hm := codeMagnitude_strictMono (Nat.lt_succ_self code)
    rw [lt_code_nearest_iff h, habs] at hlt
    rcases hlt with hlt | ⟨heq, -⟩ <;> linarith
  · cases code with
    | zero => exact Nat.zero_le _
    | succ n =>
      have hm := codeMagnitude_strictMono (Nat.lt_succ_self n)
      refine (lt_code_nearest_iff (Nat.lt_of_succ_lt h)).mpr (Or.inl ?_)
      rw [habs]
      linarith

/-- **A double is rounded to itself.** -/
theorem value_nearest_of_isDouble {q : ℚ} (h : IsDouble q) (h0 : 0 ≤ q) :
    (nearest q).value = q := by
  obtain ⟨code, hc, rfl⟩ := h.exists_code h0
  rw [value_nearest h0, code_nearest_codeMagnitude hc]

theorem nearest_value {x : Binary64} (h : x.IsFinite) (hn : x.negative = false) :
    nearest x.value = x := by
  rw [value_eq_codeMagnitude hn]
  refine ext_code ?_ (code_nearest_codeMagnitude h)
  rw [negative_nearest_of_nonneg (codeMagnitude_nonneg _), hn]

/-- **Rounding does not step over a double**, upwards. -/
theorem value_nearest_le {q z : ℚ} (hz : IsDouble z) (h0 : 0 ≤ q) (h : q ≤ z) :
    (nearest q).value ≤ z :=
  (value_nearest_mono h0 h).trans (value_nearest_of_isDouble hz (h0.trans h)).le

/-- Nor downwards. -/
theorem le_value_nearest {q z : ℚ} (hz : IsDouble z) (h0 : 0 ≤ q) (h : z ≤ q) :
    z ≤ (nearest q).value := by
  rcases le_total 0 z with hz0 | hz0
  · exact (value_nearest_of_isDouble hz hz0).ge.trans (value_nearest_mono hz0 h)
  · exact hz0.trans (value_nearest_nonneg h0)

/-- What is not beyond a double is rounded to a finite one. -/
theorem isFinite_nearest_of_le {q z : ℚ} (hz : IsDouble z) (h0 : 0 ≤ q) (h : q ≤ z) :
    (nearest q).IsFinite := by
  obtain ⟨code, hc, rfl⟩ := hz.exists_code (h0.trans h)
  refine isFinite_nearest (r := codeMagnitude code) ?_ ?_
  · rwa [abs_of_nonneg h0, abs_of_nonneg (h0.trans h)]
  · exact (code_nearest_codeMagnitude hc).trans_lt hc

/-- **Whole numbers up to 2^53 are not rounded.** -/
theorem value_ofNat {n : Nat} (h : n ≤ 0x20000000000000) : (ofNat n).value = n :=
  value_nearest_of_isDouble (isDouble_natCast h) (Nat.cast_nonneg n)

/-! ## 4. Grids -/

/-- The magnitude with which the block of a power of two begins. -/
theorem codeMagnitude_block (e : Nat) :
    codeMagnitude ((e + 1) * 0x10000000000000) = 2 ^ (52 + e) / 2 ^ 1074 := by
  have hu := units_block (e := e) (m := 0x10000000000000) (by decide) (Or.inr (Nat.le_refl _))
  have hp : 0x10000000000000 * 2 ^ e = 2 ^ (52 + e) := by rw [Nat.pow_add]
  rw [← Nat.succ_mul, hp] at hu
  rw [codeMagnitude, hu, Nat.cast_pow, Nat.cast_ofNat]

/-- **From the beginning of a block on**, magnitudes are multiples of its power of two. -/
theorem exists_multiple {e code : Nat} (h : (2 ^ (52 + e) / 2 ^ 1074 : ℚ) ≤ codeMagnitude code) :
    ∃ j : Nat, codeMagnitude code = j * 2 ^ e / 2 ^ 1074 := by
  rw [← codeMagnitude_block, codeMagnitude_strictMono.le_iff_le] at h
  obtain ⟨j, hj⟩ := pow_dvd_units h
  refine ⟨j, ?_⟩
  rw [codeMagnitude, hj, Nat.cast_mul, Nat.cast_pow, Nat.cast_ofNat, mul_comm]

/-- A number half way between the magnitudes of two neighbouring codes. -/
def IsMidpoint (m : ℚ) : Prop :=
  ∃ code < infinityCode, codeMagnitude code + codeMagnitude (code + 1) = 2 * m

/-- No double is a midpoint. -/
theorem IsMidpoint.not_isDouble {m : ℚ} (hm : IsMidpoint m) : ¬IsDouble m := by
  intro hd
  obtain ⟨code, -, hc⟩ := hm
  have hmono := codeMagnitude_strictMono
  have h0 := codeMagnitude_nonneg code
  have hlt := hmono (Nat.lt_succ_self code)
  obtain ⟨n, -, rfl⟩ := hd.exists_code (by linarith)
  have hbefore : code < n := hmono.lt_iff_lt.mp (by linarith)
  have hbehind : n < code + 1 := hmono.lt_iff_lt.mp (by linarith)
  omega

/-- Midpoints are multiples of half the power. -/
theorem IsMidpoint.exists_multiple {m : ℚ} {e : Nat} (hm : IsMidpoint m)
    (h : (2 ^ (52 + e) / 2 ^ 1074 : ℚ) ≤ m) : ∃ j : Nat, 2 * m = j * 2 ^ e / 2 ^ 1074 := by
  obtain ⟨code, -, hc⟩ := hm
  have hlt := codeMagnitude_strictMono (Nat.lt_succ_self code)
  -- the code after the midpoint lies behind the beginning of the block, so the one before is in it
  have hblock : (2 ^ (52 + e) / 2 ^ 1074 : ℚ) ≤ codeMagnitude code := by
    have hbehind : m < codeMagnitude (code + 1) := by linarith
    have hsucc := h.trans_lt hbehind
    rw [← codeMagnitude_block] at hsucc ⊢
    exact codeMagnitude_strictMono.monotone
      (Nat.le_of_lt_succ (codeMagnitude_strictMono.lt_iff_lt.mp hsucc))
  obtain ⟨j, hj⟩ := Binary64.exists_multiple hblock
  obtain ⟨j', hj'⟩ := Binary64.exists_multiple (hblock.trans hlt.le)
  refine ⟨j + j', ?_⟩
  rw [← hc, hj, hj', Nat.cast_add, add_mul, add_div]

section Grids

variable {z : ℚ}

theorem scaled_fraction (j : ℚ) : j * 2 ^ 1022 / 2 ^ 1074 = j / 2 ^ 52 := by
  have hp : (2 : ℚ) ^ 1074 = 2 ^ 52 * 2 ^ 1022 := by rw [← pow_add]
  rw [hp, mul_div_mul_right _ _ (pow_ne_zero _ two_ne_zero)]

theorem scaled_whole (j : ℚ) : j * 2 ^ 1075 / 2 ^ 1074 = j * 2 := by
  have hp : (2 : ℚ) ^ 1075 = 2 * 2 ^ 1074 := pow_succ' 2 1074
  rw [hp, ← mul_assoc, mul_div_assoc, div_self (pow_ne_zero _ two_ne_zero), mul_one]

theorem block_one : (2 : ℚ) ^ (52 + 1022) / 2 ^ 1074 = 1 :=
  div_self (pow_ne_zero _ two_ne_zero)

theorem block_two_pow : (2 : ℚ) ^ (52 + 1075) / 2 ^ 1074 = 2 ^ 53 := by
  rw [pow_add, scaled_whole, ← pow_succ]

/-- **From 2^53 on, doubles are even numbers.** -/
theorem IsDouble.exists_even (hz : IsDouble z) (h : 2 ^ 53 ≤ z) : ∃ j : Nat, z = j * 2 := by
  obtain ⟨code, -, rfl⟩ := hz.exists_code (le_trans (by positivity) h)
  rw [← block_two_pow] at h
  obtain ⟨j, hj⟩ := Binary64.exists_multiple h
  exact ⟨j, by rw [hj, scaled_whole]⟩

/-- From 2^53 on, neighbours are at least two apart. -/
theorem two_le_codeMagnitude_succ {code : Nat} (h : 2 ^ 53 ≤ codeMagnitude code) :
    codeMagnitude code + 2 ≤ codeMagnitude (code + 1) := by
  have hlt := codeMagnitude_strictMono (Nat.lt_succ_self code)
  have h' := h.trans hlt.le
  rw [← block_two_pow] at h h'
  obtain ⟨j, hj⟩ := Binary64.exists_multiple h
  obtain ⟨j', hj'⟩ := Binary64.exists_multiple h'
  rw [scaled_whole] at hj hj'
  rw [hj, hj'] at hlt ⊢
  have hlt : j < j' := by
    have hq : (j : ℚ) < j' := by linarith
    exact_mod_cast hq
  have hle : (j + 1 : ℚ) ≤ j' := by exact_mod_cast hlt
  linarith

/-- **From 2^53 on, less than one is lost**: it is less than half of the way to the next double. -/
theorem nearest_value_add {x : Binary64} {f : ℚ} (hx : x.IsFinite) (hn : x.negative = false)
    (hbig : 2 ^ 53 ≤ x.value) (h0 : 0 ≤ f) (h1 : f < 1) : nearest (x.value + f) = x := by
  rw [value_eq_codeMagnitude hn] at hbig ⊢
  have hm := codeMagnitude_nonneg x.code
  have hsum := add_nonneg hm h0
  refine ext_code ?_ (Nat.le_antisymm ?_ ?_)
  · rw [negative_nearest_of_nonneg hsum, hn]
  · refine Nat.le_of_not_lt fun hlt => ?_
    have hgap := two_le_codeMagnitude_succ hbig
    rw [lt_code_nearest_iff hx, abs_of_nonneg hsum] at hlt
    rcases hlt with hlt | ⟨heq, -⟩ <;> linarith
  · calc x.code = (nearest (codeMagnitude x.code)).code := (code_nearest_codeMagnitude hx).symm
      _ ≤ (nearest (codeMagnitude x.code + f)).code := by
        refine code_nearest_mono ?_
        rw [abs_of_nonneg hm, abs_of_nonneg hsum]
        linarith

/-- A number where rounding may change: a double, or a midpoint between two. -/
def IsBoundary (b : ℚ) : Prop :=
  IsDouble b ∨ IsMidpoint b

/-- **From one on, boundaries have at most 53 places.** -/
theorem IsBoundary.exists_fraction (hb : IsBoundary z) (h : 1 ≤ z) : ∃ j : Nat, z = j / 2 ^ 53 := by
  have hblock := h
  rw [← block_one] at hblock
  rcases hb with hd | hm
  · obtain ⟨code, -, rfl⟩ := hd.exists_code (zero_le_one.trans h)
    obtain ⟨j, hj⟩ := Binary64.exists_multiple hblock
    rw [scaled_fraction] at hj
    refine ⟨2 * j, ?_⟩
    rw [hj, Nat.cast_mul, Nat.cast_ofNat]
    ring
  · obtain ⟨j, hj⟩ := hm.exists_multiple hblock
    rw [scaled_fraction] at hj
    exact ⟨j, by linarith⟩

/-- **From 2^53 on, boundaries are whole numbers.** -/
theorem IsBoundary.exists_whole (hb : IsBoundary z) (h : 2 ^ 53 ≤ z) : ∃ j : Nat, z = j := by
  rcases hb with hd | hm
  · obtain ⟨j, hj⟩ := hd.exists_even h
    exact ⟨j * 2, by rw [hj, Nat.cast_mul, Nat.cast_ofNat]⟩
  · rw [← block_two_pow] at h
    obtain ⟨j, hj⟩ := hm.exists_multiple h
    rw [scaled_whole] at hj
    exact ⟨j, by linarith⟩

end Grids

/-- **Numbers on the same sides of all midpoints have the same nearest double.** -/
theorem nearest_eq_of_midpoints {a b : ℚ} (ha : 0 ≤ a) (hb : 0 ≤ b)
    (h : ∀ m, IsMidpoint m → (m < a ↔ m < b) ∧ (m = a ↔ m = b)) : nearest a = nearest b := by
  have hcode : ∀ n < infinityCode, n < (nearest a).code ↔ n < (nearest b).code := by
    intro n hn
    obtain ⟨hlt, heq⟩ := h ((codeMagnitude n + codeMagnitude (n + 1)) / 2) ⟨n, hn, by ring⟩
    rw [div_lt_iff₀ two_pos, div_lt_iff₀ two_pos, mul_comm a, mul_comm b] at hlt
    rw [div_eq_iff two_ne_zero, div_eq_iff two_ne_zero, mul_comm a, mul_comm b] at heq
    rw [lt_code_nearest_iff hn, lt_code_nearest_iff hn, abs_of_nonneg ha, abs_of_nonneg hb, hlt,
      heq]
  have hle : ∀ q : ℚ, (nearest q).code ≤ infinityCode := fun q => nearestCode_le _ _
  refine ext_code ?_ (Nat.le_antisymm ?_ ?_)
  · rw [negative_nearest_of_nonneg ha, negative_nearest_of_nonneg hb]
  · refine Nat.le_of_not_lt fun hlt => ?_
    exact absurd ((hcode _ (Nat.lt_of_lt_of_le hlt (hle a))).mp hlt) (Nat.lt_irrefl _)
  · refine Nat.le_of_not_lt fun hlt => ?_
    exact absurd ((hcode _ (Nat.lt_of_lt_of_le hlt (hle b))).mpr hlt) (Nat.lt_irrefl _)

end LookupLog.Binary64
