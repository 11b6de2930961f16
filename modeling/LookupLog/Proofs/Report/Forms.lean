import LookupLog.Proofs.Decimal.Coarsest
import LookupLog.Proofs.Decimal.Forms
import LookupLog.Proofs.Report.Numbers

/-!
# Which numbers of a report have an exponent

The power of ten that decides it is that of the shortest decimal, which may be greater than that of
the double: the double nearest to 10^23 is smaller, but its shortest decimal is 10^23. At 10^-4 and
at 10^16 this does not happen (`inFull_leading_iff`), so it is the double itself that decides
(`writeReal_form`).
-/

namespace LookupLog

open Binary64

/-! ## 1. The first digit -/

namespace Decimal

variable {d : Decimal}

/-- The power of ten of the first digit. -/
def leading (d : Decimal) : Int :=
  d.exponent + (Text.ofNat d.coefficient).length - 1

theorem pow_leading_le (h : d.coefficient ≠ 0) : (10 : ℚ) ^ d.leading ≤ |d.value| := by
  have hz : (10 : ℚ) ≠ 0 := by norm_num
  have hl := List.length_pos_iff.mpr (Text.ofNat_ne_nil d.coefficient)
  have he : d.leading = ((Text.ofNat d.coefficient).length - 1 : Nat) + d.exponent := by
    unfold leading
    omega
  have hc : ((10 : ℚ) ^ ((Text.ofNat d.coefficient).length - 1)) ≤ d.coefficient := by
    exact_mod_cast Text.pow_length_le h
  rw [abs_value, he, zpow_add₀ hz, zpow_natCast]
  exact mul_le_mul_of_nonneg_right hc (by positivity)

theorem abs_value_lt_pow (d : Decimal) : |d.value| < (10 : ℚ) ^ (d.leading + 1) := by
  have hz : (10 : ℚ) ≠ 0 := by norm_num
  have he : d.leading + 1 = ((Text.ofNat d.coefficient).length : Nat) + d.exponent := by
    unfold leading
    omega
  have hc : (d.coefficient : ℚ) < 10 ^ (Text.ofNat d.coefficient).length := by
    exact_mod_cast Text.lt_pow_length d.coefficient
  rw [abs_value, he, zpow_add₀ hz, zpow_natCast]
  exact mul_lt_mul_of_pos_right hc (by positivity)

/-- **The first digit decides about powers of ten.** -/
theorem pow_le_abs_value_iff (h : d.coefficient ≠ 0) (p : Int) :
    (10 : ℚ) ^ p ≤ |d.value| ↔ p ≤ d.leading := by
  have hone : (1 : ℚ) < 10 := by norm_num
  constructor
  · intro hp
    have hlt := (zpow_lt_zpow_iff_right₀ hone).mp (hp.trans_lt d.abs_value_lt_pow)
    omega
  · intro hp
    exact (zpow_le_zpow_right₀ hone.le hp).trans (pow_leading_le h)

end Decimal

namespace Report

/-! ## 2. The bounds -/

variable {x : Binary64}

/-- The number is zero, or from 10^-4 up to 10^16 in magnitude. -/
def StandsInFull (x : Binary64) : Prop :=
  x.value = 0 ∨ (10 : ℚ) ^ (-4 : Int) ≤ |x.value| ∧ |x.value| < (10 : ℚ) ^ (16 : Int)

/-- The lower bound: the double next to it is greater, and has it for its shortest decimal. -/
theorem least_inFull (hx : x.IsFinite) :
    (10 : ℚ) ^ (-4 : Int) ≤ |(x.shortest numberLayout.tie).value| ↔
      (10 : ℚ) ^ (-4 : Int) ≤ |x.value| := by
  have hp : (10 : ℚ) ^ (-4 : Int) = 1 / 10000 := by norm_num
  rw [hp]
  exact le_abs_value_shortest_iff (by norm_num) (by decide +kernel) (by decide +kernel) hx

/-- The upper bound, which is a double itself. -/
theorem beyond_inFull (hx : x.IsFinite) :
    (10 : ℚ) ^ (16 : Int) ≤ |(x.shortest numberLayout.tie).value| ↔
      (10 : ℚ) ^ (16 : Int) ≤ |x.value| := by
  have hp : (10 : ℚ) ^ (16 : Int) = 10000000000000000 := by norm_num
  rw [hp]
  exact le_abs_value_shortest_iff (by norm_num) (by decide +kernel) (by decide +kernel) hx

theorem leading_shortest_of_zero {tie : Tie} (h : x.code = 0) : (x.shortest tie).leading = 0 := by
  have hl : (Text.ofNat 0).length = 1 := by decide
  rw [shortest_of_zero h, Decimal.leading, hl]
  rfl

/-- **The double itself decides about its form.** -/
theorem inFull_leading_iff (hx : x.IsFinite) :
    numberLayout.inFull (x.shortest numberLayout.tie).leading = true ↔ StandsInFull x := by
  have hdef : ∀ p, numberLayout.inFull p = true ↔ -4 ≤ p ∧ ¬16 ≤ p := by
    intro p
    rw [Int.not_le]
    exact decide_eq_true_iff
  rcases Nat.eq_zero_or_pos x.code with h0 | h0
  · have hv : x.value = 0 := by rw [← abs_eq_zero, Binary64.abs_value, h0, codeMagnitude_zero]
    rw [leading_shortest_of_zero h0]
    exact iff_of_true (by decide) (Or.inl hv)
  · have hv : x.value ≠ 0 := by
      rw [← abs_pos, Binary64.abs_value, ← codeMagnitude_zero]
      exact codeMagnitude_strictMono h0
    have hc := (coefficient_shortest_pos numberLayout.tie h0).ne'
    rw [hdef, ← Decimal.pow_le_abs_value_iff hc, ← Decimal.pow_le_abs_value_iff hc, least_inFull hx,
      beyond_inFull hx, not_le, StandsInFull, or_iff_right hv]

/-! ## 3. The forms -/

/-- **A number in full**, without its sign. -/
theorem writeUnsigned_inFull (hx : x.IsFinite)
    (h : numberLayout.inFull (x.shortest numberLayout.tie).leading = true) :
    ∃ whole places, IsWholePart whole ∧ IsPlaces places ∧
      numberLayout.writeUnsigned (x.shortest numberLayout.tie) = whole ++ '.' :: places ∧
      (places = ['0'] ↔ ∃ n : Int, x.value = n) := by
  have hneg : (x.shortest numberLayout.tie).exponent < 0 →
      (x.shortest numberLayout.tie).coefficient % 10 ≠ 0 := by
    intro he
    refine coefficient_shortest_mod_ten _ (Nat.pos_of_ne_zero fun h0 => ?_)
    rw [shortest_of_zero h0] at he
    exact absurd he (lt_irrefl 0)
  obtain ⟨whole, places, hw, hp, he, hzero⟩ := writeInFull_form (exponent_shortest hx) hneg
  rw [exponent_shortest_nonneg_iff hx] at hzero
  exact ⟨whole, places, hw, hp, (if_pos h).trans he, hzero⟩

/-- **A number with an exponent**, without its sign. -/
theorem writeUnsigned_scientific
    (h : ¬numberLayout.inFull (x.shortest numberLayout.tie).leading = true) :
    ∃ first rest exponent digits, IsSignificand first rest ∧ IsExponent 2 exponent digits ∧
      numberLayout.writeUnsigned (x.shortest numberLayout.tie) =
        scientific first rest exponent digits ∧
      (10 : ℚ) ^ exponent ≤ |(x.shortest numberLayout.tie).value| ∧
      |(x.shortest numberLayout.tie).value| < (10 : ℚ) ^ (exponent + 1) := by
  have hcode : 0 < x.code := by
    refine Nat.pos_of_ne_zero fun h0 => h ?_
    rw [leading_shortest_of_zero h0]
    decide
  obtain ⟨first, rest, digits, hs, hd, he⟩ :=
    writeScientific_form (coefficient_shortest_mod_ten numberLayout.tie hcode) Nat.two_pos
      (x.shortest numberLayout.tie).leading
  exact ⟨first, rest, _, digits, hs, hd, (if_neg h).trans he,
    Decimal.pow_leading_le (coefficient_shortest_pos _ hcode).ne', Decimal.abs_value_lt_pow _⟩

theorem negative_shortest (tie : Tie) (x : Binary64) : (x.shortest tie).negative = x.negative := by
  unfold shortest
  simp only
  split <;> rfl

/-- **A finite double is written in one of two forms, and its exact value decides which.** The sign
    bit is written as a minus sign. Zero, and what is not below 10^-4 but below 10^16 in magnitude,
    stands in full, with the digit zero alone behind the point exactly if it is a whole number.
    Everything else has an exponent of at least two digits, that of the first digit of the decimal
    which is written. No form has a zero that could be left out, and it is read back as a decimal
    that rounds to the double. -/
theorem writeReal_form (hx : x.IsFinite) :
    ∃ t d, writeReal x = (if x.negative then ['-'] else []) ++ t ∧
      ((writeReal x).head? = some '-' ↔ x.negative = true) ∧
      Decimal.read? (writeReal x) = some d ∧ d.toBinary64 = x ∧
      (StandsInFull x →
        ∃ whole places, IsWholePart whole ∧ IsPlaces places ∧ t = whole ++ '.' :: places ∧
          (places = ['0'] ↔ ∃ n : Int, x.value = n)) ∧
      (¬StandsInFull x →
        ∃ first rest exponent digits, IsSignificand first rest ∧ IsExponent 2 exponent digits ∧
          t = scientific first rest exponent digits ∧
          (10 : ℚ) ^ exponent ≤ |d.value| ∧ |d.value| < (10 : ℚ) ^ (exponent + 1)) := by
  have hwrite : writeReal x = (if x.negative then ['-'] else []) ++
      numberLayout.writeUnsigned (x.shortest numberLayout.tie) := by
    rw [writeReal, if_pos hx, Layout.write, Layout.writeDecimal_eq, negative_shortest]
  refine ⟨_, _, hwrite, ?_, read?_writeReal hx, Layout.toBinary64_shown_shortest numberLayout hx,
    fun h => writeUnsigned_inFull hx ((inFull_leading_iff hx).mpr h), fun h => ?_⟩
  · obtain ⟨c, rest, he, hc⟩ := Decimal.exists_digit_of_readUnsigned?
      (numberLayout.readUnsigned?_writeUnsigned (x.shortest numberLayout.tie))
    rw [hwrite, he]
    cases x.negative with
    | true => exact iff_of_true rfl rfl
    | false =>
      refine iff_of_false (fun h => ?_) Bool.false_ne_true
      obtain rfl : c = '-' := Option.some.inj h
      cases hc
  · rw [Layout.value_shown]
    exact writeUnsigned_scientific (mt (inFull_leading_iff hx).mp h)

/-- The negative double next to -10^-4 on the side of zero, which has an exponent. -/
theorem writeReal_form_next_to_bound :
    let x := ofBits 0xbf1a36e2eb1c432c
    x.IsFinite ∧ ¬StandsInFull x ∧ writeReal x = "-9.999999999999999e-05".toList ∧
    ∃ t, writeReal x = '-' :: t ∧
      ∃ first rest exponent digits, IsSignificand first rest ∧ IsExponent 2 exponent digits ∧
        t = scientific first rest exponent digits := by
  intro x
  have hx : x.IsFinite := by decide
  have hbelow : x.value ≠ 0 ∧ |x.value| < 1 / 10000 := by decide +kernel
  have hout : ¬StandsInFull x := by
    have hbound : (10 : ℚ) ^ (-4 : Int) = 1 / 10000 := by norm_num
    rw [StandsInFull, hbound, not_or, not_and_or, not_le]
    exact ⟨hbelow.1, Or.inl hbelow.2⟩
  obtain ⟨t, d, ht, -, -, -, -, hscientific⟩ := writeReal_form hx
  obtain ⟨first, rest, exponent, digits, hs, hd, he, -⟩ := hscientific hout
  exact ⟨hx, hout, by decide +kernel, t, ht, first, rest, exponent, digits, hs, hd, he⟩

end Report

end LookupLog
