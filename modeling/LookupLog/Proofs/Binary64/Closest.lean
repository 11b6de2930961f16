import LookupLog.Proofs.Binary64.Value
import Mathlib.Algebra.Order.Group.Abs

/-!
# No other double is nearer

What it means to be the double nearest to a number, said without rounding anything (`IsNearest`): it
is finite, no finite double is nearer, and its code is even if another one is equally near. Rounding
does just that (`isNearest_iff`): of the doubles with the sign of the number the rounded one is
nearest, and no other is. Only a zero may have either sign, which therefore has to be given.

It all comes from one comparison of codes: every other code is farther from the magnitude, or it is
equally far and odd while the rounded one is even (`isNearestCode_nearest`).
-/

namespace LookupLog.Binary64

/-! ## 1. Codes -/

/-- The magnitude of a code. -/
def codeMagnitude (code : Nat) : ℚ :=
  units code / 2 ^ 1074

theorem magnitude_eq_codeMagnitude (x : Binary64) : x.magnitude = codeMagnitude x.code :=
  magnitude_eq x

theorem codeMagnitude_strictMono : StrictMono codeMagnitude := by
  intro m n h
  have hu : (units m : ℚ) < units n := Nat.cast_lt.mpr (units_strictMono h)
  exact div_lt_div_of_pos_right hu (by positivity)

@[simp] theorem codeMagnitude_zero : codeMagnitude 0 = 0 := by
  rw [codeMagnitude, units_zero, Nat.cast_zero, zero_div]

theorem codeMagnitude_nonneg (n : Nat) : 0 ≤ codeMagnitude n := by
  rw [← codeMagnitude_zero]
  exact codeMagnitude_strictMono.monotone (Nat.zero_le n)

theorem cast_shiftLeft (n places : Nat) : ((n <<< places : ℕ) : ℚ) = n * 2 ^ places := by
  rw [Nat.shiftLeft_eq, Nat.cast_mul, Nat.cast_pow, Nat.cast_ofNat]

/-- **The midpoint decides**, seen from the rational numbers. -/
theorem lt_code_nearest_iff {q : ℚ} {n : Nat} (hn : n < infinityCode) :
    n < (nearest q).code ↔
      codeMagnitude n + codeMagnitude (n + 1) < 2 * |q| ∨
        codeMagnitude n + codeMagnitude (n + 1) = 2 * |q| ∧ n % 2 = 1 := by
  have hd : (0 : ℚ) < q.den := by exact_mod_cast q.den_pos
  have hc : (nearest q).code = nearestCode (q.num.natAbs <<< 1074) q.den := rfl
  rw [hc, lt_nearestCode_iff q.den_pos hn, Beyond, abs_eq_natAbs_div]
  unfold codeMagnitude
  have hs := cast_shiftLeft q.num.natAbs 1074
  have hp : (0 : ℚ) < 2 ^ 1074 := by positivity
  generalize (2 : ℚ) ^ 1074 = p at hs hp ⊢
  generalize q.num.natAbs <<< 1074 = num at hs ⊢
  -- both sides in units, times the denominator
  have hl : ((units n : ℚ) / p + units (n + 1) / p) * (q.den * p) =
      ((units n + units (n + 1)) * q.den : ℕ) := by
    push_cast
    field_simp
  have hr : 2 * ((q.num.natAbs : ℚ) / q.den) * (q.den * p) = (2 * num : ℕ) := by
    push_cast
    rw [hs]
    field_simp
  have hm : (0 : ℚ) < q.den * p := mul_pos hd hp
  rw [← mul_lt_mul_iff_left₀ hm, ← mul_left_inj' hm.ne', hl, hr, Nat.cast_lt, Nat.cast_inj]

section Distances

variable {a b d : ℚ}

/-- Beyond the middle of two numbers the greater one is nearer. -/
theorem abs_sub_lt_of_add_lt (hab : a < b) (h : a + b < 2 * d) : |d - b| < |d - a| := by
  have ha : 0 ≤ d - a := by linarith
  rw [abs_of_nonneg ha, abs_lt]
  constructor <;> linarith

/-- And before it the smaller one is. -/
theorem abs_sub_lt_of_lt_add (hab : a < b) (h : 2 * d < a + b) : |d - a| < |d - b| := by
  have hb : d - b ≤ 0 := by linarith
  rw [abs_of_nonpos hb, abs_lt]
  constructor <;> linarith

theorem abs_sub_eq_of_add_eq (h : a + b = 2 * d) : |d - b| = |d - a| := by
  have hm : d - b = -(d - a) := by linarith
  rw [hm, abs_neg]

end Distances

/-- A code is nearest to a magnitude: it is finite, and every other finite code is farther, or it is
    equally far and odd while the nearest one is even. -/
structure IsNearestCode (m : ℚ) (c : Nat) : Prop where
  finite : c < infinityCode
  distance : ∀ n < infinityCode, n ≠ c → |m - codeMagnitude c| < |m - codeMagnitude n| ∨
    |m - codeMagnitude c| = |m - codeMagnitude n| ∧ c % 2 = 0 ∧ n % 2 = 1

/-- **The code of the rounded number is nearest to its magnitude.** -/
theorem isNearestCode_nearest {q : ℚ} (hf : (nearest q).IsFinite) :
    IsNearestCode |q| (nearest q).code := by
  refine ⟨hf, fun n hn hne => ?_⟩
  have hbeyond := fun m (hm : m < infinityCode) => lt_code_nearest_iff (q := q) hm
  have hf : (nearest q).code < infinityCode := hf
  have hmono := codeMagnitude_strictMono
  generalize (nearest q).code = c at hbeyond hf hne ⊢
  rcases Nat.lt_or_gt_of_ne hne with h | h
  · -- the number is beyond the midpoint before `c`, and `n` is not behind that midpoint
    obtain ⟨m, rfl⟩ := Nat.exists_eq_succ_of_ne_zero (Nat.ne_zero_of_lt h)
    have hb := (hbeyond m (Nat.lt_of_succ_lt hf)).mp (Nat.lt_succ_self m)
    have hle := hmono.monotone (Nat.le_of_lt_succ h)
    rcases hb with hb | ⟨hb, hodd⟩
    · exact Or.inl (abs_sub_lt_of_add_lt (hmono h) (by linarith))
    · rcases Nat.lt_or_eq_of_le (Nat.le_of_lt_succ h) with hlt | rfl
      · have hlt := hmono hlt
        exact Or.inl (abs_sub_lt_of_add_lt (hmono h) (by linarith))
      · exact Or.inr ⟨abs_sub_eq_of_add_eq hb, by omega, hodd⟩
  · -- the number is not beyond the midpoint after `c`, and `n` is not before it
    have hb := mt (hbeyond c hf).mpr (Nat.lt_irrefl c)
    rw [not_or, not_lt, not_and_or] at hb
    obtain ⟨hle, hb⟩ := hb
    rcases Nat.lt_or_eq_of_le (Nat.succ_le_of_lt h) with hlt | rfl
    · have hlt := hmono hlt
      exact Or.inl (abs_sub_lt_of_lt_add (hmono h) (by linarith))
    · rcases lt_or_eq_of_le hle with hlt | he
      · exact Or.inl (abs_sub_lt_of_lt_add (hmono h) hlt)
      · have heven : c % 2 ≠ 1 := hb.resolve_left fun hn => hn he.symm
        exact Or.inr ⟨(abs_sub_eq_of_add_eq he.symm).symm, by omega, by omega⟩

namespace IsNearestCode

variable {m : ℚ} {c : Nat}

/-- No code is nearer. -/
theorem le (h : IsNearestCode m c) {n : Nat} (hn : n < infinityCode) :
    |m - codeMagnitude c| ≤ |m - codeMagnitude n| := by
  by_cases hne : n = c
  · rw [hne]
  · rcases h.distance n hn hne with hd | ⟨hd, -⟩
    · exact hd.le
    · exact hd.le

/-- Another code that is equally near is odd, and the nearest one is even. -/
theorem parity (h : IsNearestCode m c) {n : Nat} (hn : n < infinityCode) (hne : n ≠ c)
    (hle : |m - codeMagnitude n| ≤ |m - codeMagnitude c|) : c % 2 = 0 ∧ n % 2 = 1 := by
  rcases h.distance n hn hne with hd | ⟨-, hp⟩
  · exact absurd hle (not_le.mpr hd)
  · exact hp

/-- Zero has the code zero, so the nearest code is no farther than that. -/
theorem le_abs (h : IsNearestCode m c) : |m - codeMagnitude c| ≤ |m| := by
  have hz := h.le (n := 0) (by decide)
  rwa [codeMagnitude_zero, sub_zero] at hz

/-- If nothing is nearer than zero then the code is even. -/
theorem even_of_abs_le (h : IsNearestCode m c) (hm : |m| ≤ |m - codeMagnitude c|) : c % 2 = 0 := by
  by_cases hc : 0 = c
  · rw [← hc]
  · refine (h.parity (n := 0) (by decide) hc ?_).1
    rwa [codeMagnitude_zero, sub_zero]

end IsNearestCode

/-! ## 2. Doubles -/

/-- A double is nearest to a number: it is finite, no finite double is nearer, and if one of another
    value is equally near then its own code is even. -/
structure IsNearest (q : ℚ) (x : Binary64) : Prop where
  finite : x.IsFinite
  le : ∀ y : Binary64, y.IsFinite → |q - x.value| ≤ |q - y.value|
  even : ∀ y : Binary64, y.IsFinite → y.value ≠ x.value → |q - y.value| = |q - x.value| →
    x.code % 2 = 0

/-- A number may have a sign; zero may have both. -/
def HasSign (negative : Bool) (q : ℚ) : Prop :=
  if negative then q ≤ 0 else 0 ≤ q

theorem HasSign.eq_zero {negative : Bool} {q : ℚ} (h : HasSign negative q)
    (h' : HasSign (!negative) q) : q = 0 := by
  cases negative with
  | false => exact le_antisymm h' h
  | true => exact le_antisymm h h'

variable {q : ℚ} {x y : Binary64}

/-- Doubles of the sign of a number are compared with it by their codes. -/
theorem abs_sub_value (h : HasSign x.negative q) :
    |q - x.value| = |(|q| - codeMagnitude x.code)| := by
  rw [value, magnitude_eq_codeMagnitude]
  cases hn : x.negative with
  | false =>
    rw [hn] at h
    rw [abs_of_nonneg h, if_neg Bool.false_ne_true]
  | true =>
    rw [hn] at h
    rw [abs_of_nonpos h, if_pos rfl, abs_sub_comm, neg_sub_comm]

/-- Doubles of the other sign are no nearer than zero. -/
theorem abs_sub_value_of_not_hasSign (h : ¬HasSign x.negative q) :
    |q - x.value| = |q| + codeMagnitude x.code := by
  have hm := codeMagnitude_nonneg x.code
  rw [value, magnitude_eq_codeMagnitude]
  cases hn : x.negative with
  | false =>
    rw [hn] at h
    have h : q < 0 := not_le.mp h
    rw [if_neg Bool.false_ne_true, abs_of_neg h, abs_of_nonpos (by linarith)]
    ring
  | true =>
    rw [hn] at h
    have h : 0 < q := not_le.mp h
    rw [if_pos rfl, abs_of_pos h, abs_of_nonneg (by linarith)]
    ring

theorem code_eq_of_value_eq (hn : x.negative = y.negative) (hv : x.value = y.value) :
    x.code = y.code := by
  apply codeMagnitude_strictMono.injective
  rw [value, value, hn, magnitude_eq_codeMagnitude, magnitude_eq_codeMagnitude] at hv
  split at hv
  · exact neg_inj.mp hv
  · exact hv

/-- With a sign that the number may have, the nearest code makes the nearest double. -/
theorem isNearest_of_code (hs : HasSign x.negative q) (hc : IsNearestCode |q| x.code) :
    IsNearest q x := by
  refine ⟨hc.finite, fun y hy => ?_, fun y hy hne he => ?_⟩
  · rw [abs_sub_value hs]
    by_cases h : HasSign y.negative q
    · rw [abs_sub_value h]
      exact hc.le hy
    · rw [abs_sub_value_of_not_hasSign h]
      have hm := codeMagnitude_nonneg y.code
      have hz := hc.le_abs
      rw [abs_abs] at hz
      linarith
  · rw [abs_sub_value hs] at he
    by_cases h : HasSign y.negative q
    · rw [abs_sub_value h] at he
      by_cases hxy : y.code = x.code
      · -- only the signs differ, so the number is zero
        have hn : y.negative = !x.negative := by
          by_contra hn
          rw [Bool.not_eq_not] at hn
          exact hne (congrArg value (ext_code hn hxy))
        rw [hn] at h
        refine hc.even_of_abs_le ?_
        rw [hs.eq_zero h, abs_zero, abs_zero]
        exact abs_nonneg _
      · exact (hc.parity hy hxy he.le).1
    · rw [abs_sub_value_of_not_hasSign h] at he
      have hm := codeMagnitude_nonneg y.code
      refine hc.even_of_abs_le ?_
      rw [abs_abs]
      linarith

/-- **And no other double of that sign is nearest.** -/
theorem IsNearest.eq_of_code (hx : IsNearest q x) (hs : HasSign x.negative q)
    (hn : x.negative = y.negative) (hc : IsNearestCode |q| y.code) : x = y := by
  have hy : |q - y.value| = |(|q| - codeMagnitude y.code)| := abs_sub_value (hn ▸ hs)
  have hle := hx.le y hc.finite
  refine ext_code hn ?_
  by_contra hne
  rw [abs_sub_value hs, hy] at hle
  obtain ⟨-, hodd⟩ := hc.parity hx.finite hne hle
  have hge := hc.le hx.finite
  have heven := hx.even y hc.finite (fun hv => hne (code_eq_of_value_eq hn hv.symm))
    (by rw [hy, abs_sub_value hs, le_antisymm hle hge])
  omega

/-! ## 3. The rounded double -/

@[simp] theorem code_withSign (s : Bool) (x : Binary64) : (x.withSign s).code = x.code := rfl

@[simp] theorem negative_withSign (s : Bool) (x : Binary64) : (x.withSign s).negative = s := rfl

/-- What a number that is not negative is rounded to is nearest to it. -/
theorem isNearest_nearest (h0 : 0 ≤ q) (hf : (nearest q).IsFinite) : IsNearest q (nearest q) := by
  refine isNearest_of_code ?_ (isNearestCode_nearest hf)
  rw [negative_nearest_of_nonneg h0]
  exact h0

/-- **Rounding is finding the nearest double**, once the sign of a zero is settled. -/
theorem isNearest_iff {s : Bool} (hs : HasSign s q) (hf : (nearest q).IsFinite) :
    IsNearest q x ∧ x.negative = s ↔ x = (nearest q).withSign s := by
  have hc : IsNearestCode |q| ((nearest q).withSign s).code := by
    rw [code_withSign]
    exact isNearestCode_nearest hf
  constructor
  · rintro ⟨hx, rfl⟩
    exact hx.eq_of_code hs (negative_withSign _ _).symm hc
  · rintro rfl
    rw [negative_withSign]
    exact ⟨isNearest_of_code (by rwa [negative_withSign]) hc, rfl⟩

end LookupLog.Binary64
