import LookupLog.Proofs.Binary64.Spacing
import LookupLog.Proofs.Decimal.Shortest

/-!
# Shortest decimals are short

The search for the coarsest grid passes over no grid that has a multiple in the interval
(`RoundingInterval.le_coarsest`). So the shortest decimal of a double does not end in a zero
(`coefficient_shortest_mod_ten`), and it has places exactly if the double is no whole number
(`exponent_shortest_nonneg_iff`).

A decimal and the double it stands for may lie on different sides of a number, but not of one that
is a shortest decimal itself and is not rounded down (`le_abs_value_shortest_iff`).
-/

namespace LookupLog

/-! ## 1. The search -/

namespace RoundingInterval

variable {i : RoundingInterval} {tie : Tie} {step : Nat}

/-- Intervals have no gaps. -/
theorem Contains.of_between {m n k : Nat} (hm : i.Contains m) (hn : i.Contains n) (hmk : m ≤ k)
    (hkn : k ≤ n) : i.Contains k := by
  unfold Contains at *
  split at hm <;> rename_i hclosed
  · rw [if_pos hclosed] at hn ⊢
    omega
  · rw [if_neg hclosed] at hn ⊢
    omega

theorem nearestMultiple?_eq_none (h : i.nearestMultiple? tie step = none) :
    ¬i.Contains (i.centre / step * step) ∧ ¬i.Contains ((i.centre / step + 1) * step) := by
  unfold nearestMultiple? at h
  simp only at h
  split at h
  · split at h
    · cases h
    · split at h
      · cases h
      · cases tie <;> cases h
  · rename_i hbelow
    split at h
    · cases h
    · rename_i habove
      exact ⟨hbelow, habove⟩

/-- **If no multiple is taken then none is in the interval**: one of the two next to the centre
    would be. -/
theorem not_contains_of_nearestMultiple (hc : i.Contains i.centre) (hs : 0 < step)
    (h : i.nearestMultiple? tie step = none) (multiple : Nat) : ¬i.Contains (multiple * step) := by
  obtain ⟨hbelow, habove⟩ := nearestMultiple?_eq_none h
  have hd := Nat.div_mul_le_self i.centre step
  have ha : i.centre ≤ (i.centre / step + 1) * step := by
    rw [Nat.succ_mul]
    exact (Nat.lt_div_mul_add hs).le
  intro hm
  rcases Nat.lt_or_ge (i.centre / step) multiple with hlt | hge
  · exact habove (hc.of_between hm ha (Nat.mul_le_mul_right step hlt))
  · exact hbelow (hm.of_between hc (Nat.mul_le_mul_right step hge) hd)

/-- **The search passes over no grid** that has a multiple in the interval. -/
theorem le_coarsest (hc : i.Contains i.centre) {places exponent multiple : Nat}
    (h : i.Contains (multiple * 10 ^ exponent)) (hle : exponent ≤ places) :
    exponent ≤ (i.coarsest tie places).2 := by
  induction places with
  | zero => exact hle
  | succ places ih =>
    unfold coarsest
    cases hm : i.nearestMultiple? tie (Decimal.powerOfTen (places + 1)) with
    | some multiple => exact hle
    | none =>
      refine ih (Nat.le_of_lt_succ (Nat.lt_of_le_of_ne hle ?_))
      rintro rfl
      exact not_contains_of_nearestMultiple hc (Nat.pow_pos (by decide)) hm multiple h

end RoundingInterval

namespace Binary64

/-! ## 2. Digits -/

theorem units_pos {code : Nat} (h : 0 < code) : 0 < units code :=
  units_strictMono h

/-- Zero lies in the interval of no other code. -/
theorem not_contains_zero {code : Nat} (h : 0 < code) : ¬(roundingInterval code).Contains 0 := by
  have hl : 0 < (roundingInterval code).low :=
    Nat.mul_pos (Nat.add_pos_right _ (units_pos h)) unitScale_pos
  unfold RoundingInterval.Contains
  split <;> omega

theorem step_le_units {code : Nat} (h : 0 < code) : step code ≤ units code := by
  rcases Nat.lt_or_ge code 0x10000000000000 with hlt | hge
  · have hs : step code = 1 := by
      rw [step, Nat.div_eq_of_lt hlt]
      rfl
    rw [hs]
    exact units_pos h
  · exact (Nat.le_mul_of_pos_left _ (by decide)).trans (mul_step_le hge)

/-- No number in the interval is more than twice the centre. -/
theorem le_of_contains {code n : Nat} (h0 : 0 < code) (h : (roundingInterval code).Contains n) :
    n ≤ 2 * (roundingInterval code).centre := by
  have hs := step_le_units h0
  have hsucc := units_succ code
  have hhigh : (roundingInterval code).high ≤ 2 * (roundingInterval code).centre := by
    change (units code + units (code + 1)) * unitScale ≤ 2 * (2 * units code * unitScale)
    rw [← Nat.mul_assoc]
    exact Nat.mul_le_mul_right _ (by omega)
  unfold RoundingInterval.Contains at h
  split at h <;> omega

variable {tie : Tie} {x : Binary64}

theorem shortest_of_zero (h : x.code = 0) : x.shortest tie = ⟨x.negative, 0, 0⟩ := by
  unfold shortest
  simp only
  rw [if_pos h]

/-- **What the shortest decimal is**: it lies in the interval of the code, and no decimal that is
    not zero and lies there has a greater power of ten. -/
theorem exists_shortest (tie : Tie) (h : 0 < x.code) :
    ∃ coefficient places : Nat, x.shortest tie = ⟨x.negative, coefficient, places - 1075⟩ ∧
      (roundingInterval x.code).Contains (coefficient * 10 ^ places) ∧
      ∀ multiple exponent, 0 < multiple →
        (roundingInterval x.code).Contains (multiple * 10 ^ exponent) → exponent ≤ places := by
  have hcentre := contains_centre h
  refine ⟨_, _, if_neg (Nat.pos_iff_ne_zero.mp h),
    RoundingInterval.contains_coarsest hcentre _, fun multiple exponent hm hc => ?_⟩
  refine RoundingInterval.le_coarsest hcentre hc ?_
  -- the search begins beyond all powers of ten that lie in the interval
  have hle := le_of_contains h hc
  have hlt := Text.lt_pow_length (roundingInterval x.code).centre
  generalize (roundingInterval x.code).centre = centre at hle hlt ⊢
  have hp : 10 ^ exponent < 10 ^ ((Text.ofNat centre).length + 1) := by
    calc 10 ^ exponent ≤ multiple * 10 ^ exponent := Nat.le_mul_of_pos_left _ hm
      _ ≤ 2 * centre := hle
      _ < 10 ^ ((Text.ofNat centre).length + 1) := by
        rw [Nat.pow_succ]
        omega
  exact Nat.le_of_lt_succ ((Nat.pow_lt_pow_iff_right (by decide)).mp hp)

theorem coefficient_shortest_pos (tie : Tie) (h : 0 < x.code) :
    0 < (x.shortest tie).coefficient := by
  obtain ⟨coefficient, places, he, hc, -⟩ := exists_shortest tie h
  rw [he]
  refine Nat.pos_of_ne_zero ?_
  rintro rfl
  rw [Nat.zero_mul] at hc
  exact not_contains_zero h hc

/-- **The shortest digits do not end in a zero**, since they would be shorter without it. -/
theorem coefficient_shortest_mod_ten (tie : Tie) (h : 0 < x.code) :
    (x.shortest tie).coefficient % 10 ≠ 0 := by
  have hpos := coefficient_shortest_pos tie h
  obtain ⟨coefficient, places, he, hc, hmax⟩ := exists_shortest tie h
  rw [he] at hpos ⊢
  intro h10
  obtain ⟨c, rfl⟩ := Nat.dvd_of_mod_eq_zero h10
  rw [Nat.mul_comm 10, Nat.mul_assoc, ← Nat.pow_succ'] at hc
  have hle := hmax c (places + 1) (Nat.pos_of_mul_pos_left hpos) hc
  omega

/-! ## 3. Whole numbers -/

/-- The centre of the interval of a whole number. -/
theorem centre_of_whole {scale power total n : Nat} (hs : power * (2 * scale) = total) :
    2 * (n * power) * scale = n * total := by
  rw [← hs]
  ring

/-- **A whole number has no places.** -/
theorem exponent_shortest_nonneg {n : Nat} (h : codeMagnitude x.code = n) :
    0 ≤ (x.shortest tie).exponent := by
  rcases Nat.eq_zero_or_pos x.code with h0 | h0
  · rw [shortest_of_zero h0]
  · have hp : (2 ^ 1074 : ℚ) ≠ 0 := pow_ne_zero _ two_ne_zero
    have hu : (units x.code : ℚ) = (n * 2 ^ 1074 : Nat) := by
      rw [codeMagnitude, div_eq_iff hp] at h
      rw [h, Nat.cast_mul, Nat.cast_pow, Nat.cast_ofNat]
    have hu : units x.code = n * 2 ^ 1074 := Nat.cast_injective hu
    have hn : 0 < n := Nat.pos_of_mul_pos_right (hu ▸ units_pos h0)
    have hc : (roundingInterval x.code).centre = n * 10 ^ 1075 :=
      (congrArg (2 * · * unitScale) hu).trans (centre_of_whole pow_mul_unitScale)
    obtain ⟨coefficient, places, he, -, hmax⟩ := exists_shortest tie h0
    have hle := hmax n 1075 hn (hc ▸ contains_centre h0)
    rw [he]
    change 0 ≤ (places - 1075 : Int)
    omega

/-- The double nearest to a whole number is one. -/
theorem exists_value_ofNat {n : Nat} (hf : (ofNat n).IsFinite) :
    ∃ m : Nat, (ofNat n).value = m := by
  rcases Nat.lt_or_ge 0x20000000000000 n with h | h
  · have hd : IsDouble ((0x20000000000000 : Nat) : ℚ) := isDouble_natCast (Nat.le_refl _)
    have hle := le_value_nearest hd (Nat.cast_nonneg n) (by exact_mod_cast h.le)
    have hbig : (2 ^ 53 : ℚ) ≤ (ofNat n).value := by
      refine le_trans ?_ hle
      norm_num
    obtain ⟨j, hj⟩ := (isDouble_value hf).exists_even hbig
    exact ⟨j * 2, by rw [hj, Nat.cast_mul, Nat.cast_ofNat]⟩
  · exact ⟨n, value_ofNat h⟩

theorem code_nearest_abs (q : ℚ) : (nearest |q|).code = (nearest q).code :=
  Nat.le_antisymm (code_nearest_mono (abs_abs q).le) (code_nearest_mono (abs_abs q).ge)

/-- The shortest decimal is rounded to the code of the double. -/
theorem code_nearest_shortest (tie : Tie) (hx : x.IsFinite) :
    (nearest (x.shortest tie).value).code = x.code := by
  have h := toBinary64_shortest tie hx
  rw [Decimal.toBinary64_eq_nearest] at h
  exact (code_withSign _ _).symm.trans (congrArg code h)

/-- **And a number without places is whole.** -/
theorem exponent_shortest_nonneg_iff (hx : x.IsFinite) :
    0 ≤ (x.shortest tie).exponent ↔ ∃ n : Int, x.value = n := by
  constructor
  · intro he
    obtain ⟨e, he⟩ := Int.eq_ofNat_of_zero_le he
    have hd : |(x.shortest tie).value| = ((x.shortest tie).coefficient * 10 ^ e : Nat) := by
      rw [Decimal.abs_value, he, zpow_natCast]
      push_cast
      rfl
    have hcode : (ofNat ((x.shortest tie).coefficient * 10 ^ e)).code = x.code := by
      rw [ofNat, ← hd, code_nearest_abs, code_nearest_shortest tie hx]
    generalize (x.shortest tie).coefficient * 10 ^ e = N at hcode
    obtain ⟨m, hm⟩ := exists_value_ofNat (n := N) (hcode.trans_lt hx)
    have habs : |x.value| = m := by
      rw [abs_value, ← hcode, ← hm]
      exact (value_nearest (Nat.cast_nonneg N)).symm
    rcases abs_choice x.value with h | h
    · exact ⟨m, by rw [← h, habs, Int.cast_natCast]⟩
    · exact ⟨-m, by rw [Int.cast_neg, Int.cast_natCast, ← habs, h, neg_neg]⟩
  · rintro ⟨n, hn⟩
    refine exponent_shortest_nonneg (n := n.natAbs) ?_
    rw [← abs_value, hn, Nat.cast_natAbs, Int.cast_abs]

/-! ## 4. Bounds -/

/-- How great a double is decides how great its shortest decimal is. -/
theorem abs_value_shortest_congr {y : Binary64} (h : x.code = y.code) :
    |(x.shortest tie).value| = |(y.shortest tie).value| := by
  rw [Decimal.abs_value, Decimal.abs_value]
  unfold shortest
  simp only
  rw [h]
  split <;> rfl

/-- **A shortest decimal that is not rounded down is no bound for one of the two alone**: decimals
    are on the same side of it as the doubles that they are shortest for. -/
theorem le_abs_value_shortest_iff {bound : ℚ} (h0 : 0 ≤ bound) (hup : bound ≤ (nearest bound).value)
    (hs : bound ≤ |((nearest bound).shortest tie).value|) (hx : x.IsFinite) :
    bound ≤ |(x.shortest tie).value| ↔ bound ≤ |x.value| := by
  have hcode := code_nearest_shortest tie hx
  have hb := abs_of_nonneg h0
  constructor
  · intro h
    have hle : (nearest bound).code ≤ x.code := hcode ▸ code_nearest_mono (hb.le.trans h)
    rw [value_nearest h0] at hup
    rw [abs_value]
    exact hup.trans (codeMagnitude_strictMono.monotone hle)
  · intro h
    by_contra hlt
    have hge : x.code ≤ (nearest bound).code :=
      hcode ▸ code_nearest_mono ((not_le.mp hlt).le.trans hb.ge)
    have hle : (nearest bound).code ≤ x.code := by
      rw [abs_value] at h
      rw [← code_nearest_codeMagnitude hx]
      refine code_nearest_mono ?_
      rwa [hb, abs_of_nonneg (codeMagnitude_nonneg _)]
    rw [abs_value_shortest_congr (Nat.le_antisymm hge hle)] at hlt
    exact hlt hs

end Binary64

end LookupLog
