import LookupLog.Decimal.Shortest
import LookupLog.Proofs.Decimal.Rounding

/-!
# Shortest decimals read back

A rounding interval holds what rounds to a code (`nearestCode_of_contains`), and the search for the
coarsest grid only ever takes a multiple in that interval (`contains_coarsest`). So the shortest
decimal of a finite double is rounded to this double, and ties may go either way
(`toBinary64_shortest`).
-/

namespace LookupLog

/-! ## 1. The search -/

namespace RoundingInterval

variable {i : RoundingInterval} {tie : Tie}

/-- A multiple that is taken lies in the interval. -/
theorem contains_of_nearestMultiple {step multiple : Nat}
    (h : i.nearestMultiple? tie step = some multiple) : i.Contains (multiple * step) := by
  unfold nearestMultiple? at h
  simp only at h
  split at h
  · rename_i hbelow
    split at h
    · cases h
      exact hbelow
    · rename_i hn
      -- the multiple above is out of the question only if it lies outside
      have habove : i.Contains ((i.centre / step + 1) * step) := by
        by_contra ha
        exact hn (Or.inl ha)
      split at h
      · cases h
        exact habove
      · cases tie with
        | toEven =>
          simp only [Option.some.injEq] at h
          split at h <;> subst h
          · exact hbelow
          · exact habove
        | outward =>
          cases h
          exact habove
  · split at h
    · rename_i habove
      cases h
      exact habove
    · cases h

/-- **The search ends in the interval**, if the interval contains its centre. -/
theorem contains_coarsest (hc : i.Contains i.centre) (places : Nat) :
    i.Contains ((i.coarsest tie places).1 * 10 ^ (i.coarsest tie places).2) := by
  induction places with
  | zero => simpa [coarsest] using hc
  | succ places ih =>
    unfold coarsest
    cases hm : i.nearestMultiple? tie (Decimal.powerOfTen (places + 1)) with
    | none => exact ih
    | some multiple => exact contains_of_nearestMultiple hm

end RoundingInterval

/-! ## 2. The interval of a code -/

namespace Binary64

theorem unitScale_pos : 0 < unitScale := by decide +kernel

/-- A unit of 2^-1074 is twice the scale, in units of 10^-1075. -/
theorem pow_mul_unitScale : 2 ^ 1074 * (2 * unitScale) = 10 ^ 1075 := by decide +kernel

/-- A code other than that of zero lies between its neighbours, so its interval contains it. -/
theorem contains_centre {code : Nat} (h : 0 < code) :
    (roundingInterval code).Contains (roundingInterval code).centre := by
  have hl := units_strictMono (Nat.sub_lt h Nat.one_pos)
  have hh := units_lt_units_succ code
  have hlow : (roundingInterval code).low < (roundingInterval code).centre :=
    Nat.mul_lt_mul_of_pos_right (by omega) unitScale_pos
  have hhigh : (roundingInterval code).centre < (roundingInterval code).high :=
    Nat.mul_lt_mul_of_pos_right (by omega) unitScale_pos
  unfold RoundingInterval.Contains
  split <;> omega

/-- **What lies in the interval of a code rounds to this code.** -/
theorem nearestCode_of_contains {code n : Nat} (h0 : 0 < code) (hf : code < infinityCode)
    (h : (roundingInterval code).Contains n) : nearestCode n (2 * unitScale) = code := by
  have hS := unitScale_pos
  simp only [RoundingInterval.Contains, roundingInterval, decide_eq_true_eq] at h
  generalize unitScale = scale at h hS ⊢
  obtain ⟨m, rfl⟩ : ∃ m, code = m + 1 := ⟨code - 1, by omega⟩
  rw [Nat.add_sub_cancel] at h
  -- the middles before and after the code, counted as the numerator is
  have hlow : (units m + units (m + 1)) * (2 * scale) =
      2 * ((units m + units (m + 1)) * scale) := by
    ring
  have hhigh : (units (m + 1) + units (m + 1 + 1)) * (2 * scale) =
      2 * ((units (m + 1) + units (m + 1 + 1)) * scale) := by
    ring
  refine nearestCode_eq (by omega) (Nat.le_of_lt hf) ?_ fun _ => ?_
  · intro k hk
    obtain rfl : m = k := by omega
    rw [Beyond, hlow]
    split at h <;> omega
  · rw [Beyond, hhigh]
    split at h <;> omega

/-- A decimal in two units, of which one is a power of two and the other one a power of ten. -/
theorem shiftLeft_mul_scale {n scale c places up down total : Nat} (hs : 2 ^ n * scale = 10 ^ total)
    (he : up + total = places + down) :
    (c * 10 ^ up) <<< n * scale = c * 10 ^ places * 10 ^ down := by
  rw [Nat.shiftLeft_eq, Nat.mul_assoc (c * _), hs, Nat.mul_assoc c, Nat.mul_assoc c, ← Nat.pow_add,
    ← Nat.pow_add, he]

/-- A decimal with at most 1075 places that lies in the interval of a code rounds to the double of
    this code. -/
theorem toBinary64_of_contains {x : Binary64} {coefficient places : Nat} (h0 : 0 < x.code)
    (hf : x.IsFinite) (h : (roundingInterval x.code).Contains (coefficient * 10 ^ places)) :
    (⟨x.negative, coefficient, places - 1075⟩ : Decimal).toBinary64 = x := by
  have hcode : nearestCode ((coefficient * 10 ^ ((places : Int) - 1075).toNat) <<< 1074)
      (10 ^ (-((places : Int) - 1075)).toNat) = x.code := by
    rw [← nearestCode_of_contains h0 hf h]
    exact nearestCode_congr (Nat.pow_pos (by decide)) (Nat.mul_pos (by decide) unitScale_pos)
      (shiftLeft_mul_scale pow_mul_unitScale (by omega))
  rw [Decimal.toBinary64_eq_ofQuotient]
  exact ofQuotient_eq hcode

/-- **The shortest decimal of a finite double rounds to it**, whichever way ties go. -/
theorem toBinary64_shortest (tie : Tie) {x : Binary64} (h : x.IsFinite) :
    (x.shortest tie).toBinary64 = x := by
  unfold shortest
  simp only
  split
  · rename_i hz
    rw [Decimal.toBinary64_eq_ofQuotient]
    refine ofQuotient_eq ?_
    rw [Nat.zero_mul, Nat.zero_shiftLeft, hz]
    exact nearestCode_eq_zero (Nat.pow_pos (by decide))
  · rename_i hz
    have hp := Nat.pos_of_ne_zero hz
    exact toBinary64_of_contains hp h (RoundingInterval.contains_coarsest (contains_centre hp) _)

/-- Zero is written without a power of ten, and nothing else is written with the digit zero alone.
    -/
theorem exponent_shortest {tie : Tie} {x : Binary64} (h : x.IsFinite)
    (hz : (x.shortest tie).coefficient = 0) : (x.shortest tie).exponent = 0 := by
  have hx := toBinary64_shortest tie h
  unfold Decimal.toBinary64 at hx
  simp only at hx
  rw [if_pos (Or.inl hz)] at hx
  have hc : x.code = 0 := (congrArg code hx).symm
  unfold shortest
  simp only
  rw [if_pos hc]

end Binary64

end LookupLog
