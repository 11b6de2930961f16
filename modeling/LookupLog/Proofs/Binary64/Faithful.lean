import LookupLog.Proofs.Binary64.Spacing

/-!
# Faithful rounding

A result of several roundings need not be the nearest double, but it may still be one of the two
doubles on both sides of the exact number: no other double lies in between (`IsFaithful`). Then a
number that is a double is given exactly (`IsFaithful.value_eq`), and any other one up to a step
between neighbours, which is at most the 2^52nd part of it (`IsFaithful.abs_sub_le`).

So it is if the last rounding finds a number that earlier ones have not moved over a double or a
midpoint (`StandsFor`). It even finds the nearest double, unless they have moved it onto a midpoint
(`StandsFor.nearest_eq`).
-/

namespace LookupLog.Binary64

/-- A double is faithful to a number: it is finite, and no double lies between the two. -/
structure IsFaithful (q : ℚ) (x : Binary64) : Prop where
  finite : x.IsFinite
  below : ∀ z, IsDouble z → z ≤ q → z ≤ x.value
  above : ∀ z, IsDouble z → q ≤ z → x.value ≤ z

/-- The next magnitude is at most the 2^52nd part further. -/
theorem codeMagnitude_succ_le {code : Nat} (h : 0x10000000000000 ≤ code) :
    codeMagnitude (code + 1) ≤ codeMagnitude code + codeMagnitude code / 2 ^ 52 := by
  have hs : (0x10000000000000 * step code : ℚ) ≤ units code := by exact_mod_cast mul_step_le h
  have hu : (units (code + 1) : ℚ) ≤ units code + units code / 2 ^ 52 := by
    rw [units_succ, Nat.cast_add]
    linarith
  have hp : (0 : ℚ) ≤ 2 ^ 1074 := by positivity
  unfold codeMagnitude
  rw [div_right_comm, ← add_div]
  exact div_le_div_of_nonneg_right hu hp

/-- The least magnitude with 53 significant bits. -/
theorem codeMagnitude_normal : codeMagnitude 0x10000000000000 = 1 / 2 ^ 1022 := by
  have hblock := codeMagnitude_block 0
  have hp : (2 : ℚ) ^ 1074 = 2 ^ 52 * 2 ^ 1022 := by rw [← pow_add]
  have h0 : (2 : ℚ) ^ 52 ≠ 0 := pow_ne_zero _ two_ne_zero
  rw [Nat.zero_add, Nat.one_mul, Nat.add_zero, hp, ← div_div, div_self h0] at hblock
  exact hblock

namespace IsFaithful

variable {q z : ℚ} {x : Binary64}

/-- **A double is given exactly.** -/
theorem value_eq (h : IsFaithful q x) (hq : IsDouble q) : x.value = q :=
  le_antisymm (h.above q hq le_rfl) (h.below q hq le_rfl)

/-- **A faithful double is off by at most the 2^52nd part**, unless the number is too small for 53
    significant bits or beyond the greatest double. -/
theorem abs_sub_le (h : IsFaithful q x) (hq : 1 / 2 ^ 1022 ≤ q) (hz : IsDouble z) (hqz : q ≤ z) :
    |x.value - q| ≤ q / 2 ^ 52 := by
  rw [← codeMagnitude_normal] at hq
  have hmono := codeMagnitude_strictMono
  have hlow : codeMagnitude 0x10000000000000 ≤ x.value :=
    h.below _ (isDouble_codeMagnitude (by decide)) hq
  have hx : x.value = codeMagnitude x.code := by
    rw [← abs_value, abs_of_nonneg ((codeMagnitude_nonneg _).trans hlow)]
  rcases lt_trichotomy x.value q with hlt | heq | hgt
  · -- the next double is beyond the number
    obtain ⟨n, hn, rfl⟩ := hz.exists_code ((codeMagnitude_nonneg _).trans (hq.trans hqz))
    rw [hx] at hlow hlt
    have hnext : q < codeMagnitude (x.code + 1) := by
      by_contra hle
      have hlt' := hmono.lt_iff_lt.mp (hlt.trans_le hqz)
      have hb := h.below _ (isDouble_codeMagnitude (Nat.lt_of_le_of_lt hlt' hn)) (not_lt.mp hle)
      rw [hx] at hb
      exact absurd (hmono (Nat.lt_succ_self _)) (not_lt.mpr hb)
    have hs := codeMagnitude_succ_le (hmono.le_iff_le.mp hlow)
    rw [hx, abs_of_nonpos (by linarith)]
    linarith
  · rw [heq, sub_self, abs_zero]
    have h0 := (codeMagnitude_nonneg _).trans hq
    positivity
  · -- the double before is below the number
    rw [hx] at hgt
    have hcode : 0x10000000000000 < x.code := hmono.lt_iff_lt.mp (hq.trans_lt hgt)
    obtain ⟨n, hn⟩ := Nat.exists_eq_succ_of_ne_zero (Nat.ne_zero_of_lt hcode)
    have hfin : x.code < infinityCode := h.finite
    rw [hn] at hcode hfin hgt hx
    have hbefore : codeMagnitude n < q := by
      by_contra hle
      have ha := h.above _ (isDouble_codeMagnitude (Nat.lt_of_succ_lt hfin)) (not_lt.mp hle)
      rw [hx] at ha
      exact absurd (hmono (Nat.lt_succ_self _)) (not_lt.mpr ha)
    have hs := codeMagnitude_succ_le (Nat.le_of_lt_succ hcode)
    rw [hx, abs_of_nonneg (by linarith)]
    linarith

end IsFaithful

/-- A number may be rounded in place of another one: it is beyond no double and no midpoint that the
    other one is not beyond, though it may be one itself. -/
structure StandsFor (r q : ℚ) : Prop where
  nonneg : 0 ≤ r
  below : ∀ b, IsBoundary b → b ≤ q → b ≤ r
  above : ∀ b, IsBoundary b → q ≤ b → r ≤ b

namespace StandsFor

variable {q r : ℚ}

theorem refl (h : 0 ≤ q) : StandsFor q q where
  nonneg := h
  below _ _ hb := hb
  above _ _ hb := hb

theorem isFaithful (h : StandsFor r q) (hf : (nearest r).IsFinite) : IsFaithful q (nearest r) where
  finite := hf
  below z hz hle := le_value_nearest hz h.nonneg (h.below z (Or.inl hz) hle)
  above z hz hle := value_nearest_le hz h.nonneg (h.above z (Or.inl hz) hle)

/-- **Only a midpoint hides what it stands for.** -/
theorem nearest_eq (h : StandsFor r q) (h0 : 0 ≤ q) (hm : IsMidpoint r → r = q) :
    nearest r = nearest q := by
  refine nearest_eq_of_midpoints h.nonneg h0 fun m hmid => ?_
  have hbelow := h.below m (Or.inr hmid)
  have habove := h.above m (Or.inr hmid)
  have hback : m = r → m = q := by
    rintro rfl
    exact hm hmid
  refine ⟨⟨fun hr => ?_, fun hq => ?_⟩, hback, fun hq => ?_⟩
  · exact lt_of_not_ge fun hn => absurd (habove hn) (not_le.mpr hr)
  · exact (hbelow hq.le).lt_of_ne fun hr => hq.ne (hback hr)
  · exact le_antisymm (hbelow hq.le) (habove hq.ge)

end StandsFor

end LookupLog.Binary64
