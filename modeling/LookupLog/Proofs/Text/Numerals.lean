import LookupLog.Decimal.Layout
import Mathlib.Data.List.TakeWhile
import Mathlib.Tactic.Ring

/-!
# Numerals

How long the numeral of a number is, what zeros in front of one and behind it do to its value, and
how a run of digits is found again in a text.
-/

namespace LookupLog.Text

theorem ofNat_ne_nil (n : Nat) : ofNat n ≠ [] :=
  Nat.toDigits_ne_nil

/-- A number has at most as many digits as its numeral. -/
theorem lt_pow_length (n : Nat) : n < 10 ^ (ofNat n).length :=
  (Nat.length_toDigits_le_iff (by decide) Nat.length_toDigits_pos).mp (Nat.le_refl _)

/-- And no fewer. -/
theorem pow_length_le {n : Nat} (h : n ≠ 0) : 10 ^ ((ofNat n).length - 1) ≤ n := by
  by_contra hlt
  rcases Nat.eq_zero_or_pos ((ofNat n).length - 1) with hz | hp
  · rw [hz, Nat.pow_zero] at hlt
    omega
  · have hl := (Nat.length_toDigits_le_iff (b := 10) (by decide) hp).mpr (Nat.lt_of_not_le hlt)
    have hd : (Nat.toDigits 10 n).length = (ofNat n).length := rfl
    omega

/-! ## Values of digits -/

theorem toNat_append (s t : Text) : toNat (s ++ t) = toNat s * 10 ^ t.length + toNat t := by
  unfold toNat
  rw [Nat.ofDigitChars_append, Nat.ofDigitChars_eq_ofDigitChars_zero, Nat.mul_comm]

@[simp] theorem toNat_zeros (k : Nat) : toNat (zeros k) = 0 := by
  unfold toNat zeros
  rw [Nat.ofDigitChars_replicate_zero, Nat.mul_zero]

@[simp] theorem length_zeros (k : Nat) : (zeros k).length = k :=
  List.length_replicate

/-- Zeros in front add nothing. -/
theorem toNat_zeros_append (k : Nat) (t : Text) : toNat (zeros k ++ t) = toNat t := by
  rw [toNat_append, toNat_zeros, Nat.zero_mul, Nat.zero_add]

/-- Zeros behind it multiply a number by powers of ten. -/
theorem toNat_append_zeros (t : Text) (k : Nat) : toNat (t ++ zeros k) = toNat t * 10 ^ k := by
  rw [toNat_append, toNat_zeros, length_zeros, Nat.add_zero]

/-- Every character is a decimal digit. -/
def AllDigits (t : Text) : Prop :=
  ∀ c ∈ t, c.isDigit = true

theorem allDigits_ofNat (n : Nat) : AllDigits (ofNat n) :=
  fun _ hc => isDigit_of_mem_ofNat hc

theorem allDigits_zeros (k : Nat) : AllDigits (zeros k) := by
  intro c hc
  rw [List.eq_of_mem_replicate hc]
  rfl

theorem AllDigits.append {s t : Text} (hs : AllDigits s) (ht : AllDigits t) :
    AllDigits (s ++ t) := by
  intro c hc
  rcases List.mem_append.mp hc with h | h
  · exact hs c h
  · exact ht c h

/-! ## Runs of digits -/

/-- Before a text that does not begin with a digit, some digits are the longest run. -/
theorem span_digits {s rest : Text} (hs : AllDigits s) (hr : ∀ c ∈ rest.head?, c.isDigit = false) :
    (s ++ rest).takeWhile Char.isDigit = s ∧ (s ++ rest).dropWhile Char.isDigit = rest := by
  rw [List.takeWhile_append_of_pos hs, List.dropWhile_append_of_pos hs]
  cases rest with
  | nil => exact ⟨List.append_nil s, rfl⟩
  | cons c rest => simp [hr c rfl]

/-- The value of some digits is bounded by their count. -/
theorem toNat_lt_pow_length {t : Text} (h : AllDigits t) : toNat t < 10 ^ t.length := by
  induction t with
  | nil => decide
  | cons c t ih =>
    have hc : toNat [c] < 10 := by
      have hd := h c List.mem_cons_self
      simp only [Char.isDigit, Bool.and_eq_true, decide_eq_true_eq, ge_iff_le,
        UInt32.le_iff_toNat_le] at hd
      have hv : toNat [c] = c.toNat - 48 := by
        simp [toNat, Nat.ofDigitChars_cons]
      have hn : c.val.toNat = c.toNat := rfl
      have h9 : ('9' : Char).val.toNat = 57 := rfl
      omega
    have ht := ih fun d hd => h d (List.mem_cons_of_mem _ hd)
    calc toNat (c :: t) = toNat [c] * 10 ^ t.length + toNat t := toNat_append [c] t
      _ < (toNat [c] + 1) * 10 ^ t.length := by rw [Nat.add_mul]; omega
      _ ≤ 10 * 10 ^ t.length := Nat.mul_le_mul_right _ hc
      _ = 10 ^ (t.length + 1) := by rw [Nat.pow_succ, Nat.mul_comm]

/-- Only the numeral of zero begins with a zero. -/
theorem head?_ofNat_ne {n : Nat} (h : n ≠ 0) : (ofNat n).head? ≠ some '0' := by
  intro h0
  obtain ⟨t, ht⟩ : ∃ t, ofNat n = '0' :: t := List.head?_eq_some_iff.mp h0
  have hd := allDigits_ofNat n
  have hl := pow_length_le h
  rw [ht] at hd hl
  have hlt := toNat_lt_pow_length fun d hm => hd d (List.mem_cons_of_mem _ hm)
  have hv : toNat t = n := by
    rw [← toNat_ofNat n, ht]
    exact (toNat_zeros_append 1 t).symm
  rw [hv] at hlt
  exact absurd hlt (Nat.not_lt.mpr hl)

/-- Only the numeral of a multiple of ten ends in a zero. -/
theorem getLast?_ofNat_ne {n : Nat} (h : n % 10 ≠ 0) : (ofNat n).getLast? ≠ some '0' := by
  intro h0
  obtain ⟨t, ht⟩ : ∃ t, ofNat n = t ++ zeros 1 := List.getLast?_eq_some_iff.mp h0
  have hv : toNat t * 10 ^ 1 = n := by rw [← toNat_append_zeros, ← ht, toNat_ofNat]
  omega

end LookupLog.Text
