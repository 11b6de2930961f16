import LookupLog.Proofs.Binary64.Spacing
import LookupLog.Summary

/-!
# Summaries are finite

The three numbers of a summary are finite, for any transcript and without a bound on its length: a
mean of 64-bit words is a word and a share of one, and a percentage is a hundredfold share. Shares
stay below one when they are rounded (`value_share_le_one`).
-/

namespace LookupLog

open Binary64

/-! ## 1. Means -/

theorem foldl_eq_add_total (values : List UInt64) (n : Nat) :
    values.foldl (fun sum value => sum + value.toNat) n = n + total values := by
  induction values generalizing n with
  | nil => rfl
  | cons v vs ih =>
    have ht : total (v :: vs) = v.toNat + total vs := by
      rw [total, List.foldl_cons, Nat.zero_add, ih]
    rw [List.foldl_cons, ih, ht, Nat.add_assoc]

theorem total_cons (v : UInt64) (vs : List UInt64) : total (v :: vs) = v.toNat + total vs := by
  rw [total, List.foldl_cons, Nat.zero_add, foldl_eq_add_total]

/-- A sum is at most as many times the greatest word as there are words. -/
theorem total_le (values : List UInt64) : total values ≤ 0x10000000000000000 * values.length := by
  induction values with
  | nil => exact Nat.zero_le _
  | cons v vs ih =>
    have hv := v.toNat_lt
    rw [total_cons, List.length_cons]
    omega

theorem isDouble_wordSize : IsDouble (0x10000000000000000 : Nat) := by
  have h := isDouble_mul_pow (m := 1) (e := 64) (by decide) (by decide)
  have he : ((1 : Nat) * 2 ^ 64 : ℚ) = (0x10000000000000000 : Nat) := by norm_num
  rwa [he] at h

/-- **A mean is finite.** -/
theorem isFinite_of_mean {kind : Text} {values : List UInt64} {x : Binary64}
    (h : mean kind values = .ok x) : x.IsFinite := by
  unfold mean at h
  split at h
  · cases h
  · rename_i hne
    cases h
    have hlen : 0 < values.length := List.length_pos_iff.mpr hne
    have hq : total values / values.length ≤ 0x10000000000000000 :=
      Nat.div_le_of_le_mul (Nat.mul_comm _ _ ▸ total_le values)
    have hr : total values % values.length ≤ values.length := Nat.le_of_lt (Nat.mod_lt _ hlen)
    have hw := value_nearest_le isDouble_wordSize (Nat.cast_nonneg _) (Nat.cast_le.mpr hq)
    have hs := value_share_le_one hr
    have hn := add_nonneg (value_ofNat_nonneg (total values / values.length))
      (value_share_nonneg (total values % values.length) values.length)
    have hd : IsDouble ((1 : Nat) * 2 ^ 65) := isDouble_mul_pow (by decide) (by decide)
    rw [add_def]
    refine isFinite_nearest_of_le hd hn ((add_le_add hw hs).trans ?_)
    norm_num

/-! ## 2. Percentages -/

/-- **A percentage is finite.** -/
theorem isFinite_of_failurePercentage {successes failures : Nat} {x : Binary64}
    (h : failurePercentage successes failures = .ok x) : x.IsFinite := by
  unfold failurePercentage at h
  split at h
  · cases h
  · cases h
    have hs := value_share_le_one (Nat.le_add_left failures successes)
    have hn := value_share_nonneg failures (successes + failures)
    have h100 : (ofNat 100).value = (100 : Nat) := value_ofNat (by decide)
    rw [mul_def, h100]
    refine isFinite_nearest_of_le (isDouble_natCast (by decide)) (mul_nonneg hn (Nat.cast_nonneg _))
      (mul_le_of_le_one_left (Nat.cast_nonneg 100) hs)

/-! ## 3. Summaries -/

/-- All numbers of a summary are finite. -/
structure Summary.IsFinite (s : Summary) : Prop where
  averageLatency : s.averageLatency.IsFinite
  averageBandwidth : s.averageBandwidth.IsFinite
  failureRate : s.failureRate.IsFinite

/-- **The summary of a transcript is finite.** -/
theorem Summary.isFinite_of_ofTranscript {t : Transcript} {s : Summary}
    (h : ofTranscript t = .ok s) : s.IsFinite := by
  obtain ⟨hl, hb, hf, -⟩ := ofTranscript_eq_ok_iff.mp h
  exact ⟨isFinite_of_mean hl, isFinite_of_mean hb, isFinite_of_failurePercentage hf⟩

end LookupLog
