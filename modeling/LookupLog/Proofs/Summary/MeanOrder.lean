import LookupLog.Proofs.Summary.Mean

/-!
# Means are in the order of sums

Where the quotient of sum and count steps to the next whole number, the remainder falls back to
zero. The mean does not fall back with it, although whole part and fraction are rounded by
themselves, and the fraction possibly to one:

* `value_nearest_add_one_le`: one more than a rounded whole number is rounded to no more than the
  next whole number is;
* `value_sumOfParts_le`: so the sum of the parts is monotone in the number that they stand for;
* `mean_ordered`: and means of as many words are in the order of their sums. A word is the mean of
  copies of it, so a mean lies between the least word and the greatest.
-/

namespace LookupLog

open Binary64

/-! ## 1. The next whole number -/

/-- A whole number that is rounded up lies beyond 2^53, and adding one to what it is rounded to does
    not reach the next double. -/
theorem value_nearest_add_one_of_lt {n : Nat} (hf : (Binary64.ofNat n).IsFinite)
    (h : n < (Binary64.ofNat n).value) :
    (nearest ((Binary64.ofNat n).value + 1)).value ≤ (Binary64.ofNat n).value := by
  have hn : (0 : ℚ) ≤ n := Nat.cast_nonneg n
  have hbig : 2 ^ 53 ≤ n := by
    by_contra hlt
    rw [value_ofNat (by omega)] at h
    exact absurd h (lt_irrefl _)
  have hbig : (2 ^ 53 : ℚ) ≤ n := by exact_mod_cast hbig
  have hv : (Binary64.ofNat n).value = codeMagnitude (Binary64.ofNat n).code := value_nearest hn
  obtain ⟨c, hc⟩ : ∃ c, (Binary64.ofNat n).code = c + 1 := by
    refine Nat.exists_eq_succ_of_ne_zero fun h0 => ?_
    rw [hv, h0, codeMagnitude_zero] at h
    linarith
  have hfin : c + 1 < infinityCode := hc ▸ hf
  rw [hv, hc] at h ⊢
  have hgap := two_le_codeMagnitude_succ (hbig.trans h.le)
  have h0 : 0 ≤ codeMagnitude (c + 1) + 1 := by linarith
  rw [value_nearest h0]
  refine codeMagnitude_strictMono.monotone (Nat.le_of_not_lt fun hlt => ?_)
  rw [lt_code_nearest_iff hfin, abs_of_nonneg h0] at hlt
  rcases hlt with hlt | ⟨heq, hodd⟩
  · linarith
  · -- half way between two doubles, so the step is two, and the code before is even
    have hbefore : c < (nearest (n : ℚ)).code := hc ▸ Nat.lt_succ_self c
    rw [lt_code_nearest_iff (Nat.lt_of_succ_lt hfin), Nat.abs_cast] at hbefore
    have hstep := two_mul_codeMagnitude_succ_le c
    obtain ⟨j, hj⟩ := (isDouble_codeMagnitude hfin).exists_even (hbig.trans h.le)
    rw [hj] at h hbefore hstep heq
    have hlt : n < j * 2 := by exact_mod_cast h
    have hle : (n + 1 : ℚ) ≤ j * 2 := by exact_mod_cast hlt
    rcases hbefore with hbefore | ⟨-, hodd'⟩
    · linarith
    · omega

/-- **One more than a rounded whole number** is rounded to no more than the next whole number is. -/
theorem value_nearest_add_one_le {n : Nat} (hf : (Binary64.ofNat n).IsFinite) :
    (nearest ((Binary64.ofNat n).value + 1)).value ≤ (Binary64.ofNat (n + 1)).value := by
  rcases le_or_gt (Binary64.ofNat n).value n with hle | hgt
  · have h0 := value_ofNat_nonneg n
    refine value_nearest_mono (by linarith) ?_
    push_cast
    linarith
  · exact (value_nearest_add_one_of_lt hf hgt).trans (value_ofNat_mono (Nat.le_succ n))

/-! ## 2. The sum of the parts -/

section Parts

variable {whole whole' rest rest' count : Nat}

/-- Without a remainder the mean is the whole part. -/
theorem sumOfParts_zero_rest (count : Nat) (hw : whole ≤ 0x10000000000000000) :
    sumOfParts whole 0 count = .ofNat whole := by
  have hf : (fraction 0 count).value = 0 := by
    have h0 : (Binary64.ofNat 0).value = 0 := value_ofNat (Nat.zero_le _)
    rw [fraction, div_def, h0, zero_div]
    exact h0
  rw [sumOfParts, add_def, hf, add_zero]
  exact nearest_value (isFinite_ofNat hw) (negative_nearest_of_nonneg (Nat.cast_nonneg whole))

theorem value_fraction_mono (h : rest ≤ rest') :
    (fraction rest count).value ≤ (fraction rest' count).value := by
  have hc := value_ofNat_nonneg count
  exact value_nearest_mono (div_nonneg (value_ofNat_nonneg rest) hc)
    (div_le_div_of_nonneg_right (value_ofNat_mono h) hc)

theorem value_sumOfParts_mono (hw : whole ≤ whole')
    (hf : (fraction rest count).value ≤ (fraction rest' count).value) :
    (sumOfParts whole rest count).value ≤ (sumOfParts whole' rest' count).value :=
  value_nearest_mono (add_nonneg (value_ofNat_nonneg whole) (fraction_nonneg rest count))
    (add_le_add (value_ofNat_mono hw) hf)

/-- **The sum of the parts does not reach beyond the next whole number**, for any count. -/
theorem value_sumOfParts_le_succ (hw : whole ≤ 0x10000000000000000) (h : rest < count) :
    (sumOfParts whole rest count).value ≤ (Binary64.ofNat (whole + 1)).value := by
  have h0 := add_nonneg (value_ofNat_nonneg whole) (fraction_nonneg rest count)
  have hone : (Binary64.ofNat whole).value + (fraction rest count).value ≤
      (Binary64.ofNat whole).value + 1 := by
    have hf := fraction_le_one h
    linarith
  exact (value_nearest_mono h0 hone).trans (value_nearest_add_one_le (isFinite_ofNat hw))

/-- **The sum of the parts is monotone** in the number that they stand for. -/
theorem value_sumOfParts_le (hw' : whole' ≤ 0x10000000000000000) (hr : rest < count)
    (hr' : rest' < count) (h : whole * count + rest ≤ whole' * count + rest') :
    (sumOfParts whole rest count).value ≤ (sumOfParts whole' rest' count).value := by
  have hle : whole ≤ whole' := by
    by_contra hlt
    have hm := Nat.mul_le_mul_right count (Nat.succ_le_of_lt (Nat.lt_of_not_le hlt))
    rw [Nat.succ_mul] at hm
    omega
  rcases Nat.lt_or_eq_of_le hle with hlt | rfl
  · have h0 : (fraction 0 count).value ≤ (fraction rest' count).value :=
      value_fraction_mono (Nat.zero_le rest')
    calc (sumOfParts whole rest count).value
        ≤ (Binary64.ofNat (whole + 1)).value := value_sumOfParts_le_succ (by omega) hr
      _ ≤ (Binary64.ofNat whole').value := value_ofNat_mono hlt
      _ = (sumOfParts whole' 0 count).value := by rw [sumOfParts_zero_rest count hw']
      _ ≤ (sumOfParts whole' rest' count).value := value_sumOfParts_mono (Nat.le_refl _) h0
  · exact value_sumOfParts_mono (Nat.le_refl _) (value_fraction_mono (by omega))

end Parts

/-! ## 3. Means -/

/-- Greater words have a greater sum. -/
theorem total_mono {values values' : List UInt64} (h : List.Forall₂ (· ≤ ·) values values') :
    total values ≤ total values' := by
  induction h with
  | nil => exact Nat.le_refl _
  | cons hv _ ih =>
    rw [total_cons, total_cons]
    exact Nat.add_le_add (UInt64.le_iff_toNat_le.mp hv) ih

section Means

variable {kind : Text} {values values' : List UInt64} {x x' : Binary64}

/-- What a mean is made of. -/
theorem sumOfParts_of_mean (h : mean kind values = .ok x) :
    values ≠ [] ∧
      x = sumOfParts (total values / values.length) (total values % values.length)
        values.length := by
  have hne : values ≠ [] := by
    rintro rfl
    cases h
  exact ⟨hne, Except.ok.inj (h.symm.trans (mean_eq_ok kind hne))⟩

/-- **A mean is monotone** in the sum of as many words. -/
theorem mean_mono (h : mean kind values = .ok x) (h' : mean kind values' = .ok x')
    (hlen : values'.length = values.length) (hle : total values ≤ total values') :
    x.value ≤ x'.value := by
  obtain ⟨hne, rfl⟩ := sumOfParts_of_mean h
  obtain ⟨hne', rfl⟩ := sumOfParts_of_mean h'
  have hw' := whole_lt hne'
  have hr' := rest_lt hne'
  rw [hlen] at hw' hr' ⊢
  refine value_sumOfParts_le hw'.le (rest_lt hne) hr' ?_
  rwa [Nat.div_add_mod', Nat.div_add_mod']

/-- **A mean is not below a lower bound** of the words. -/
theorem value_ofNat_le_mean (h : mean kind values = .ok x) {bound : Nat}
    (hb : ∀ v ∈ values, bound ≤ v.toNat) : (Binary64.ofNat bound).value ≤ x.value := by
  obtain ⟨hne, rfl⟩ := sumOfParts_of_mean h
  have hr := rest_lt hne
  have hw := whole_lt hne
  have ht := mul_le_total hb
  have hle : bound ≤ total values / values.length :=
    (Nat.le_div_iff_mul_le (Nat.zero_lt_of_lt hr)).mpr ht
  rw [← sumOfParts_zero_rest values.length (hle.trans hw.le)]
  refine value_sumOfParts_le hw.le (Nat.zero_lt_of_lt hr) hr ?_
  rwa [Nat.div_add_mod', Nat.add_zero]

/-- **Nor above an upper bound** of them. -/
theorem mean_le_value_ofNat (h : mean kind values = .ok x) {bound : Nat}
    (hb : ∀ v ∈ values, v.toNat ≤ bound) (hw : bound ≤ 0x10000000000000000) :
    x.value ≤ (Binary64.ofNat bound).value := by
  obtain ⟨hne, rfl⟩ := sumOfParts_of_mean h
  have hr := rest_lt hne
  rw [← sumOfParts_zero_rest values.length hw]
  refine value_sumOfParts_le hw hr (Nat.zero_lt_of_lt hr) ?_
  rw [Nat.div_add_mod', Nat.add_zero]
  exact total_le_mul hb

/-- **The mean of copies of one word is the double of this word.** -/
theorem mean_of_forall_eq (h : mean kind values = .ok x) {v : UInt64}
    (hv : ∀ value ∈ values, value = v) : x = .ofNat v.toNat := by
  obtain ⟨hne, rfl⟩ := sumOfParts_of_mean h
  have hc := List.length_pos_iff.mpr hne
  rw [total_of_forall_eq hv, Nat.mul_div_cancel _ hc, Nat.mul_mod_left]
  exact sumOfParts_zero_rest values.length v.toNat_lt.le

/-- **Means are in the order of sums, and between the extremes.** Among lists of as many words, a
    greater sum has no smaller mean, and so have words that are greater one by one. A mean is not
    below the double of the least word nor above that of the greatest one, and the mean of copies of
    one word is the double of this word. There may be any number of words. -/
theorem mean_ordered (kind : Text) (hne : values ≠ []) :
    ∃ x, mean kind values = .ok x ∧ x.IsFinite ∧
      (∀ values' : List UInt64, values'.length = values.length →
        total values ≤ total values' ∨ List.Forall₂ (· ≤ ·) values values' →
        ∃ x', mean kind values' = .ok x' ∧ x.value ≤ x'.value) ∧
      (∀ least, (values.map UInt64.toNat).min? = some least →
        (Binary64.ofNat least).value ≤ x.value) ∧
      (∀ greatest, (values.map UInt64.toNat).max? = some greatest →
        x.value ≤ (Binary64.ofNat greatest).value) ∧
      ∀ v : UInt64, (∀ value ∈ values, value = v) → x = .ofNat v.toNat := by
  have hx := mean_eq_ok kind hne
  refine ⟨_, hx, isFinite_of_mean hx, fun values' hlen h => ?_, fun least h => ?_,
    fun greatest h => ?_, fun v => mean_of_forall_eq hx⟩
  · have hne' : values' ≠ [] := by
      rw [← List.length_pos_iff, hlen]
      exact List.length_pos_iff.mpr hne
    have hx' := mean_eq_ok kind hne'
    exact ⟨_, hx', mean_mono hx hx' hlen (h.elim id total_mono)⟩
  · obtain ⟨-, hle⟩ := List.min?_eq_some_iff.mp h
    exact value_ofNat_le_mean hx fun v hv => hle _ (List.mem_map_of_mem hv)
  · obtain ⟨hmem, hle⟩ := List.max?_eq_some_iff.mp h
    obtain ⟨v, -, rfl⟩ := List.mem_map.mp hmem
    exact mean_le_value_ofNat hx (fun w hw => hle _ (List.mem_map_of_mem hw)) v.toNat_lt.le

/-- Where whole parts are rounded: the mean of 2^53 + 1 and 2^53 + 2 is rounded down to 2^53, and
    stays below that of 2^53 + 2 and 2^53 + 3. -/
theorem mean_ordered_beyond_fractions :
    let values : List UInt64 := [0x20000000000001, 0x20000000000002]
    let values' : List UInt64 := [0x20000000000002, 0x20000000000003]
    values ≠ [] ∧ ∃ x, mean latencyKind values = .ok x ∧ x.value = 0x20000000000000 ∧
      ∃ x', mean latencyKind values' = .ok x' ∧ x.value ≤ x'.value := by
  intro values values'
  have hne : values ≠ [] := by decide
  have hle : total values ≤ total values' := by decide
  have hv : mean latencyKind values = .ok (.ofBits 0x4340000000000000) := by decide +kernel
  obtain ⟨x, hx, -, hmono, -⟩ := mean_ordered latencyKind hne
  obtain rfl : x = .ofBits 0x4340000000000000 := Except.ok.inj (hx.symm.trans hv)
  exact ⟨hne, _, hx, by decide +kernel, hmono values' rfl (Or.inl hle)⟩

end Means

end LookupLog
