import LookupLog.Proofs.Decimal.Shortest

/-!
# Written decimals are read back

Whatever a layout decides, what it writes is read as a decimal with the same sign and the same value
(`Layout.read?_writeDecimal`, `Layout.value_shown`). So a finite double that is written with its
shortest digits is read as a decimal that rounds to it (`Layout.toBinary64_shown_shortest`). The
characters of a written decimal are few (`Layout.isMark_of_mem_writeDecimal`).
-/

namespace LookupLog

open Text

/-! ## 1. Parts of a decimal -/

namespace Decimal

theorem readDigits?_of_allDigits {t : Text} (hd : AllDigits t) (hne : t ≠ []) :
    readDigits? t = some (toNat t) :=
  if_pos ⟨hne, List.all_eq_true.mpr hd⟩

/-- A written exponent is read back, however wide it is. -/
theorem readExponent?_write (width : Nat) (exponent : Int) :
    readExponent? (writeExponent width exponent) = some exponent := by
  have hz := allDigits_zeros (width - (ofNat exponent.natAbs).length)
  have hd := readDigits?_of_allDigits (hz.append (allDigits_ofNat exponent.natAbs))
    (by simp [ofNat_ne_nil])
  rw [toNat_zeros_append, toNat_ofNat] at hd
  unfold writeExponent
  split
  · rw [readExponent?, hd]
    change some (-(exponent.natAbs : Int)) = some exponent
    congr 1
    omega
  · rw [readExponent?, hd]
    change some (exponent.natAbs : Int) = some exponent
    congr 1
    omega

theorem readScale?_write (width : Nat) (exponent : Int) :
    readScale? ('e' :: writeExponent width exponent) = some exponent :=
  readExponent?_write width exponent

/-- What may follow the digits of a decimal does not begin with a digit. -/
theorem not_isDigit_of_readScale? {t : Text} {scale : Int} (h : readScale? t = some scale) :
    ∀ c ∈ t.head?, c.isDigit = false := by
  unfold readScale? at h
  split at h
  · simp
  · intro c hc
    obtain rfl : 'e' = c := by simpa using hc
    rfl
  · cases h

/-- Digits without a point, and a scale. -/
theorem readUnsigned?_whole (negative : Bool) {whole t : Text} {scale : Int} (hw : AllDigits whole)
    (hne : whole ≠ []) (hs : readScale? t = some scale) :
    readUnsigned? negative (whole ++ t) = some ⟨negative, toNat whole, scale⟩ := by
  obtain ⟨htake, hdrop⟩ := span_digits hw (not_isDigit_of_readScale? hs)
  unfold readUnsigned?
  simp only [htake, hdrop, if_neg hne]
  split
  · cases hs
  · rw [hs, Option.map_some]

/-- Digits on both sides of a point, and a scale. -/
theorem readUnsigned?_point (negative : Bool) {whole places t : Text} {scale : Int}
    (hw : AllDigits whole) (hwne : whole ≠ []) (hp : AllDigits places) (hpne : places ≠ [])
    (hs : readScale? t = some scale) :
    readUnsigned? negative (whole ++ '.' :: (places ++ t)) =
      some ⟨negative, toNat (whole ++ places), scale - places.length⟩ := by
  have hpoint : ∀ c ∈ ('.' :: (places ++ t)).head?, c.isDigit = false := by
    intro c hc
    obtain rfl : '.' = c := by simpa using hc
    rfl
  obtain ⟨hwtake, hwdrop⟩ := span_digits hw hpoint
  obtain ⟨hptake, hpdrop⟩ := span_digits hp (not_isDigit_of_readScale? hs)
  unfold readUnsigned?
  simp only [hwtake, hwdrop, hptake, hpdrop, if_neg hwne, if_neg hpne, hs, Option.map_some]

/-- Digits on both sides of a point, and nothing else. -/
theorem readUnsigned?_places (negative : Bool) {whole places : Text} (hw : AllDigits whole)
    (hwne : whole ≠ []) (hp : AllDigits places) (hpne : places ≠ []) :
    readUnsigned? negative (whole ++ '.' :: places) =
      some ⟨negative, toNat (whole ++ places), -places.length⟩ := by
  have hend : readScale? [] = some 0 := rfl
  have hr := readUnsigned?_point negative hw hwne hp hpne hend
  rw [List.append_nil, Int.zero_sub] at hr
  exact hr

/-- What is read begins with a digit. -/
theorem exists_digit_of_readUnsigned? {negative : Bool} {t : Text} {d : Decimal}
    (h : readUnsigned? negative t = some d) : ∃ c rest, t = c :: rest ∧ c.isDigit = true := by
  unfold readUnsigned? at h
  simp only at h
  split at h
  · cases h
  · rename_i hne
    cases t with
    | nil => exact absurd rfl hne
    | cons c rest =>
      refine ⟨c, rest, rfl, ?_⟩
      by_contra hc
      exact hne (List.takeWhile_cons_of_neg hc)

/-- What is read without a minus sign in front is not read with another sign. -/
theorem read?_of_readUnsigned? {t : Text} {d : Decimal} (h : readUnsigned? false t = some d) :
    read? t = some d := by
  obtain ⟨c, rest, rfl, hc⟩ := exists_digit_of_readUnsigned? h
  unfold read?
  split
  · rename_i hm
    cases hm
    cases hc
  · exact h

end Decimal

/-! ## 2. Layouts -/

/-- The decimal as which digits written in full are read: whole numbers get a place. -/
def Decimal.inFull (d : Decimal) : Decimal :=
  match d.exponent with
  | .ofNat n => { d with coefficient := d.coefficient * 10 ^ (n + 1), exponent := -1 }
  | .negSucc _ => d

theorem Decimal.value_inFull (d : Decimal) : d.inFull.value = d.value := by
  obtain ⟨negative, c, e⟩ := d
  cases e with
  | negSucc n => rfl
  | ofNat n =>
    have hv : ((c * 10 ^ (n + 1) : Nat) : ℚ) * 10 ^ (-1 : Int) = c * 10 ^ (Int.ofNat n) := by
      rw [Int.ofNat_eq_natCast, zpow_natCast, zpow_neg_one]
      push_cast
      rw [pow_succ]
      field_simp
    simp only [inFull, value, hv]

/-- **Digits that are written in full are read back.** -/
theorem Decimal.readUnsigned?_writeInFull (d : Decimal) :
    readUnsigned? d.negative (writeInFull (Text.ofNat d.coefficient) d.exponent) =
      some d.inFull := by
  obtain ⟨negative, c, e⟩ := d
  have hd := allDigits_ofNat c
  have hne := ofNat_ne_nil c
  cases e with
  | ofNat n =>
    have hz : toNat (Text.ofNat c ++ zeros n ++ zeros 1) = c * 10 ^ (n + 1) := by
      rw [toNat_append_zeros, toNat_append_zeros, toNat_ofNat, Nat.mul_assoc, ← Nat.pow_add]
    calc readUnsigned? negative (writeInFull (Text.ofNat c) (.ofNat n))
        = readUnsigned? negative (Text.ofNat c ++ zeros n ++ '.' :: zeros 1) := rfl
      _ = some ⟨negative, toNat (Text.ofNat c ++ zeros n ++ zeros 1), -1⟩ :=
        readUnsigned?_places negative (hd.append (allDigits_zeros n)) (by simp [hne])
          (allDigits_zeros 1) (by decide)
      _ = some ⟨negative, c * 10 ^ (n + 1), -1⟩ := by rw [hz]
  | negSucc n =>
    simp only [writeInFull]
    split
    · -- all digits are behind the point
      rename_i hw
      have hp := (allDigits_zeros (n + 1 - (Text.ofNat c).length)).append hd
      have hr := readUnsigned?_places negative (allDigits_zeros 1) (by decide) hp (by simp [hne])
      refine hr.trans ?_
      rw [toNat_zeros_append, toNat_zeros_append, toNat_ofNat, List.length_append, length_zeros,
        Nat.sub_add_cancel (Nat.sub_eq_zero_iff_le.mp hw)]
      rfl
    · rename_i hw
      have hl : (Text.ofNat c).length - ((Text.ofNat c).length - (n + 1)) = n + 1 := by omega
      rw [readUnsigned?_places negative (fun x hx => hd x (List.mem_of_mem_take hx)) ?_
        (fun x hx => hd x (List.mem_of_mem_drop hx)) ?_, List.take_append_drop, toNat_ofNat,
        List.length_drop, hl]
      · rfl
      · rw [← List.length_pos_iff, List.length_take]
        omega
      · rw [← List.length_pos_iff, List.length_drop]
        omega

/-- **Digits that are written with an exponent are read back.** -/
theorem Decimal.readUnsigned?_writeScientific (width : Nat) (d : Decimal) :
    readUnsigned? d.negative (writeScientific width (Text.ofNat d.coefficient)
      (d.exponent + (Text.ofNat d.coefficient).length - 1)) = some d := by
  obtain ⟨negative, c, e⟩ := d
  have hd := allDigits_ofNat c
  have hv := toNat_ofNat c
  have hs := readScale?_write width (e + (Text.ofNat c).length - 1)
  simp only [writeScientific]
  cases hc : Text.ofNat c with
  | nil => exact absurd hc (ofNat_ne_nil c)
  | cons first rest =>
    rw [hc] at hd hv hs
    cases rest with
    | nil =>
      refine (readUnsigned?_whole negative hd (by simp) hs).trans ?_
      rw [hv]
      congr 2
      simp
    | cons second rest =>
      have hfirst : AllDigits [first] := by
        intro x hx
        exact hd x (by simp_all)
      have hr := readUnsigned?_point negative hfirst (by simp)
        (fun x hx => hd x (List.mem_cons_of_mem _ hx)) (by simp) hs
      refine hr.trans ?_
      rw [List.singleton_append, hv]
      congr 2
      simp only [List.length_cons]
      omega

namespace Layout

variable (layout : Layout) (d : Decimal)

/-- The decimal as which a decimal is read that a layout has written. -/
def shown : Decimal :=
  if layout.inFull (d.exponent + (Text.ofNat d.coefficient).length - 1) then d.inFull else d

@[simp] theorem negative_shown : (layout.shown d).negative = d.negative := by
  unfold shown Decimal.inFull
  split
  · split <;> rfl
  · rfl

@[simp] theorem value_shown : (layout.shown d).value = d.value := by
  unfold shown
  split
  · exact d.value_inFull
  · rfl

/-- A decimal as the layout writes it, without its sign. -/
def writeUnsigned : Text :=
  let digits := Text.ofNat d.coefficient
  let leading := d.exponent + digits.length - 1
  if layout.inFull leading then writeInFull digits d.exponent
  else writeScientific layout.exponentWidth digits leading

theorem writeDecimal_eq :
    layout.writeDecimal d = (if d.negative then ['-'] else []) ++ layout.writeUnsigned d := rfl

theorem readUnsigned?_writeUnsigned :
    Decimal.readUnsigned? d.negative (layout.writeUnsigned d) = some (layout.shown d) := by
  unfold writeUnsigned shown
  simp only
  split
  · exact d.readUnsigned?_writeInFull
  · exact d.readUnsigned?_writeScientific layout.exponentWidth

/-- **What a layout writes is read back.** -/
theorem read?_writeDecimal : Decimal.read? (layout.writeDecimal d) = some (layout.shown d) := by
  have hr := readUnsigned?_writeUnsigned layout d
  rw [writeDecimal_eq]
  cases hn : d.negative with
  | true =>
    rw [hn] at hr
    exact hr
  | false =>
    rw [hn] at hr
    exact Decimal.read?_of_readUnsigned? hr

/-- **A finite double is written as a decimal that rounds to it.** -/
theorem toBinary64_shown_shortest {x : Binary64} (h : x.IsFinite) :
    (layout.shown (x.shortest layout.tie)).toBinary64 = x := by
  rw [Decimal.toBinary64_congr (negative_shown _ _) (value_shown _ _)]
  exact x.toBinary64_shortest layout.tie h

end Layout

/-! ## 3. Characters -/

/-- The characters that a decimal is written with. -/
def Decimal.isMark (c : Char) : Bool :=
  c.isDigit || c = '.' || c = 'e' || c = '+' || c = '-'

theorem isMark_of_mem_digits {t : Text} {c : Char} (h : AllDigits t) (hc : c ∈ t) :
    Decimal.isMark c = true := by
  unfold Decimal.isMark
  rw [h c hc]
  rfl

theorem isMark_of_mem_writeInFull {digits : Text} {exponent : Int} {c : Char}
    (hd : AllDigits digits) (hc : c ∈ writeInFull digits exponent) : Decimal.isMark c = true := by
  have hz := fun k => @isMark_of_mem_digits (zeros k) c (allDigits_zeros k)
  unfold writeInFull at hc
  split at hc
  · rcases List.mem_append.mp hc with hc | hc
    · exact isMark_of_mem_digits (hd.append (allDigits_zeros _)) hc
    · rcases List.mem_cons.mp hc with rfl | hc
      · rfl
      · exact hz 1 hc
  · simp only at hc
    split at hc
    · rcases List.mem_cons.mp hc with rfl | hc
      · rfl
      · rcases List.mem_cons.mp hc with rfl | hc
        · rfl
        · exact isMark_of_mem_digits ((allDigits_zeros _).append hd) hc
    · rcases List.mem_append.mp hc with hc | hc
      · exact isMark_of_mem_digits hd (List.mem_of_mem_take hc)
      · rcases List.mem_cons.mp hc with rfl | hc
        · rfl
        · exact isMark_of_mem_digits hd (List.mem_of_mem_drop hc)

theorem isMark_of_mem_writeExponent {width : Nat} {exponent : Int} {c : Char}
    (hc : c ∈ writeExponent width exponent) : Decimal.isMark c = true := by
  rcases List.mem_cons.mp hc with rfl | hc
  · split <;> rfl
  · exact isMark_of_mem_digits ((allDigits_zeros _).append (allDigits_ofNat _)) hc

theorem isMark_of_mem_writeScientific {width : Nat} {digits : Text} {exponent : Int} {c : Char}
    (hd : AllDigits digits) (hc : c ∈ writeScientific width digits exponent) :
    Decimal.isMark c = true := by
  rcases List.mem_append.mp hc with hc | hc
  · split at hc
    · rename_i first second rest
      rcases List.mem_cons.mp hc with rfl | hc
      · exact isMark_of_mem_digits hd List.mem_cons_self
      · rcases List.mem_cons.mp hc with rfl | hc
        · rfl
        · exact isMark_of_mem_digits hd (List.mem_cons_of_mem _ hc)
    · exact isMark_of_mem_digits hd hc
  · rcases List.mem_cons.mp hc with rfl | hc
    · rfl
    · exact isMark_of_mem_writeExponent hc

/-- **A decimal is written with digits, a point, signs and the letter `e`.** -/
theorem Layout.isMark_of_mem_writeDecimal {layout : Layout} {d : Decimal} {c : Char}
    (hc : c ∈ layout.writeDecimal d) : Decimal.isMark c = true := by
  rw [writeDecimal_eq] at hc
  rcases List.mem_append.mp hc with hc | hc
  · split at hc
    · rw [List.mem_singleton.mp hc]
      rfl
    · cases hc
  · unfold writeUnsigned at hc
    simp only at hc
    split at hc
    · exact isMark_of_mem_writeInFull (allDigits_ofNat _) hc
    · exact isMark_of_mem_writeScientific (allDigits_ofNat _) hc

end LookupLog
