import LookupLog.Proofs.Decimal.Reading
import LookupLog.Proofs.Json.Grammar

/-!
# Words of the grammar

The reader takes exactly the numbers of the grammar for numbers (`number?_eq_some_iff`), and exactly
its names and numbers for words (`word?_eq_some_iff`). A number of JSON is a decimal whose exponent
may begin with a capital letter and whose whole part has no superfluous zero, so both come from the
parts of a decimal (`Decimal.exists_parts_of_readUnsigned?`).
-/

namespace LookupLog

open Text JsonGrammar

/-! ## 1. Digits, exponents and decimals -/

namespace Decimal

theorem readDigits?_eq_some_iff {t : Text} {n : Nat} :
    readDigits? t = some n ↔ (AllDigits t ∧ t ≠ []) ∧ toNat t = n := by
  unfold readDigits?
  rw [Option.ite_none_right_eq_some, Option.some.injEq, List.all_eq_true, and_comm (a := t ≠ [])]
  exact Iff.rfl

theorem readExponent?_plus (digits : Text) :
    readExponent? ('+' :: digits) = (readDigits? digits).map Int.ofNat :=
  rfl

theorem readExponent?_minus (digits : Text) :
    readExponent? ('-' :: digits) = (readDigits? digits).map fun n : Nat => -(n : Int) := by
  show (readDigits? digits >>= fun n => pure (n : Int)).map (fun n : Int => -n) = _
  cases readDigits? digits with
  | none => rfl
  | some n => rfl

theorem readExponent?_digits {t : Text} (hp : t.head? ≠ some '+') (hm : t.head? ≠ some '-') :
    readExponent? t = (readDigits? t).map Int.ofNat := by
  unfold readExponent?
  split
  · exact absurd rfl hp
  · exact absurd rfl hm
  · rfl

/-- **An exponent is read behind its sign.** -/
theorem readExponent?_eq_some_iff {t : Text} {n : Int} :
    readExponent? t = some n ↔
      ∃ sign digits negative, IsSign sign negative ∧ (AllDigits digits ∧ digits ≠ []) ∧
        t = sign ++ digits ∧ (if negative then -(toNat digits : Int) else toNat digits) = n := by
  constructor
  · intro h
    by_cases hp : t.head? = some '+'
    · obtain ⟨digits, rfl⟩ := List.head?_eq_some_iff.mp hp
      rw [readExponent?_plus] at h
      obtain ⟨m, hm, he⟩ := Option.map_eq_some_iff.mp h
      obtain ⟨hd, rfl⟩ := readDigits?_eq_some_iff.mp hm
      exact ⟨['+'], digits, false, .plus, hd, rfl, he⟩
    · by_cases hm : t.head? = some '-'
      · obtain ⟨digits, rfl⟩ := List.head?_eq_some_iff.mp hm
        rw [readExponent?_minus] at h
        obtain ⟨m, hm, he⟩ := Option.map_eq_some_iff.mp h
        obtain ⟨hd, rfl⟩ := readDigits?_eq_some_iff.mp hm
        exact ⟨['-'], digits, true, .minus, hd, rfl, he⟩
      · rw [readExponent?_digits hp hm] at h
        obtain ⟨m, hm, he⟩ := Option.map_eq_some_iff.mp h
        obtain ⟨hd, rfl⟩ := readDigits?_eq_some_iff.mp hm
        exact ⟨[], t, false, .none, hd, rfl, he⟩
  · rintro ⟨sign, digits, negative, hs, hd, rfl, rfl⟩
    have hread := readDigits?_eq_some_iff.mpr ⟨hd, rfl⟩
    cases hs with
    | plus =>
      rw [List.singleton_append, readExponent?_plus, hread]
      rfl
    | minus =>
      rw [List.singleton_append, readExponent?_minus, hread]
      rfl
    | none =>
      have hne : ∀ c : Char, c.isDigit = false → digits.head? ≠ some c := by
        intro c hc h
        rw [hd.1 c (List.mem_of_head? h)] at hc
        cases hc
      rw [List.nil_append, readExponent?_digits (hne _ rfl) (hne _ rfl), hread]
      rfl

/-- **The parts of what is read as a decimal.** -/
theorem exists_parts_of_readUnsigned? {negative : Bool} {t : Text} {d : Decimal}
    (h : readUnsigned? negative t = some d) :
    ∃ whole fraction places scale exponent, (AllDigits whole ∧ whole ≠ []) ∧
      IsFraction fraction places ∧ readScale? scale = some exponent ∧
      t = whole ++ (fraction ++ scale) ∧
      d = ⟨negative, toNat (whole ++ places), exponent - places.length⟩ := by
  have hdigits : ∀ t : Text, AllDigits (t.takeWhile Char.isDigit) := fun t c hc =>
    List.mem_takeWhile_imp hc
  unfold readUnsigned? at h
  simp only at h
  split at h
  · cases h
  · rename_i hw
    split at h
    · rename_i rest hrest
      split at h
      · cases h
      · rename_i hp
        obtain ⟨exponent, hs, rfl⟩ := Option.map_eq_some_iff.mp h
        refine ⟨_, _, _, _, exponent, ⟨hdigits t, hw⟩, .some (hdigits rest) hp, hs, ?_, rfl⟩
        rw [List.cons_append, List.takeWhile_append_dropWhile, ← hrest,
          List.takeWhile_append_dropWhile]
    · obtain ⟨exponent, hs, rfl⟩ := Option.map_eq_some_iff.mp h
      refine ⟨_, [], [], _, exponent, ⟨hdigits t, hw⟩, .none, hs, ?_, ?_⟩
      · rw [List.nil_append, List.takeWhile_append_dropWhile]
      · rw [List.append_nil, List.length_nil, Nat.cast_zero, Int.sub_zero]

end Decimal

namespace JsonReader

/-! ## 2. Numbers -/

/-- The mark of an exponent as a decimal has it. -/
def lowerMark (c : Char) : Char :=
  if c = 'E' then 'e' else c

theorem lowerMark_eq_iff {c d : Char} (he : d ≠ 'e') (hE : d ≠ 'E') : lowerMark c = d ↔ c = d := by
  unfold lowerMark
  split
  · rename_i h
    exact iff_of_false he.symm fun hd => hE (hd.symm.trans h)
  · rfl

theorem lowerMark_of_mark {mark : Char} (hm : mark = 'e' ∨ mark = 'E') : lowerMark mark = 'e' := by
  rcases hm with rfl | rfl
  · rfl
  · rfl

/-- What has no such mark is not changed. -/
theorem map_lowerMark_eq_iff {t s : Text} (hs : ∀ c ∈ s, c ≠ 'e' ∧ c ≠ 'E') :
    t.map lowerMark = s ↔ t = s := by
  induction t generalizing s with
  | nil => rfl
  | cons c t ih =>
    cases s with
    | nil => simp
    | cons d s =>
      obtain ⟨hd, hs⟩ := List.forall_mem_cons.mp hs
      rw [List.map_cons, List.cons.injEq, List.cons.injEq, lowerMark_eq_iff hd.1 hd.2, ih hs]

theorem not_mark_of_isDigit {c : Char} (h : c.isDigit = true) : c ≠ 'e' ∧ c ≠ 'E' := by
  constructor
  · rintro rfl
    cases h
  · rintro rfl
    cases h

theorem not_mark_of_mem_sign {sign : Text} {negative : Bool} (h : IsSign sign negative) :
    ∀ c ∈ sign, c ≠ 'e' ∧ c ≠ 'E' := by
  cases h with
  | none => exact nofun
  | plus => exact List.forall_mem_singleton.mpr (by decide)
  | minus => exact List.forall_mem_singleton.mpr (by decide)

theorem not_mark_of_mem_fraction {fraction places : Text} (h : IsFraction fraction places) :
    ∀ c ∈ fraction, c ≠ 'e' ∧ c ≠ 'E' := by
  cases h with
  | none => exact nofun
  | some hd => exact List.forall_mem_cons.mpr ⟨by decide, fun c hc => not_mark_of_isDigit (hd c hc)⟩

/-- **What may follow a fraction** is what may follow the digits of a decimal, also with a capital
    letter. -/
theorem readScale?_map_lowerMark {t : Text} {n : Int} :
    Decimal.readScale? (t.map lowerMark) = some n ↔ IsScale t n := by
  have hpart : ∀ {sign digits negative}, IsSign sign negative → AllDigits digits →
      ∀ c ∈ sign ++ digits, c ≠ 'e' ∧ c ≠ 'E' := fun hs hd =>
    List.forall_mem_append.mpr ⟨not_mark_of_mem_sign hs, fun c hc => not_mark_of_isDigit (hd c hc)⟩
  constructor
  · intro h
    cases t with
    | nil =>
      cases h
      exact .none
    | cons mark t =>
      by_cases hm : mark = 'e' ∨ mark = 'E'
      · rw [List.map_cons, lowerMark_of_mark hm] at h
        obtain ⟨sign, digits, negative, hs, hd, ht, rfl⟩ := Decimal.readExponent?_eq_some_iff.mp h
        rw [map_lowerMark_eq_iff (hpart hs hd.1)] at ht
        subst ht
        exact .some hm hs hd.1 hd.2
      · obtain ⟨he, hE⟩ := not_or.mp hm
        have hl : lowerMark mark = mark := if_neg hE
        rw [List.map_cons, hl] at h
        unfold Decimal.readScale? at h
        split at h
        · rename_i h0
          cases h0
        · rename_i h0
          exact absurd (List.cons.inj h0).1 he
        · cases h
  · rintro (_ | ⟨hm, hs, hd, hne⟩)
    · rfl
    · rw [List.map_cons, lowerMark_of_mark hm, (map_lowerMark_eq_iff (hpart hs hd)).mpr rfl]
      exact Decimal.readExponent?_eq_some_iff.mpr ⟨_, _, _, hs, ⟨hd, hne⟩, rfl, rfl⟩

/-- A number is read behind its sign. -/
theorem number?_sign_append {negative : Bool} {t : Text} (ht : t.head? ≠ some '-') :
    number? ((if negative then ['-'] else []) ++ t) =
      if isShortened t then Decimal.readUnsigned? negative (t.map lowerMark) else none := by
  cases negative with
  | true => rfl
  | false =>
    show number? t = _
    have hmap : (t.map lowerMark).head? ≠ some '-' := by
      rw [List.head?_map]
      intro h
      obtain ⟨c, hc, he⟩ := Option.map_eq_some_iff.mp h
      rw [lowerMark_eq_iff (by decide) (by decide)] at he
      exact ht (he ▸ hc)
    unfold number?
    split
    · exact absurd rfl ht
    · unfold Decimal.read?
      split
      · rename_i h
        exact absurd (congrArg List.head? h) hmap
      · rfl

theorem isShortened_of_head {text : Text} (h : text.head? ≠ some '0') :
    isShortened text = true := by
  unfold isShortened
  split
  · exact absurd rfl h
  · rfl

/-- Digits in front of what is not a digit have no superfluous zero if they are a whole part. -/
theorem isShortened_append_iff {whole rest : Text} (hw : AllDigits whole) (hne : whole ≠ [])
    (hr : ∀ c ∈ rest.head?, c.isDigit = false) :
    isShortened (whole ++ rest) = true ↔ IsWholePart whole := by
  constructor
  · intro h
    refine ⟨hw, hne, fun h0 => ?_⟩
    obtain ⟨more, rfl⟩ := List.head?_eq_some_iff.mp h0
    cases more with
    | nil => rfl
    | cons c more =>
      have hc : isShortened ('0' :: c :: (more ++ rest)) = !c.isDigit := rfl
      have hd : c.isDigit = true := hw c (List.mem_cons_of_mem _ List.mem_cons_self)
      rw [List.cons_append, List.cons_append, hc, hd] at h
      cases h
  · intro h
    by_cases h0 : whole.head? = some '0'
    · rw [h.leading h0]
      cases rest with
      | nil => rfl
      | cons c rest =>
        show (!c.isDigit) = true
        rw [hr c rfl]
        rfl
    · refine isShortened_of_head ?_
      rw [List.head?_append_of_ne_nil _ hne]
      exact h0

/-- What may follow the whole part does not begin with a digit. -/
theorem not_isDigit_of_head {fraction places scale : Text} {exponent : Int}
    (hf : IsFraction fraction places) (hs : IsScale scale exponent) :
    ∀ c ∈ (fraction ++ scale).head?, c.isDigit = false := by
  intro c hc
  cases hf with
  | some hd hne =>
    obtain rfl : '.' = c := Option.some.inj hc
    rfl
  | none =>
    cases hs with
    | none => cases hc
    | some hm =>
      obtain rfl := Option.some.inj hc
      rcases hm with rfl | rfl
      · rfl
      · rfl

/-- **Numbers without a sign.** -/
theorem readUnsigned?_map_lowerMark {negative : Bool} {t : Text} {d : Decimal} :
    Decimal.readUnsigned? negative (t.map lowerMark) = some d ↔
      ∃ whole fraction places scale exponent, (AllDigits whole ∧ whole ≠ []) ∧
        IsFraction fraction places ∧ IsScale scale exponent ∧ t = whole ++ (fraction ++ scale) ∧
        d = ⟨negative, toNat (whole ++ places), exponent - places.length⟩ := by
  constructor
  · intro h
    obtain ⟨whole, fraction, places, scale, exponent, hw, hf, hs, ht, rfl⟩ :=
      Decimal.exists_parts_of_readUnsigned? h
    obtain ⟨whole', rest', rfl, hwhole, hrest⟩ := List.map_eq_append_iff.mp ht
    obtain ⟨fraction', scale', rfl, hfraction, rfl⟩ := List.map_eq_append_iff.mp hrest
    rw [map_lowerMark_eq_iff fun c hc => not_mark_of_isDigit (hw.1 c hc)] at hwhole
    rw [map_lowerMark_eq_iff (not_mark_of_mem_fraction hf)] at hfraction
    subst hwhole hfraction
    exact ⟨_, _, places, _, exponent, hw, hf, readScale?_map_lowerMark.mp hs, rfl, rfl⟩
  · rintro ⟨whole, fraction, places, scale, exponent, hw, hf, hs, rfl, rfl⟩
    have hwhole := (map_lowerMark_eq_iff fun c hc => not_mark_of_isDigit (hw.1 c hc)).mpr rfl
    have hfraction := (map_lowerMark_eq_iff (not_mark_of_mem_fraction hf)).mpr rfl
    have hscale := readScale?_map_lowerMark.mpr hs
    rw [List.map_append, List.map_append, hwhole, hfraction]
    cases hf with
    | none =>
      rw [List.nil_append, Decimal.readUnsigned?_whole negative hw.1 hw.2 hscale, List.append_nil,
        List.length_nil, Nat.cast_zero, Int.sub_zero]
    | some hd hne => exact Decimal.readUnsigned?_point negative hw.1 hw.2 hd hne hscale

/-- **The numbers that are read are those of the grammar.** -/
theorem number?_eq_some_iff {t : Text} {d : Decimal} : number? t = some d ↔ IsNumber t d := by
  have hread : ∀ {negative t}, isShortened t = true →
      Decimal.readUnsigned? negative (t.map lowerMark) = some d →
      IsNumber ((if negative then ['-'] else []) ++ t) d := by
    intro negative t hs h
    obtain ⟨whole, fraction, places, scale, exponent, hw, hf, hscale, rfl, rfl⟩ :=
      readUnsigned?_map_lowerMark.mp h
    rw [isShortened_append_iff hw.1 hw.2 (not_isDigit_of_head hf hscale)] at hs
    exact .mk hs hf hscale
  constructor
  · intro h
    by_cases hm : t.head? = some '-'
    · obtain ⟨t, rfl⟩ := List.head?_eq_some_iff.mp hm
      obtain ⟨hs, h⟩ := Option.ite_none_right_eq_some.mp h
      exact @hread true t hs h
    · have hn : number? t = _ := @number?_sign_append false t hm
      obtain ⟨hs, h⟩ := Option.ite_none_right_eq_some.mp (hn.symm.trans h)
      exact @hread false t hs h
  · rintro ⟨hw, hf, hscale⟩
    have hs := (isShortened_append_iff hw.digits hw.ne_nil (not_isDigit_of_head hf hscale)).mpr hw
    rw [number?_sign_append, if_pos hs]
    · exact readUnsigned?_map_lowerMark.mpr
        ⟨_, _, _, _, _, ⟨hw.digits, hw.ne_nil⟩, hf, hscale, rfl, rfl⟩
    · rw [List.head?_append_of_ne_nil _ hw.ne_nil]
      intro h
      exact absurd (hw.digits '-' (List.mem_of_head? h)) (by decide)

/-! ## 3. Words -/

/-- A number is not a name. -/
theorem word?_of_number? {t : Text} {d : Decimal} (h : number? t = some d) :
    word? t = some (.number d) := by
  have hname : ∀ name : Text, number? name = none → t ≠ name := by
    rintro name h0 rfl
    rw [h] at h0
    cases h0
  unfold word?
  rw [if_neg (hname _ (by decide)), if_neg (hname _ (by decide)), if_neg (hname _ (by decide)), h,
    Option.map_some]

/-- **The words that are read are those of the grammar.** -/
theorem word?_eq_some_iff {t : Text} {v : JsonValue} : word? t = some v ↔ IsWord t v := by
  constructor
  · intro h
    unfold word? at h
    split at h
    · rename_i ht
      cases ht
      cases h
      exact .null
    · split at h
      · rename_i ht
        cases ht
        cases h
        exact .true
      · split at h
        · rename_i ht
          cases ht
          cases h
          exact .false
        · obtain ⟨d, hd, rfl⟩ := Option.map_eq_some_iff.mp h
          exact .number (number?_eq_some_iff.mp hd)
  · intro h
    cases h with
    | null => rfl
    | true => rfl
    | false => rfl
    | number hd => exact word?_of_number? (number?_eq_some_iff.mpr hd)

/-- The characters of a number. -/
theorem isWordChar_of_isNumber {t : Text} {d : Decimal} (h : IsNumber t d) :
    ∀ c ∈ t, isWordChar c = true := by
  have hdigits : ∀ {digits}, AllDigits digits → ∀ c ∈ digits, isWordChar c = true := by
    intro digits hd c hc
    simp [isWordChar, Char.isAlphanum, hd c hc]
  obtain ⟨hw, hf, hs⟩ := h
  refine List.forall_mem_append.mpr ⟨?_, List.forall_mem_append.mpr ⟨hdigits hw.digits,
    List.forall_mem_append.mpr ⟨?_, ?_⟩⟩⟩
  · split
    · exact List.forall_mem_singleton.mpr rfl
    · exact nofun
  · cases hf with
    | none => exact nofun
    | some hd => exact List.forall_mem_cons.mpr ⟨rfl, hdigits hd⟩
  · cases hs with
    | none => exact nofun
    | some hm hsign hd =>
      refine List.forall_mem_cons.mpr ⟨?_, List.forall_mem_append.mpr ⟨?_, hdigits hd⟩⟩
      · rcases hm with rfl | rfl
        · rfl
        · rfl
      · cases hsign with
        | none => exact nofun
        | plus => exact List.forall_mem_singleton.mpr rfl
        | minus => exact List.forall_mem_singleton.mpr rfl

/-- **A word consists of characters of a word.** -/
theorem isWordChar_of_isWord {t : Text} {v : JsonValue} (h : IsWord t v) :
    ∀ c ∈ t, isWordChar c = true := by
  cases h with
  | null => exact List.all_eq_true.mp rfl
  | true => exact List.all_eq_true.mp rfl
  | false => exact List.all_eq_true.mp rfl
  | number hd => exact isWordChar_of_isNumber hd

end JsonReader

end LookupLog
