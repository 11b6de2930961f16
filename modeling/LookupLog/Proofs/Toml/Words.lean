import LookupLog.Proofs.Toml.Moments
import LookupLog.Proofs.Toml.Numbers

/-!
# Words of TOML

Truth values, moments, whole numbers and floats are told apart by the first character that is no
digit (`kindMark`), so a word is of one kind only, and the order in which a reader tries the kinds
does not matter (`ofWord?_eq_some_iff`). A word goes as far as its characters do
(`splitWord_append`).
-/

namespace LookupLog.Toml

open Text TomlGrammar JsonGrammar

/-! ## 1. Kinds of words -/

/-- The first character that is neither a digit nor an underscore. -/
def firstOther (t : Text) : Option Char :=
  (t.dropWhile fun c => c.isDigit || c = '_').head?

/-- The first such character behind a sign. -/
def kindMark (t : Text) : Option Char :=
  firstOther (splitSign t).2

section Kinds

variable {sign t digits point places power : Text} {negative : Bool} {c : Char} {n : Int}
  {d : Decimal} {x : Binary64} {v : Value}

theorem firstOther_append (h : ∀ c ∈ t, c.isDigit = true ∨ c = '_') (rest : Text) :
    firstOther (t ++ rest) = firstOther rest := by
  have hp : ∀ c ∈ t, (c.isDigit || decide (c = '_')) = true := fun c hc =>
    (Bool.or_eq_true _ _).mpr ((h c hc).imp_right decide_eq_true)
  unfold firstOther
  rw [List.dropWhile_append_of_pos hp]

theorem firstOther_cons (hd : c.isDigit = false) (hu : c ≠ '_') (t : Text) :
    firstOther (c :: t) = some c := by
  unfold firstOther
  simp [hd, hu]

theorem kindMark_append (hs : IsSign sign negative) (hb : ∀ c ∈ t.head?, c ≠ '-' ∧ c ≠ '+') :
    kindMark (sign ++ t) = firstOther t := by
  unfold kindMark
  rw [splitSign_append hs hb]

/-- Without a sign in front the first other character counts. -/
theorem kindMark_cons (h : c ≠ '-' ∧ c ≠ '+') (t : Text) :
    kindMark (c :: t) = firstOther (c :: t) := by
  have hb : ∀ d ∈ (c :: t).head?, d ≠ '-' ∧ d ≠ '+' := by
    intro d hd
    cases hd
    exact h
  exact kindMark_append .none hb

theorem kindMark_of_isMoment (h : IsMoment t) : kindMark t ∈ [some ':', some '-'] := by
  have hdate : ∀ {t rest : Text}, IsDate t → kindMark (t ++ rest) = some '-' := by
    intro t rest hd
    obtain ⟨a, b, c, d, u, rfl, hall⟩ := exists_of_isDate hd
    have ha := ne_sign_of_isDigit (hall a List.mem_cons_self)
    have hdigits : ∀ e ∈ [a, b, c, d], e.isDigit = true ∨ e = '_' := fun e he => Or.inl (hall e he)
    exact (kindMark_cons ha _).trans ((firstOther_append hdigits _).trans
      (firstOther_cons rfl (by decide) _))
  have htime : ∀ {t : Text}, IsTime t → kindMark t = some ':' := by
    intro t ht
    obtain ⟨a, b, u, rfl, ha, hb⟩ := exists_of_isTime ht
    have hdigits : ∀ e ∈ [a, b], e.isDigit = true ∨ e = '_' := List.forall_mem_cons.mpr
      ⟨Or.inl ha, List.forall_mem_singleton.mpr (Or.inl hb)⟩
    exact (kindMark_cons (ne_sign_of_isDigit ha) _).trans ((firstOther_append hdigits _).trans
      (firstOther_cons rfl (by decide) _))
  cases h with
  | date hd =>
    have h : kindMark (t ++ []) = some '-' := hdate hd
    rw [List.append_nil] at h
    rw [h]
    exact List.mem_cons_of_mem _ List.mem_cons_self
  | time ht =>
    rw [htime ht]
    exact List.mem_cons_self
  | both hd =>
    rw [hdate hd]
    exact List.mem_cons_of_mem _ List.mem_cons_self

theorem firstOther_of_isDigits (h : IsDigits Char.isDigit t digits) (rest : Text) :
    firstOther (t ++ rest) = firstOther rest :=
  firstOther_append (mem_of_isDigits h) rest

theorem kindMark_of_isInteger (h : IsInteger t n) :
    kindMark t ∈ [none, some 'x', some 'o', some 'b'] := by
  cases h with
  | @decimal sign t digits negative hs hw =>
    have hb := ne_sign_of_isDigits hw.1 []
    have hf := firstOther_of_isDigits hw.1 []
    rw [List.append_nil] at hb hf
    rw [kindMark_append hs hb, hf]
    exact List.mem_cons_self
  | @based letter base t digits hb hd =>
    have hzero : ∀ e ∈ ['0'], e.isDigit = true ∨ e = '_' :=
      List.forall_mem_singleton.mpr (Or.inl rfl)
    have hall : ∀ p ∈ bases, (p.1.isDigit = false ∧ p.1 ≠ '_') ∧
        some p.1 ∈ [none, some 'x', some 'o', some 'b'] := by
      decide
    obtain ⟨⟨hd, hu⟩, hmem⟩ := hall _ hb
    have hk : kindMark ('0' :: letter :: t) = some letter := (kindMark_cons (by decide) _).trans
      ((firstOther_append hzero _).trans (firstOther_cons hd hu t))
    rw [hk]
    exact hmem

theorem kindMark_of_isDecimal (h : IsDecimal t d) :
    kindMark t ∈ [some '.', some 'e', some 'E'] := by
  cases h with
  | @mk sign whole digits point places power negative exponent hs hw hp he hne =>
    rw [kindMark_append hs (ne_sign_of_isDigits hw.1 _), firstOther_of_isDigits hw.1]
    cases hp with
    | some hd =>
      rw [List.cons_append, firstOther_cons rfl (by decide)]
      exact List.mem_cons_self
    | none =>
      rw [List.nil_append]
      cases he with
      | none => exact absurd rfl (hne.resolve_left fun h => h rfl)
      | some hm =>
        rcases hm with rfl | rfl
        · rw [firstOther_cons rfl (by decide)]
          decide
        · rw [firstOther_cons rfl (by decide)]
          decide

theorem kindMark_of_isFloat (h : IsFloat t x) :
    kindMark t ∈ [some '.', some 'e', some 'E', some 'i', some 'n'] := by
  have hname : ∀ {sign : Text} {negative : Bool} {c : Char} (rest : Text), IsSign sign negative →
      (c ≠ '-' ∧ c ≠ '+') ∧ c.isDigit = false ∧ c ≠ '_' →
        kindMark (sign ++ c :: rest) = some c := by
    intro sign negative c rest hs hc
    have hb : ∀ d ∈ (c :: rest).head?, d ≠ '-' ∧ d ≠ '+' := by
      intro d hd
      cases hd
      exact hc.1
    rw [kindMark_append hs hb, firstOther_cons hc.2.1 hc.2.2]
  cases h with
  | infinity hs =>
    rw [hname _ hs (by decide)]
    decide
  | nan hs =>
    rw [hname _ hs (by decide)]
    decide
  | decimal hd _ =>
    rcases List.mem_cons.mp (kindMark_of_isDecimal hd) with h | h
    · rw [h]
      decide
    · rw [List.mem_pair] at h
      rcases h with h | h
      · rw [h]
        decide
      · rw [h]
        decide

/-- A word of such kinds is no name. -/
theorem ne_name_of_kindMark {marks : List (Option Char)} (hk : kindMark t ∈ marks)
    (ht : some 't' ∉ marks) (hf : some 'f' ∉ marks) :
    t ≠ "true".toList ∧ t ≠ "false".toList := by
  refine ⟨fun hw => ht ?_, fun hw => hf ?_⟩
  · rw [hw] at hk
    exact hk
  · rw [hw] at hk
    exact hk

/-- A word of such kinds is no moment. -/
theorem not_isMoment_of_kindMark {marks : List (Option Char)} (hk : kindMark t ∈ marks)
    (hc : some ':' ∉ marks) (hm : some '-' ∉ marks) : ¬Toml.isMoment t = true := by
  intro h
  rcases List.mem_pair.mp (kindMark_of_isMoment (isMoment_iff.mp h)) with h | h
  · exact hc (h ▸ hk)
  · exact hm (h ▸ hk)

/-- A float is no whole number. -/
theorem integer?_of_isFloat (h : IsFloat t x) : integer? t = none := by
  cases hi : integer? t with
  | none => rfl
  | some n =>
    have hk := kindMark_of_isInteger (integer?_eq_some_iff.mp hi).1
    have hapart : [some '.', some 'e', some 'E', some 'i', some 'n'].all
        (fun m => m ∉ [none, some 'x', some 'o', some 'b']) = true := rfl
    exact absurd hk (of_decide_eq_true (List.all_eq_true.mp hapart _ (kindMark_of_isFloat h)))

theorem isWord_of_ofWord? (h : Value.ofWord? t = some v) : IsWord t v := by
  unfold Value.ofWord? at h
  split at h
  · rename_i ht
    cases h
    rw [ht]
    exact .true
  · split at h
    · rename_i ht
      cases h
      rw [ht]
      exact .false
    · split at h
      · rename_i hm
        cases h
        exact .moment (isMoment_iff.mp hm)
      · split at h
        · rename_i n hn
          cases h
          obtain ⟨hi, hrange⟩ := integer?_eq_some_iff.mp hn
          exact .integer hi hrange
        · obtain ⟨x, hx, rfl⟩ := Option.map_eq_some_iff.mp h
          exact .float (float?_eq_some_iff.mp hx)

/-- A word of one kind is of no kind that is tried before. -/
theorem ofWord?_of_isWord (h : IsWord t v) : Value.ofWord? t = some v := by
  unfold Value.ofWord?
  cases h with
  | true => rfl
  | false => rfl
  | moment hm =>
    obtain ⟨ht, hf⟩ := ne_name_of_kindMark (kindMark_of_isMoment hm) (by decide) (by decide)
    rw [if_neg ht, if_neg hf, if_pos (isMoment_iff.mpr hm)]
  | integer hi hrange =>
    have hk := kindMark_of_isInteger hi
    obtain ⟨ht, hf⟩ := ne_name_of_kindMark hk (by decide) (by decide)
    rw [if_neg ht, if_neg hf, if_neg (not_isMoment_of_kindMark hk (by decide) (by decide)),
      integer?_eq_some_iff.mpr ⟨hi, hrange⟩]
  | float hx =>
    have hk := kindMark_of_isFloat hx
    obtain ⟨ht, hf⟩ := ne_name_of_kindMark hk (by decide) (by decide)
    rw [if_neg ht, if_neg hf, if_neg (not_isMoment_of_kindMark hk (by decide) (by decide)),
      integer?_of_isFloat hx, float?_eq_some_iff.mpr hx]
    rfl

/-- **The words that are read are those of the grammar**, and each of them has one value. -/
theorem ofWord?_eq_some_iff : Value.ofWord? t = some v ↔ IsWord t v :=
  ⟨isWord_of_ofWord?, ofWord?_of_isWord⟩

end Kinds

/-! ## 2. How far a word goes -/

/-- A word can end in front of it: neither a character of a word nor a digit behind a blank. -/
def EndsWord (rest : Text) : Prop :=
  (∀ c ∈ rest.head?, isWordChar c = false) ∧ ∀ c u, rest = ' ' :: c :: u → c.isDigit = false

section Boundaries

variable {t digits rest : Text} {negative : Bool} {n : Int} {d : Decimal} {x : Binary64} {v : Value}

theorem isWordChar_of_isAlphanum {c : Char} (h : c.isAlphanum = true) : isWordChar c = true := by
  unfold isWordChar
  simp only [h, Bool.true_or]

theorem isWordChar_of_isDigit {c : Char} (h : c.isDigit = true) : isWordChar c = true :=
  isWordChar_of_isAlphanum (by rw [Char.isAlphanum, h, Bool.or_true])

/-- Digits in a base are letters or decimal digits. -/
theorem isWordChar_of_isDigitIn {base : Nat} {c : Char} (h : isDigitIn base c = true) :
    isWordChar c = true := by
  unfold isDigitIn at h
  rw [Bool.and_eq_true, Bool.or_eq_true, Bool.and_eq_true, decide_eq_true_eq,
    decide_eq_true_eq] at h
  rcases h.1 with hd | ⟨hl, hu⟩
  · exact isWordChar_of_isDigit hd
  · refine isWordChar_of_isAlphanum ?_
    show (c.isUpper || c.isLower || c.isDigit) = true
    by_cases hupper : c.isUpper = true
    · rw [hupper]
      rfl
    · have hself : c.toLower = c := dif_neg fun h => hupper (decide_eq_true h)
      rw [hself] at hl hu
      have hlower : c.isLower = true := Bool.and_eq_true_iff.mpr
        ⟨decide_eq_true hl, decide_eq_true (UInt32.le_trans hu (by decide : 'f'.val ≤ 'z'.val))⟩
      rw [hlower, Bool.or_true]
      rfl

theorem isWordChar_of_isDigits {isDigit : Char → Bool} (h : IsDigits isDigit t digits)
    (hd : ∀ c, isDigit c = true → isWordChar c = true) : ∀ c ∈ t, isWordChar c = true := by
  intro c hc
  rcases mem_of_isDigits h c hc with h | rfl
  · exact hd c h
  · rfl

theorem isWordChar_of_isSign {sign : Text} (h : IsSign sign negative) :
    ∀ c ∈ sign, isWordChar c = true := by
  cases h with
  | none => nofun
  | plus => exact List.forall_mem_singleton.mpr rfl
  | minus => exact List.forall_mem_singleton.mpr rfl

theorem isWordChar_of_isInteger (h : IsInteger t n) : ∀ c ∈ t, isWordChar c = true := by
  cases h with
  | decimal hs hw =>
    exact List.forall_mem_append.mpr ⟨isWordChar_of_isSign hs,
      isWordChar_of_isDigits hw.1 fun _ => isWordChar_of_isDigit⟩
  | @based letter base t digits hb hd =>
    have hall : ∀ p ∈ bases, isWordChar p.1 = true := by decide
    have hletter : isWordChar letter = true := hall (letter, base) hb
    have hdigits : ∀ c ∈ t, isWordChar c = true :=
      isWordChar_of_isDigits hd fun _ => isWordChar_of_isDigitIn
    exact List.forall_mem_cons.mpr ⟨rfl, List.forall_mem_cons.mpr ⟨hletter, hdigits⟩⟩

theorem isWordChar_of_isDecimal (h : IsDecimal t d) : ∀ c ∈ t, isWordChar c = true := by
  have hdigits : ∀ {t digits : Text}, IsDigits Char.isDigit t digits →
      ∀ c ∈ t, isWordChar c = true :=
    fun hd => isWordChar_of_isDigits hd fun _ => isWordChar_of_isDigit
  cases h with
  | @mk sign whole digits point places power negative exponent hs hw hp he hne =>
    have hpoint : ∀ c ∈ point, isWordChar c = true := by
      cases hp with
      | none => nofun
      | some hd => exact List.forall_mem_cons.mpr ⟨rfl, hdigits hd⟩
    have hpower : ∀ c ∈ power, isWordChar c = true := by
      cases he with
      | none => nofun
      | some hm hs hd =>
        refine List.forall_mem_cons.mpr ⟨?_, List.forall_mem_append.mpr
          ⟨isWordChar_of_isSign hs, hdigits hd⟩⟩
        rcases hm with rfl | rfl
        · rfl
        · rfl
    exact List.forall_mem_append.mpr ⟨isWordChar_of_isSign hs, List.forall_mem_append.mpr
      ⟨hdigits hw.1, List.forall_mem_append.mpr ⟨hpoint, hpower⟩⟩⟩

theorem isWordChar_of_isFloat (h : IsFloat t x) : ∀ c ∈ t, isWordChar c = true := by
  cases h with
  | infinity hs =>
    exact List.forall_mem_append.mpr ⟨isWordChar_of_isSign hs, List.all_eq_true.mp rfl⟩
  | nan hs => exact List.forall_mem_append.mpr ⟨isWordChar_of_isSign hs, List.all_eq_true.mp rfl⟩
  | decimal hd _ => exact isWordChar_of_isDecimal hd

theorem isWordChar_of_isNumeral {count n : Nat} (h : IsNumeral count t n) :
    ∀ c ∈ t, isWordChar c = true :=
  fun c hc => isWordChar_of_isDigit (h.1.1 c hc)

theorem isWordChar_of_isDate (h : IsDate t) : ∀ c ∈ t, isWordChar c = true := by
  cases h with
  | mk hy hm hd =>
    exact List.forall_mem_append.mpr ⟨isWordChar_of_isNumeral hy, List.forall_mem_cons.mpr
      ⟨rfl, List.forall_mem_append.mpr ⟨isWordChar_of_isNumeral hm, List.forall_mem_cons.mpr
        ⟨rfl, isWordChar_of_isNumeral hd⟩⟩⟩⟩

theorem isWordChar_of_isHourMinute (h : IsHourMinute t) : ∀ c ∈ t, isWordChar c = true := by
  cases h with
  | mk hh hm =>
    exact List.forall_mem_append.mpr ⟨isWordChar_of_isNumeral hh, List.forall_mem_cons.mpr
      ⟨rfl, isWordChar_of_isNumeral hm⟩⟩

theorem isWordChar_of_isTime (h : IsTime t) : ∀ c ∈ t, isWordChar c = true := by
  cases h with
  | @mk t s fraction second ht hs hsecond hf =>
    have hfraction : ∀ c ∈ fraction, isWordChar c = true := by
      cases hf with
      | none => nofun
      | some hd => exact List.forall_mem_cons.mpr ⟨rfl, fun c hc => isWordChar_of_isDigit (hd c hc)⟩
    exact List.forall_mem_append.mpr ⟨isWordChar_of_isHourMinute ht, List.forall_mem_cons.mpr
      ⟨rfl, List.forall_mem_append.mpr ⟨isWordChar_of_isNumeral hs, hfraction⟩⟩⟩

theorem isWordChar_of_isOffset (h : IsOffset t) : ∀ c ∈ t, isWordChar c = true := by
  cases h with
  | none => nofun
  | zulu hc =>
    rcases hc with rfl | rfl
    · exact List.forall_mem_singleton.mpr rfl
    · exact List.forall_mem_singleton.mpr rfl
  | some hc ht =>
    rcases hc with rfl | rfl
    · exact List.forall_mem_cons.mpr ⟨rfl, isWordChar_of_isHourMinute ht⟩
    · exact List.forall_mem_cons.mpr ⟨rfl, isWordChar_of_isHourMinute ht⟩

/-- A word has characters of words only, or it is a date and a time with a blank between them. -/
theorem isWordChar_of_isWord (h : IsWord t v) : (∀ c ∈ t, isWordChar c = true) ∨
    ∃ date c u, t = date ++ ' ' :: c :: u ∧ IsDate date ∧ c.isDigit = true ∧
      ∀ d ∈ c :: u, isWordChar d = true := by
  cases h with
  | true => exact Or.inl (List.all_eq_true.mp rfl)
  | false => exact Or.inl (List.all_eq_true.mp rfl)
  | integer hi => exact Or.inl (isWordChar_of_isInteger hi)
  | float hx => exact Or.inl (isWordChar_of_isFloat hx)
  | moment hm =>
    cases hm with
    | date hd => exact Or.inl (isWordChar_of_isDate hd)
    | time ht => exact Or.inl (isWordChar_of_isTime ht)
    | @both date time offset mark hd hmark ht ho =>
      have hrest : ∀ c ∈ time ++ offset, isWordChar c = true := List.forall_mem_append.mpr
        ⟨isWordChar_of_isTime ht, isWordChar_of_isOffset ho⟩
      rcases hmark with rfl | rfl | rfl
      · exact Or.inl (List.forall_mem_append.mpr
          ⟨isWordChar_of_isDate hd, List.forall_mem_cons.mpr ⟨rfl, hrest⟩⟩)
      · exact Or.inl (List.forall_mem_append.mpr
          ⟨isWordChar_of_isDate hd, List.forall_mem_cons.mpr ⟨rfl, hrest⟩⟩)
      · obtain ⟨a, b, u, rfl, ha, -⟩ := exists_of_isTime ht
        exact Or.inr ⟨date, a, _, rfl, hd, ha, hrest⟩

theorem span_word (ht : ∀ c ∈ t, isWordChar c = true)
    (hr : ∀ c ∈ rest.head?, isWordChar c = false) :
    (t ++ rest).takeWhile isWordChar = t ∧ (t ++ rest).dropWhile isWordChar = rest := by
  rw [List.takeWhile_append_of_pos ht, List.dropWhile_append_of_pos ht]
  cases rest with
  | nil => exact ⟨List.append_nil t, rfl⟩
  | cons c rest => simp [hr c rfl]

/-- **A word is split off as a whole.** -/
theorem splitWord_append (h : IsWord t v) (hr : EndsWord rest) :
    splitWord (t ++ rest) = (t, rest) := by
  obtain ⟨hhead, hdigit⟩ := hr
  rcases isWordChar_of_isWord h with ht | ⟨date, c, u, rfl, hd, hc, hu⟩
  · obtain ⟨htake, hdrop⟩ := span_word ht hhead
    unfold splitWord
    simp only [htake, hdrop]
    split
    · rename_i c u
      rw [hdigit c u rfl, Bool.and_false]
      rfl
    · rfl
  · have hblank : ∀ d ∈ (' ' :: c :: (u ++ rest)).head?, isWordChar d = false := by
      intro d hd
      cases hd
      rfl
    obtain ⟨htake, hdrop⟩ := span_word (isWordChar_of_isDate hd) hblank
    obtain ⟨htake', hdrop'⟩ := span_word hu hhead
    rw [List.append_assoc]
    unfold splitWord
    simp only [List.cons_append] at htake' hdrop' ⊢
    simp only [htake, hdrop, isDate_iff.mpr hd, hc, Bool.and_self, if_true, htake', hdrop']

/-- What is split off and the rest are the text. -/
theorem splitWord_fst_append_snd (t : Text) : (splitWord t).1 ++ (splitWord t).2 = t := by
  unfold splitWord
  simp only
  split
  · rename_i c u hd
    split
    · rw [List.append_assoc, List.cons_append, List.takeWhile_append_dropWhile, ← hd,
        List.takeWhile_append_dropWhile]
    · rw [← hd, List.takeWhile_append_dropWhile]
  · rw [List.takeWhile_append_dropWhile]

theorem ofWord?_nil : Value.ofWord? [] = none :=
  rfl

/-- A word begins with a character of words. -/
theorem exists_wordChar_of_isWord (h : IsWord t v) : ∃ c u, t = c :: u ∧ isWordChar c = true := by
  have hne : t ≠ [] := by
    intro ht
    subst ht
    have := ofWord?_eq_some_iff.mpr h
    rw [ofWord?_nil] at this
    cases this
  obtain ⟨c, u, rfl⟩ := List.exists_cons_of_ne_nil hne
  refine ⟨c, u, rfl, ?_⟩
  rcases isWordChar_of_isWord h with ht | ⟨date, e, w, ht, hd, -⟩
  · exact ht c List.mem_cons_self
  · obtain ⟨a, b, c', d, rest, rfl, hall⟩ := exists_of_isDate hd
    obtain ⟨rfl, -⟩ := List.cons.inj ht
    exact isWordChar_of_isDigit (hall c List.mem_cons_self)

end Boundaries

end LookupLog.Toml
