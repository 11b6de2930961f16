import LookupLog.Proofs.Toml.Grammar
import Mathlib.Data.List.Basic

/-!
# Numbers of TOML

* `digits?_eq_some_iff`: digits in groups;
* `integer?_eq_some_iff`, `decimal?_eq_some_iff`, `float?_eq_some_iff`: the readers of numbers take
  exactly the numbers of the grammar.
-/

namespace LookupLog.Toml

open Text TomlGrammar JsonGrammar

/-! ## 1. Digits -/

section Digits

variable {isDigit : Char → Bool} {t digits : Text}

theorem digits?_group (h : '_' ∉ t) :
    digits? isDigit t = if t ≠ [] ∧ t.all isDigit = true then some t else none := by
  have hs : t.splitOn '_' = [t] :=
    List.splitOnP_eq_singleton fun c hc => beq_eq_false_iff_ne.mpr fun he : c = '_' => h (he ▸ hc)
  unfold digits?
  simp only [hs, List.all_cons, List.all_nil, Bool.and_true, Bool.and_eq_true, decide_eq_true_eq,
    List.flatten_cons, List.flatten_nil, List.append_nil]

theorem digits?_append (h : '_' ∉ t) (rest : Text) :
    digits? isDigit (t ++ '_' :: rest) =
      if t ≠ [] ∧ t.all isDigit = true then (digits? isDigit rest).map (t ++ ·) else none := by
  have hs : (t ++ '_' :: rest).splitOn '_' = t :: rest.splitOn '_' :=
    List.splitOnP_append_cons_of_forall_mem
      (fun c hc => beq_eq_false_iff_ne.mpr fun he : c = '_' => h (he ▸ hc)) '_' rfl rest
  unfold digits?
  simp only [hs, List.all_cons, Bool.and_eq_true, decide_eq_true_eq, List.flatten_cons]
  by_cases ht : t ≠ [] ∧ t.all isDigit = true
  · simp only [ht, not_false_eq_true, ne_eq, and_self, true_and, if_true]
    split <;> rfl
  · rw [if_neg ht, if_neg fun hall => ht hall.1]

/-- **Digits in groups are read as the digits alone.** -/
theorem digits?_eq_some_iff (hu : isDigit '_' = false) :
    digits? isDigit t = some digits ↔ IsDigits isDigit t digits := by
  have hmem : ∀ {t : Text}, (∀ c ∈ t, isDigit c = true) → '_' ∉ t := by
    intro t hd hm
    rw [hd _ hm] at hu
    cases hu
  refine ⟨fun h => ?_, fun h => ?_⟩
  · induction hn : t.length using Nat.strong_induction_on generalizing t digits with
    | _ n ih =>
      subst hn
      by_cases hm : '_' ∈ t
      · obtain ⟨a, b, rfl, ha⟩ := List.eq_append_cons_of_mem hm
        rw [digits?_append ha, Option.ite_none_right_eq_some] at h
        obtain ⟨⟨hne, hd⟩, h⟩ := h
        obtain ⟨more, hb, rfl⟩ := Option.map_eq_some_iff.mp h
        have hlt : b.length < (a ++ '_' :: b).length := by
          rw [List.length_append, List.length_cons]
          omega
        exact .more (List.all_eq_true.mp hd) hne (ih _ hlt hb rfl)
      · rw [digits?_group hm, Option.ite_none_right_eq_some] at h
        obtain ⟨⟨hne, hd⟩, h⟩ := h
        cases h
        exact .group (List.all_eq_true.mp hd) hne
  · induction h with
    | group hd hne => rw [digits?_group (hmem hd), if_pos ⟨hne, List.all_eq_true.mpr hd⟩]
    | more hd hne _ ih =>
      rw [digits?_append (hmem hd), if_pos ⟨hne, List.all_eq_true.mpr hd⟩, ih]
      rfl

/-- Besides the digits there are underscores only. -/
theorem mem_of_isDigits (h : IsDigits isDigit t digits) : ∀ c ∈ t, isDigit c = true ∨ c = '_' := by
  induction h with
  | group hd _ => exact fun c hc => Or.inl (hd c hc)
  | more hd _ _ ih =>
    exact List.forall_mem_append.mpr
      ⟨fun c hc => Or.inl (hd c hc), List.forall_mem_cons.mpr ⟨Or.inr rfl, ih⟩⟩

/-- Digits begin with a digit. -/
theorem exists_digit_of_isDigits (h : IsDigits isDigit t digits) :
    ∃ c rest, t = c :: rest ∧ isDigit c = true := by
  have hfirst : ∀ {t : Text}, (∀ c ∈ t, isDigit c = true) → t ≠ [] →
      ∃ c rest, t = c :: rest ∧ isDigit c = true := by
    intro t hd hne
    obtain ⟨c, rest, rfl⟩ := List.exists_cons_of_ne_nil hne
    exact ⟨c, rest, rfl, hd c List.mem_cons_self⟩
  cases h with
  | group hd hne => exact hfirst hd hne
  | more hd hne _ =>
    obtain ⟨c, rest, rfl, hc⟩ := hfirst hd hne
    exact ⟨c, _, rfl, hc⟩

end Digits

section Parts

variable {t digits body rest : Text} {negative : Bool} {n : Int}

theorem wholeDigits?_eq_some_iff : wholeDigits? t = some digits ↔ IsWhole t digits := by
  have hu : Char.isDigit '_' = false := rfl
  unfold wholeDigits? IsWhole
  rw [Option.ite_none_left_eq_some, digits?_eq_some_iff hu, and_comm, not_and_not_right]

/-- Every text has a sign in front, perhaps an empty one. -/
theorem exists_sign (t : Text) : ∃ sign negative body, IsSign sign negative ∧ t = sign ++ body ∧
    splitSign t = (negative, body) := by
  unfold splitSign
  split
  · exact ⟨_, _, _, .minus, rfl, rfl⟩
  · exact ⟨_, _, _, .plus, rfl, rfl⟩
  · exact ⟨_, _, _, .none, rfl, rfl⟩

/-- A sign is split off if no other one follows. -/
theorem splitSign_append {sign : Text} (hs : IsSign sign negative)
    (hb : ∀ c ∈ body.head?, c ≠ '-' ∧ c ≠ '+') : splitSign (sign ++ body) = (negative, body) := by
  cases hs with
  | plus => rfl
  | minus => rfl
  | none =>
    rw [List.nil_append]
    unfold splitSign
    split
    · exact absurd rfl (hb _ rfl).1
    · exact absurd rfl (hb _ rfl).2
    · rfl

theorem ne_sign_of_isDigit {c : Char} (h : c.isDigit = true) : c ≠ '-' ∧ c ≠ '+' := by
  refine ⟨fun hc => ?_, fun hc => ?_⟩
  all_goals
    subst hc
    cases h

/-- Digits begin with no sign. -/
theorem ne_sign_of_isDigits (h : IsDigits Char.isDigit t digits) (rest : Text) :
    ∀ c ∈ (t ++ rest).head?, c ≠ '-' ∧ c ≠ '+' := by
  obtain ⟨c, u, rfl, hc⟩ := exists_digit_of_isDigits h
  intro d hd
  cases hd
  exact ne_sign_of_isDigit hc

/-! ## 2. Whole numbers -/

theorem integerIn?_eq_some_iff {base : Nat} :
    integerIn? base t = some n ↔ ∃ digits, IsDigits (isDigitIn base) t digits ∧
      (ofDigits base digits : Int) = n ∧ n < 0x8000000000000000 := by
  have hu : isDigitIn base '_' = false := rfl
  unfold integerIn?
  refine ⟨fun h => ?_, fun h => ?_⟩
  · split at h
    · cases h
    · rename_i digits hd
      rw [Option.ite_none_right_eq_some, Option.some.injEq] at h
      obtain ⟨hlt, rfl⟩ := h
      exact ⟨digits, (digits?_eq_some_iff hu).mp hd, rfl, by exact_mod_cast hlt⟩
  · obtain ⟨digits, hd, rfl, hlt⟩ := h
    have hlt : ofDigits base digits < 0x8000000000000000 := by exact_mod_cast hlt
    simp only [(digits?_eq_some_iff hu).mpr hd, if_pos hlt]

/-- Without a letter for another base a number is decimal. -/
theorem integer?_decimal (h : ∀ p ∈ bases, ∀ rest, t ≠ '0' :: p.1 :: rest)
    (hs : splitSign t = (negative, body)) :
    integer? t = (wholeDigits? body).bind fun digits =>
      if -0x8000000000000000 ≤ (if negative then -(toNat digits : Int) else toNat digits) ∧
        (if negative then -(toNat digits : Int) else toNat digits) < 0x8000000000000000
      then some (if negative then -(toNat digits : Int) else toNat digits) else none := by
  unfold integer?
  split
  · exact absurd rfl (h ('x', 16) (by decide) _)
  · exact absurd rfl (h ('o', 8) (by decide) _)
  · exact absurd rfl (h ('b', 2) (by decide) _)
  · simp only [hs]
    cases wholeDigits? body <;> rfl

theorem integer?_based {letter : Char} {base : Nat} (h : (letter, base) ∈ bases) (t : Text) :
    integer? ('0' :: letter :: t) = integerIn? base t := by
  have hall : ∀ p ∈ bases, integer? ('0' :: p.1 :: t) = integerIn? p.2 t := by
    simp only [bases, List.forall_mem_cons]
    exact ⟨rfl, rfl, rfl, fun _ hp => absurd hp List.not_mem_nil⟩
  exact hall _ h

/-- Every character of a decimal number. -/
def IsDecimalChar (c : Char) : Prop :=
  c.isDigit = true ∨ c = '_' ∨ c = '-' ∨ c = '+'

theorem isDecimalChar_of_isSign {sign : Text} (h : IsSign sign negative) :
    ∀ c ∈ sign, IsDecimalChar c := by
  cases h with
  | none => nofun
  | plus => exact List.forall_mem_singleton.mpr (Or.inr (Or.inr (Or.inr rfl)))
  | minus => exact List.forall_mem_singleton.mpr (Or.inr (Or.inr (Or.inl rfl)))

theorem isDecimalChar_of_isDigits (h : IsDigits Char.isDigit t digits) :
    ∀ c ∈ t, IsDecimalChar c := by
  intro c hc
  rcases mem_of_isDigits h c hc with hd | hu
  · exact Or.inl hd
  · exact Or.inr (Or.inl hu)

/-- **The whole numbers that are read are those of the grammar**, in the range of 64 bits. -/
theorem integer?_eq_some_iff :
    integer? t = some n ↔
      IsInteger t n ∧ -0x8000000000000000 ≤ n ∧ n < 0x8000000000000000 := by
  refine ⟨fun h => ?_, fun h => ?_⟩
  · by_cases hb : ∃ p ∈ bases, ∃ rest, t = '0' :: p.1 :: rest
    · obtain ⟨⟨letter, base⟩, hb, rest, rfl⟩ := hb
      rw [integer?_based hb] at h
      obtain ⟨digits, hd, rfl, hlt⟩ := integerIn?_eq_some_iff.mp h
      exact ⟨.based hb hd, by omega, hlt⟩
    · obtain ⟨sign, negative, body, hs, rfl, hsplit⟩ := exists_sign t
      rw [integer?_decimal (fun p hp rest ht => hb ⟨p, hp, rest, ht⟩) hsplit] at h
      obtain ⟨digits, hd, h⟩ := Option.bind_eq_some_iff.mp h
      rw [Option.ite_none_right_eq_some, Option.some.injEq] at h
      obtain ⟨hrange, rfl⟩ := h
      exact ⟨.decimal hs (wholeDigits?_eq_some_iff.mp hd), hrange⟩
  · obtain ⟨hi, hrange⟩ := h
    cases hi with
    | @decimal sign t digits negative hs hw =>
      have hchar : ∀ c ∈ sign ++ t, IsDecimalChar c := List.forall_mem_append.mpr
        ⟨isDecimalChar_of_isSign hs, isDecimalChar_of_isDigits hw.1⟩
      have hbase : ∀ p ∈ bases, ∀ rest, sign ++ t ≠ '0' :: p.1 :: rest := by
        intro p hp rest he
        have hc := hchar p.1 (by rw [he]; exact List.mem_cons_of_mem _ List.mem_cons_self)
        have hall : ∀ p ∈ bases, ¬(p.1.isDigit = true ∨ p.1 = '_' ∨ p.1 = '-' ∨ p.1 = '+') := by
          decide
        exact hall p hp hc
      have hsplit : splitSign (sign ++ t) = (negative, t) := by
        have hb := ne_sign_of_isDigits hw.1 []
        rw [List.append_nil] at hb
        exact splitSign_append hs hb
      rw [integer?_decimal hbase hsplit, wholeDigits?_eq_some_iff.mpr hw, Option.bind_some,
        if_pos hrange]
    | based hb hd =>
      rw [integer?_based hb]
      exact integerIn?_eq_some_iff.mpr ⟨_, hd, rfl, hrange.2⟩

end Parts

/-! ## 3. Floats -/

section Cuts

variable {isMark : Char → Bool} {mark : Char} {t rest : Text}

theorem cutAt_append (ht : ∀ c ∈ t, isMark c = false) (hm : isMark mark = true) (rest : Text) :
    cutAt isMark (t ++ mark :: rest) = (t, some rest) := by
  have hp : ∀ c ∈ t, (!isMark c) = true := fun c hc => by rw [ht c hc]; rfl
  unfold cutAt
  rw [List.takeWhile_append_of_pos hp, List.dropWhile_append_of_pos hp]
  simp [hm]

theorem cutAt_of_not_mark (ht : ∀ c ∈ t, isMark c = false) : cutAt isMark t = (t, none) := by
  have hp : ∀ c ∈ t, (!isMark c) = true := fun c hc => by rw [ht c hc]; rfl
  have htake : t.takeWhile (fun c => !isMark c) = t := List.takeWhile_eq_self_iff.mpr hp
  have hdrop : t.dropWhile (fun c => !isMark c) = [] := List.dropWhile_eq_nil_iff.mpr hp
  unfold cutAt
  rw [htake, hdrop]
  rfl

/-- A text has a first mark, or none. -/
theorem cutAt_cases (isMark : Char → Bool) (t : Text) :
    cutAt isMark t = (t, none) ∨ ∃ before mark rest, isMark mark = true ∧
      t = before ++ mark :: rest ∧ cutAt isMark t = (before, some rest) := by
  induction t with
  | nil => exact Or.inl rfl
  | cons c t ih =>
    cases hc : isMark c with
    | true => exact Or.inr ⟨[], c, t, hc, rfl, cutAt_append (t := []) (fun _ h => nomatch h) hc t⟩
    | false =>
      have hcons : cutAt isMark (c :: t) = (c :: (cutAt isMark t).1, (cutAt isMark t).2) := by
        simp [cutAt, hc]
      rcases ih with h | ⟨before, mark, rest, hm, rfl, h⟩
      · exact Or.inl (by rw [hcons, h])
      · exact Or.inr ⟨c :: before, mark, rest, hm, rfl, by rw [hcons, h]⟩

end Cuts

section Floats

variable {t whole digits point places power : Text} {n : Int} {d : Decimal} {x : Binary64}

/-- The mark of an exponent. -/
def isPowerMark (c : Char) : Bool :=
  c = 'e' || c = 'E'

theorem exponent?_eq_some_iff {mark : Char} (hm : mark = 'e' ∨ mark = 'E') :
    exponent? t = some n ↔ IsPower (mark :: t) n := by
  have hu : Char.isDigit '_' = false := rfl
  refine ⟨fun h => ?_, fun h => ?_⟩
  · obtain ⟨sign, negative, body, hs, rfl, hsplit⟩ := exists_sign t
    unfold exponent? at h
    simp only [hsplit] at h
    obtain ⟨digits, hd, rfl⟩ := Option.map_eq_some_iff.mp h
    exact .some hm hs ((digits?_eq_some_iff hu).mp hd)
  · cases h with
    | @some _ sign t digits negative _ hs hd =>
      have hb := ne_sign_of_isDigits hd []
      rw [List.append_nil] at hb
      unfold exponent?
      rw [splitSign_append hs hb]
      simp only [(digits?_eq_some_iff hu).mpr hd, Option.map_some]

/-- What is read as a decimal, after its parts have been cut off. -/
theorem decimal?_eq {negative : Bool} {body mantissa whole : Text} {exponent fraction : Option Text}
    (hs : splitSign t = (negative, body)) (hm : cutAt isPowerMark body = (mantissa, exponent))
    (hw : cutAt (· = '.') mantissa = (whole, fraction)) :
    decimal? t = (wholeDigits? whole).bind fun digits =>
      (fraction.elim (if exponent.isSome then some [] else none) (digits? Char.isDigit)).bind
        fun places => (exponent.elim (some 0) exponent?).bind fun scale =>
          some ⟨negative, toNat (digits ++ places), scale - places.length⟩ := by
  have hm : cutAt (fun c => c = 'e' || c = 'E') body = (mantissa, exponent) := hm
  unfold decimal?
  simp only [hs, hm, hw]
  cases fraction <;> cases exponent <;> rfl

theorem not_powerMark_of_isDigits (h : IsDigits Char.isDigit t digits) :
    ∀ c ∈ t, isPowerMark c = false ∧ c ≠ '.' := by
  intro c hc
  rcases mem_of_isDigits h c hc with hd | rfl
  · refine ⟨?_, fun he => ?_⟩
    · by_contra hm
      rw [Bool.not_eq_false] at hm
      rcases (Bool.or_eq_true _ _).mp hm with he | he
      all_goals
        rw [of_decide_eq_true he] at hd
        cases hd
    · rw [he] at hd
      cases hd
  · decide

theorem not_powerMark_of_isPoint (h : IsPoint point places) :
    ∀ c ∈ point, isPowerMark c = false := by
  cases h with
  | none => nofun
  | some hd =>
    exact List.forall_mem_cons.mpr ⟨rfl, fun c hc => (not_powerMark_of_isDigits hd c hc).1⟩

theorem not_point_of_isDigits (h : IsDigits Char.isDigit t digits) :
    ∀ c ∈ t, decide (c = '.') = false := fun c hc =>
  decide_eq_false (not_powerMark_of_isDigits h c hc).2

/-- A point is cut off with the digits behind it. -/
theorem exists_point (mantissa : Text) :
    ∃ whole fraction point, cutAt (· = '.') mantissa = (whole, fraction) ∧
      mantissa = whole ++ point ∧
      ∀ powered places, fraction.elim (if powered then some [] else none) (digits? Char.isDigit) =
        some places → IsPoint point places ∧ (point ≠ [] ∨ powered = true) := by
  have hu : Char.isDigit '_' = false := rfl
  rcases cutAt_cases (· = '.') mantissa with h | ⟨whole, mark, rest, hm, rfl, h⟩
  · refine ⟨mantissa, none, [], h, (List.append_nil _).symm, fun powered places hp => ?_⟩
    cases powered with
    | false => cases hp
    | true =>
      cases hp
      exact ⟨.none, Or.inr rfl⟩
  · refine ⟨whole, some rest, mark :: rest, h, rfl, fun powered places hp => ?_⟩
    obtain rfl := of_decide_eq_true hm
    exact ⟨.some ((digits?_eq_some_iff hu).mp hp), Or.inl (List.cons_ne_nil _ _)⟩

theorem cutAt_point {whole : Text} (hw : IsDigits Char.isDigit whole digits)
    (hp : IsPoint point places) :
    ∃ fraction, cutAt (· = '.') (whole ++ point) = (whole, fraction) ∧
      ∀ powered, point ≠ [] ∨ powered = true →
        fraction.elim (if powered then some [] else none) (digits? Char.isDigit) = some places := by
  have hu : Char.isDigit '_' = false := rfl
  cases hp with
  | none =>
    refine ⟨none, ?_, fun powered h => ?_⟩
    · rw [List.append_nil]
      exact cutAt_of_not_mark (not_point_of_isDigits hw)
    · rcases h with h | h
      · exact absurd rfl h
      · exact if_pos h
  | some hd =>
    exact ⟨_, cutAt_append (not_point_of_isDigits hw) rfl _,
      fun powered _ => (digits?_eq_some_iff hu).mpr hd⟩

/-- An exponent is cut off with its mark. -/
theorem exists_power (body : Text) :
    ∃ mantissa exponent power, cutAt isPowerMark body = (mantissa, exponent) ∧
      body = mantissa ++ power ∧ (exponent.isSome = true → power ≠ []) ∧
      ∀ scale, exponent.elim (some 0) exponent? = some scale → IsPower power scale := by
  rcases cutAt_cases isPowerMark body with h | ⟨mantissa, mark, rest, hm, rfl, h⟩
  · refine ⟨body, none, [], h, (List.append_nil _).symm, fun hs => (nomatch hs), fun scale hp => ?_⟩
    cases hp
    exact .none
  · have hmark : mark = 'e' ∨ mark = 'E' := by
      rcases (Bool.or_eq_true _ _).mp hm with he | he
      · exact Or.inl (of_decide_eq_true he)
      · exact Or.inr (of_decide_eq_true he)
    exact ⟨mantissa, some rest, mark :: rest, h, rfl, fun _ => List.cons_ne_nil _ _,
      fun scale hp => (exponent?_eq_some_iff hmark).mp hp⟩

theorem cutAt_power {mantissa : Text} (hm : ∀ c ∈ mantissa, isPowerMark c = false)
    (hp : IsPower power n) :
    ∃ exponent, cutAt isPowerMark (mantissa ++ power) = (mantissa, exponent) ∧
      (power ≠ [] → exponent.isSome = true) ∧ exponent.elim (some 0) exponent? = some n := by
  cases hp with
  | none =>
    refine ⟨none, ?_, fun h => absurd rfl h, rfl⟩
    rw [List.append_nil]
    exact cutAt_of_not_mark hm
  | some hmark hs hd =>
    refine ⟨_, cutAt_append hm ?_ _, fun _ => rfl,
      (exponent?_eq_some_iff hmark).mpr (.some hmark hs hd)⟩
    rcases hmark with rfl | rfl
    · rfl
    · rfl

/-- **The decimals that are read are those of the grammar.** -/
theorem decimal?_eq_some_iff : decimal? t = some d ↔ IsDecimal t d := by
  refine ⟨fun h => ?_, fun h => ?_⟩
  · obtain ⟨sign, negative, body, hs, rfl, hsplit⟩ := exists_sign t
    obtain ⟨mantissa, exponent, power, hm, rfl, hsome, hpower⟩ := exists_power body
    obtain ⟨whole, fraction, point, hw, rfl, hpoint⟩ := exists_point mantissa
    rw [decimal?_eq hsplit hm hw] at h
    obtain ⟨digits, hd, h⟩ := Option.bind_eq_some_iff.mp h
    obtain ⟨places, hp, h⟩ := Option.bind_eq_some_iff.mp h
    obtain ⟨scale, he, h⟩ := Option.bind_eq_some_iff.mp h
    cases h
    obtain ⟨hp, hne⟩ := hpoint _ _ hp
    rw [List.append_assoc]
    exact .mk hs (wholeDigits?_eq_some_iff.mp hd) hp (hpower _ he) (hne.imp_right hsome)
  · cases h with
    | @mk sign whole digits point places power negative exponent hs hw hp he hne =>
      have hsplit := splitSign_append hs (ne_sign_of_isDigits hw.1 (point ++ power))
      have hmantissa : ∀ c ∈ whole ++ point, isPowerMark c = false := List.forall_mem_append.mpr
        ⟨fun c hc => (not_powerMark_of_isDigits hw.1 c hc).1, not_powerMark_of_isPoint hp⟩
      obtain ⟨e, hm, hsome, hscale⟩ := cutAt_power hmantissa he
      obtain ⟨f, hf, hplaces⟩ := cutAt_point hw.1 hp
      rw [List.append_assoc] at hm
      rw [decimal?_eq hsplit hm hf, wholeDigits?_eq_some_iff.mpr hw, Option.bind_some,
        hplaces _ (hne.imp_right hsome), Option.bind_some, hscale]
      rfl

/-- A decimal begins with a digit behind its sign. -/
theorem exists_digit_of_isDecimal (h : IsDecimal t d) :
    ∃ sign negative c rest, IsSign sign negative ∧ c.isDigit = true ∧ t = sign ++ c :: rest ∧
      splitSign t = (negative, c :: rest) := by
  cases h with
  | mk hs hw hp he hne =>
    obtain ⟨c, rest, rfl, hc⟩ := exists_digit_of_isDigits hw.1
    exact ⟨_, _, c, _, hs, hc, rfl, splitSign_append hs (ne_sign_of_isDigits hw.1 _)⟩

theorem isFloat_of_float? (h : float? t = some x) : IsFloat t x := by
  obtain ⟨sign, negative, body, hs, ht, hsplit⟩ := exists_sign t
  unfold float? at h
  simp only [hsplit] at h
  split at h
  · rename_i hb
    cases h
    rw [ht, hb]
    exact .infinity hs
  · split at h
    · rename_i hb
      cases h
      rw [ht, hb]
      exact .nan hs
    · split at h
      · cases h
      · rename_i d hd
        rw [Option.ite_none_left_eq_some, Option.some.injEq] at h
        obtain ⟨hne, rfl⟩ := h
        exact .decimal (decimal?_eq_some_iff.mp hd) hne

theorem float?_of_isFloat (h : IsFloat t x) : float? t = some x := by
  unfold float?
  cases h with
  | infinity hs =>
    have hb : ∀ c ∈ ['i', 'n', 'f'].head?, c ≠ '-' ∧ c ≠ '+' := by
      intro c hc
      cases hc
      decide
    simp only [splitSign_append hs hb, if_true]
  | nan hs =>
    have hb : ∀ c ∈ ['n', 'a', 'n'].head?, c ≠ '-' ∧ c ≠ '+' := by
      intro c hc
      cases hc
      decide
    have hne : ¬['n', 'a', 'n'] = ['i', 'n', 'f'] := by decide
    simp only [splitSign_append hs hb, if_neg hne, if_true]
  | decimal hd hne =>
    obtain ⟨sign, negative, c, rest, -, hc, -, hsplit⟩ := exists_digit_of_isDecimal hd
    have hword : ∀ {e : Char} (word : Text), e.isDigit = false → ¬c :: rest = e :: word := by
      intro e word he h
      obtain ⟨rfl, -⟩ := List.cons.inj h
      rw [hc] at he
      cases he
    have hinf : ¬c :: rest = ['i', 'n', 'f'] := hword _ rfl
    have hnan : ¬c :: rest = ['n', 'a', 'n'] := hword _ rfl
    simp only [hsplit, if_neg hinf, if_neg hnan, decimal?_eq_some_iff.mpr hd, if_neg hne]

/-- **The floats that are read are those of the grammar.** -/
theorem float?_eq_some_iff : float? t = some x ↔ IsFloat t x :=
  ⟨isFloat_of_float?, float?_of_isFloat⟩

end Floats

end LookupLog.Toml
