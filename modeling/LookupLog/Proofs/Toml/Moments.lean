import LookupLog.Proofs.Toml.Grammar
import Mathlib.Data.List.Basic

/-!
# Dates and times of TOML

* `date?_eq_some_iff`, `hourMinute?_eq_some_iff`: what is read first is what the grammar has first;
* `isMoment_iff`: the moments that are read are those of the grammar.
-/

namespace LookupLog.Toml

open Text TomlGrammar

/-! ## 1. Parts -/

section Parts

variable {count n : Nat} {t rest : Text} {mark : Char}

theorem fixedDigits?_eq_some_iff :
    fixedDigits? count t = some (n, rest) ↔ ∃ d, t = d ++ rest ∧ IsNumeral count d n := by
  unfold fixedDigits?
  refine ⟨fun h => ?_, fun h => ?_⟩
  · rw [Option.ite_none_right_eq_some, Option.some.injEq, Prod.mk.injEq] at h
    obtain ⟨⟨hl, hd⟩, hn, hr⟩ := h
    refine ⟨t.take count, ?_, ⟨List.all_eq_true.mp hd, hl⟩, hn⟩
    rw [← hr, List.take_append_drop]
  · obtain ⟨d, rfl, ⟨hd, rfl⟩, rfl⟩ := h
    rw [List.take_left, List.drop_left, if_pos ⟨rfl, List.all_eq_true.mpr hd⟩]

theorem after?_mark_eq_some_iff : after? [mark] t = some rest ↔ t = mark :: rest :=
  after?_eq_some_iff

/-- **A date is read first** exactly if one stands first. -/
theorem date?_eq_some_iff : date? t = some rest ↔ ∃ d, t = d ++ rest ∧ IsDate d := by
  unfold date?
  refine ⟨fun h => ?_, fun h => ?_⟩
  · obtain ⟨⟨year, t₁⟩, hy, h⟩ := Option.bind_eq_some_iff.mp h
    obtain ⟨t₂, hm₁, h⟩ := Option.bind_eq_some_iff.mp h
    obtain ⟨⟨month, t₃⟩, hm, h⟩ := Option.bind_eq_some_iff.mp h
    obtain ⟨t₄, hm₂, h⟩ := Option.bind_eq_some_iff.mp h
    obtain ⟨⟨day, t₅⟩, hd, h⟩ := Option.bind_eq_some_iff.mp h
    rw [Option.ite_none_right_eq_some, Option.some.injEq] at h
    obtain ⟨⟨hmonth, hmonth', hday⟩, rfl⟩ := h
    obtain ⟨y, rfl, hyear⟩ := fixedDigits?_eq_some_iff.mp hy
    obtain rfl := after?_mark_eq_some_iff.mp hm₁
    obtain ⟨m, rfl, hnumber⟩ := fixedDigits?_eq_some_iff.mp hm
    obtain rfl := after?_mark_eq_some_iff.mp hm₂
    obtain ⟨d, rfl, hlast⟩ := fixedDigits?_eq_some_iff.mp hd
    refine ⟨_, ?_, .mk hyear hnumber hlast ⟨hmonth, hmonth'⟩ hday⟩
    simp only [List.append_assoc, List.cons_append]
  · obtain ⟨d, rfl, hd⟩ := h
    cases hd with
    | @mk y m d year month day hy hm hd hmonth hday =>
      rw [List.append_assoc, List.cons_append, List.append_assoc, List.cons_append,
        fixedDigits?_eq_some_iff.mpr ⟨y, rfl, hy⟩]
      show (fixedDigits? 2 (m ++ '-' :: (d ++ rest))).bind _ = _
      rw [fixedDigits?_eq_some_iff.mpr ⟨m, rfl, hm⟩]
      show (fixedDigits? 2 (d ++ rest)).bind _ = _
      rw [fixedDigits?_eq_some_iff.mpr ⟨d, rfl, hd⟩]
      exact if_pos ⟨hmonth.1, hmonth.2, hday⟩

theorem hourMinute?_eq_some_iff : hourMinute? t = some rest ↔
    ∃ d, t = d ++ rest ∧ IsHourMinute d := by
  unfold hourMinute?
  refine ⟨fun h => ?_, fun h => ?_⟩
  · obtain ⟨⟨hour, t₁⟩, hh, h⟩ := Option.bind_eq_some_iff.mp h
    obtain ⟨t₂, hmark, h⟩ := Option.bind_eq_some_iff.mp h
    obtain ⟨⟨minute, t₃⟩, hm, h⟩ := Option.bind_eq_some_iff.mp h
    rw [Option.ite_none_right_eq_some, Option.some.injEq] at h
    obtain ⟨⟨hhour, hminute⟩, rfl⟩ := h
    obtain ⟨d, rfl, hfirst⟩ := fixedDigits?_eq_some_iff.mp hh
    obtain rfl := after?_mark_eq_some_iff.mp hmark
    obtain ⟨m, rfl, hlast⟩ := fixedDigits?_eq_some_iff.mp hm
    refine ⟨_, ?_, .mk hfirst hlast hhour hminute⟩
    simp only [List.append_assoc, List.cons_append]
  · obtain ⟨d, rfl, hd⟩ := h
    cases hd with
    | @mk h m hour minute hh hm hhour hminute =>
      rw [List.append_assoc, List.cons_append, fixedDigits?_eq_some_iff.mpr ⟨h, rfl, hh⟩]
      show (fixedDigits? 2 (m ++ rest)).bind _ = _
      rw [fixedDigits?_eq_some_iff.mpr ⟨m, rfl, hm⟩]
      exact if_pos ⟨hhour, hminute⟩

/-! ## 2. Times -/

/-- Does not go on with a time that ends in front of it. -/
def EndsTime (rest : Text) : Prop :=
  ∀ c ∈ rest.head?, c ≠ '.' ∧ c.isDigit = false

theorem exists_of_secondFraction? (h : secondFraction? t = some rest) :
    ∃ f, t = f ++ rest ∧ IsSecondFraction f := by
  unfold secondFraction? at h
  split at h
  · rename_i u
    split at h
    · cases h
    · rename_i hne
      cases h
      refine ⟨'.' :: u.takeWhile Char.isDigit, ?_,
        .some (fun c hc => List.mem_takeWhile_imp hc) hne⟩
      rw [List.cons_append, List.takeWhile_append_dropWhile]
  · cases h
    exact ⟨[], rfl, .none⟩

theorem secondFraction?_append (h : IsSecondFraction t) (hr : EndsTime rest) :
    secondFraction? (t ++ rest) = some rest := by
  cases h with
  | none =>
    unfold secondFraction?
    split
    · rename_i u hu
      rw [List.nil_append] at hu
      subst hu
      exact absurd rfl (hr '.' rfl).1
    · rfl
  | some hd hne =>
    obtain ⟨htake, hdrop⟩ := span_digits hd fun c hc => (hr c hc).2
    rw [List.cons_append, secondFraction?, htake, hdrop, if_neg hne]

theorem exists_of_time? (h : time? t = some rest) : ∃ d, t = d ++ rest ∧ IsTime d := by
  unfold time? at h
  obtain ⟨t₁, hh, h⟩ := Option.bind_eq_some_iff.mp h
  obtain ⟨t₂, hmark, h⟩ := Option.bind_eq_some_iff.mp h
  obtain ⟨⟨second, t₃⟩, hs, h⟩ := Option.bind_eq_some_iff.mp h
  rw [Option.ite_none_right_eq_some] at h
  obtain ⟨hsecond, h⟩ := h
  obtain ⟨f, rfl, hf⟩ := exists_of_secondFraction? h
  obtain ⟨d, rfl, hfirst⟩ := hourMinute?_eq_some_iff.mp hh
  obtain rfl := after?_mark_eq_some_iff.mp hmark
  obtain ⟨s, rfl, hlast⟩ := fixedDigits?_eq_some_iff.mp hs
  refine ⟨_, ?_, .mk hfirst hlast hsecond hf⟩
  simp only [List.append_assoc, List.cons_append]

theorem time?_append (h : IsTime t) (hr : EndsTime rest) : time? (t ++ rest) = some rest := by
  cases h with
  | @mk t s fraction second ht hs hsecond hf =>
    unfold time?
    rw [List.append_assoc, List.cons_append, List.append_assoc,
      hourMinute?_eq_some_iff.mpr ⟨t, rfl, ht⟩]
    show (fixedDigits? 2 (s ++ (fraction ++ rest))).bind _ = _
    rw [fixedDigits?_eq_some_iff.mpr ⟨s, rfl, hs⟩]
    show (if second ≤ 60 then secondFraction? (fraction ++ rest) else none) = some rest
    rw [if_pos hsecond, secondFraction?_append hf hr]

theorem isOffset_iff : isOffset t = true ↔ IsOffset t := by
  have hhour : ∀ {u : Text}, decide (hourMinute? u = some []) = true ↔ IsHourMinute u := by
    intro u
    rw [decide_eq_true_eq, hourMinute?_eq_some_iff]
    refine ⟨fun h => ?_, fun h => ⟨u, (List.append_nil u).symm, h⟩⟩
    obtain ⟨d, rfl, hd⟩ := h
    rw [List.append_nil]
    exact hd
  refine ⟨fun h => ?_, fun h => ?_⟩
  · unfold isOffset at h
    split at h
    · exact .none
    · exact .zulu (Or.inl rfl)
    · exact .zulu (Or.inr rfl)
    · exact .some (Or.inl rfl) (hhour.mp h)
    · exact .some (Or.inr rfl) (hhour.mp h)
    · cases h
  · cases h with
    | none => rfl
    | zulu hc =>
      rcases hc with rfl | rfl
      · rfl
      · rfl
    | some hc ht =>
      rcases hc with rfl | rfl
      · exact hhour.mpr ht
      · exact hhour.mpr ht

theorem endsTime_of_isOffset (h : IsOffset t) : EndsTime t := by
  have hends : ∀ {c : Char} {u : Text}, c ≠ '.' ∧ c.isDigit = false → EndsTime (c :: u) := by
    intro c u hc d hd
    cases hd
    exact hc
  cases h with
  | none => nofun
  | zulu hc =>
    rcases hc with rfl | rfl
    · exact hends (by decide)
    · exact hends (by decide)
  | some hc ht =>
    rcases hc with rfl | rfl
    · exact hends (by decide)
    · exact hends (by decide)

/-! ## 3. Moments -/

theorem isDate_iff : isDate t = true ↔ IsDate t := by
  unfold isDate
  rw [decide_eq_true_eq, date?_eq_some_iff]
  refine ⟨fun h => ?_, fun h => ⟨t, (List.append_nil t).symm, h⟩⟩
  obtain ⟨d, rfl, hd⟩ := h
  rw [List.append_nil]
  exact hd

/-- A time begins with two digits and a colon. -/
theorem exists_of_isHourMinute (h : IsHourMinute t) :
    ∃ a b rest, t = a :: b :: ':' :: rest ∧ a.isDigit = true ∧ b.isDigit = true := by
  cases h with
  | @mk h m hour minute hh hm hhour hminute =>
    obtain ⟨⟨hd, hl⟩, -⟩ := hh
    obtain ⟨a, b, rfl⟩ := List.length_eq_two.mp hl
    obtain ⟨ha, hb⟩ := List.forall_mem_cons.mp hd
    exact ⟨a, b, m, rfl, ha, hb b List.mem_cons_self⟩

theorem exists_of_isTime (h : IsTime t) :
    ∃ a b rest, t = a :: b :: ':' :: rest ∧ a.isDigit = true ∧ b.isDigit = true := by
  cases h with
  | mk ht =>
    obtain ⟨a, b, rest, rfl, hab⟩ := exists_of_isHourMinute ht
    exact ⟨a, b, _, rfl, hab⟩

/-- A date begins with four digits and a hyphen. -/
theorem exists_of_isDate (h : IsDate t) :
    ∃ a b c d rest, t = a :: b :: c :: d :: '-' :: rest ∧ AllDigits [a, b, c, d] := by
  cases h with
  | @mk y m d year month day hy hm hd hmonth hday =>
    obtain ⟨⟨hall, hl⟩, -⟩ := hy
    obtain ⟨a, y, rfl⟩ := List.exists_of_length_succ y hl
    obtain ⟨b, c, e, rfl⟩ := List.length_eq_three.mp (Nat.succ.inj hl)
    exact ⟨a, b, c, e, _, rfl, hall⟩

/-- A time is no date. -/
theorem date?_of_isTime (h : IsTime t) : date? t = none := by
  obtain ⟨a, b, u, rfl, -⟩ := exists_of_isTime h
  cases hd : date? (a :: b :: ':' :: u) with
  | none => rfl
  | some rest =>
    obtain ⟨d, he, hd⟩ := date?_eq_some_iff.mp hd
    obtain ⟨a', b', c', d', v, rfl, hall⟩ := exists_of_isDate hd
    cases he
    have hc := hall ':' (by simp)
    cases hc

/-- **The moments that are read are those of the grammar.** -/
theorem isMoment_iff : Toml.isMoment t = true ↔ IsMoment t := by
  refine ⟨fun h => ?_, fun h => ?_⟩
  · unfold Toml.isMoment at h
    split at h
    · rename_i hd
      exact .date (isDate_iff.mp (decide_eq_true hd))
    · rename_i mark rest hd
      obtain ⟨date, rfl, hdate⟩ := date?_eq_some_iff.mp hd
      simp only [Bool.and_eq_true, Bool.or_eq_true, decide_eq_true_eq, Option.any_eq_true] at h
      obtain ⟨hmark, offset, ht, ho⟩ := h
      obtain ⟨time, rfl, htime⟩ := exists_of_time? ht
      exact .both hdate (or_assoc.mp hmark) htime (isOffset_iff.mp ho)
    · rename_i hd
      obtain ⟨time, rfl, ht⟩ := exists_of_time? (of_decide_eq_true h)
      rw [List.append_nil]
      exact .time ht
  · unfold Toml.isMoment
    cases h with
    | date hd =>
      have hd := of_decide_eq_true (isDate_iff.mpr hd)
      simp only [hd]
    | time ht =>
      have hend : EndsTime [] := nofun
      have htime := time?_append ht hend
      rw [List.append_nil] at htime
      simp only [date?_of_isTime ht, htime, decide_true]
    | @both date time offset mark hd hm ht ho =>
      have hd : date? (date ++ mark :: (time ++ offset)) = some (mark :: (time ++ offset)) :=
        date?_eq_some_iff.mpr ⟨date, rfl, hd⟩
      simp only [hd, time?_append ht (endsTime_of_isOffset ho), Option.any_some,
        isOffset_iff.mpr ho, Bool.and_true, Bool.or_eq_true, decide_eq_true_eq]
      exact or_assoc.mpr hm

end Parts

end LookupLog.Toml
