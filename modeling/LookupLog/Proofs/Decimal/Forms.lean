import LookupLog.Proofs.Text.Numerals
import Mathlib.Data.List.Basic

/-!
# The two forms of written digits

Digits are written in full, on both sides of a point, or with an exponent. Neither form has a zero
that could be left out, as long as the digits themselves do not end in one: before and behind them
there are only the zeros that the place of the point asks for (`writeInFull_form`), and before an
exponent only those that its width asks for (`writeScientific_form`).
-/

namespace LookupLog

open Text

/-! ## 1. Parts -/

/-- Digits in front of a point: none of them is a zero in front of another digit. -/
structure IsWholePart (t : Text) : Prop where
  digits : AllDigits t
  ne_nil : t ≠ []
  leading : t.head? = some '0' → t = ['0']

/-- Digits behind a point: none of them is a zero behind another digit. -/
structure IsPlaces (t : Text) : Prop where
  digits : AllDigits t
  ne_nil : t ≠ []
  trailing : t.getLast? = some '0' → t = ['0']

/-- The digits in front of an exponent: the first one is not zero, nor is the last of the others. -/
structure IsSignificand (first : Char) (rest : Text) : Prop where
  isDigit : first.isDigit = true
  leading : first ≠ '0'
  digits : AllDigits rest
  trailing : rest.getLast? ≠ some '0'

/-- The digits of an exponent: its absolute value with at least so many digits, and with zeros in
    front only up to this width. -/
structure IsExponent (width : Nat) (exponent : Int) (t : Text) : Prop where
  digits : AllDigits t
  width_le : width ≤ t.length
  leading : t.head? = some '0' → t.length = width
  toNat_eq : toNat t = exponent.natAbs

theorem isWholePart_of_head {t : Text} (hd : AllDigits t) (hne : t ≠ [])
    (h : t.head? ≠ some '0') : IsWholePart t :=
  ⟨hd, hne, fun h0 => absurd h0 h⟩

theorem isPlaces_of_last {t : Text} (hd : AllDigits t) (hne : t ≠ [])
    (h : t.getLast? ≠ some '0') : IsPlaces t :=
  ⟨hd, hne, fun h0 => absurd h0 h⟩

theorem isWholePart_zero : IsWholePart ['0'] :=
  ⟨allDigits_zeros 1, by decide, fun _ => rfl⟩

theorem isPlaces_zero : IsPlaces ['0'] :=
  ⟨allDigits_zeros 1, by decide, fun _ => rfl⟩

/-! ## 2. Written digits -/

/-- A scaled numeral in front of a point. -/
theorem isWholePart_scaled {c n : Nat} (h0 : c = 0 → n = 0) : IsWholePart (ofNat c ++ zeros n) := by
  by_cases hc : c = 0
  · obtain rfl := h0 hc
    subst hc
    exact isWholePart_zero
  · have hne := ofNat_ne_nil c
    refine isWholePart_of_head ((allDigits_ofNat c).append (allDigits_zeros n)) (by simp [hne]) ?_
    rw [List.head?_append_of_ne_nil _ hne]
    exact head?_ofNat_ne hc

/-- A numeral with a point in it, or with zeros between the point and itself. -/
theorem writeInFull_negSucc {c : Nat} (h10 : c % 10 ≠ 0) (n : Nat) :
    ∃ whole places, IsWholePart whole ∧ IsPlaces places ∧
      writeInFull (ofNat c) (.negSucc n) = whole ++ '.' :: places ∧ places.getLast? ≠ some '0' := by
  have hd := allDigits_ofNat c
  have hne := ofNat_ne_nil c
  have hhead : (ofNat c).head? ≠ some '0' := by
    refine head?_ofNat_ne ?_
    rintro rfl
    exact h10 rfl
  have hlast := getLast?_ofNat_ne h10
  simp only [writeInFull]
  split
  · -- all digits are behind the point
    have hl : (zeros (n + 1 - (ofNat c).length) ++ ofNat c).getLast? ≠ some '0' := by
      rwa [List.getLast?_append_of_ne_nil _ hne]
    have hp := isPlaces_of_last ((allDigits_zeros _).append hd) (by simp [hne]) hl
    exact ⟨['0'], _, isWholePart_zero, hp, rfl, hl⟩
  · rename_i hw
    have hl : ((ofNat c).drop ((ofNat c).length - (n + 1))).getLast? ≠ some '0' := by
      rw [List.getLast?_drop, if_neg (by omega)]
      exact hlast
    refine ⟨_, _, isWholePart_of_head (fun x hx => hd x (List.mem_of_mem_take hx)) ?_ ?_,
      isPlaces_of_last (fun x hx => hd x (List.mem_of_mem_drop hx)) ?_ hl, rfl, hl⟩
    · rw [← List.length_pos_iff, List.length_take]
      omega
    · rwa [List.head?_take, if_neg hw]
    · rw [← List.length_pos_iff, List.length_drop]
      omega

/-- **Digits that are written in full** have no superfluous zero on either side, unless the zero
    itself is scaled or digits that end in a zero have places. -/
theorem writeInFull_form {c : Nat} {e : Int} (h0 : c = 0 → e = 0) (h10 : e < 0 → c % 10 ≠ 0) :
    ∃ whole places, IsWholePart whole ∧ IsPlaces places ∧
      writeInFull (ofNat c) e = whole ++ '.' :: places ∧ (places = ['0'] ↔ 0 ≤ e) := by
  cases e with
  | ofNat n =>
    have hw := isWholePart_scaled (n := n) fun hc => Int.ofNat.inj (h0 hc)
    exact ⟨_, ['0'], hw, isPlaces_zero, rfl, iff_of_true rfl (Int.natCast_nonneg n)⟩
  | negSucc n =>
    have hneg := Int.negSucc_lt_zero n
    obtain ⟨whole, places, hw, hp, he, hl⟩ := writeInFull_negSucc (h10 hneg) n
    refine ⟨whole, places, hw, hp, he, iff_of_false ?_ (Int.not_le.mpr hneg)⟩
    rintro rfl
    exact hl rfl

/-- An exponent is padded to its width, and no further. -/
theorem isExponent_write {width : Nat} (hw : 0 < width) (e : Int) :
    IsExponent width e (zeros (width - (ofNat e.natAbs).length) ++ ofNat e.natAbs) := by
  have hlen : (zeros (width - (ofNat e.natAbs).length) ++ ofNat e.natAbs).length =
      width - (ofNat e.natAbs).length + (ofNat e.natAbs).length := by
    rw [List.length_append, length_zeros]
  refine ⟨(allDigits_zeros _).append (allDigits_ofNat _), by omega, fun h => ?_, ?_⟩
  · rw [hlen]
    rcases Nat.lt_or_ge (ofNat e.natAbs).length width with hlt | hge
    · omega
    · -- nothing is padded, so the numeral itself begins with a zero
      rw [Nat.sub_eq_zero_of_le hge] at h ⊢
      have he : e.natAbs = 0 := by
        by_contra he
        exact head?_ofNat_ne he h
      rw [he] at hge ⊢
      exact Nat.le_antisymm hw hge
  · rw [toNat_zeros_append, toNat_ofNat]

/-- A number with an exponent: a point stands behind the first digit if others follow. -/
def scientific (first : Char) (rest : Text) (exponent : Int) (digits : Text) : Text :=
  first :: (if rest = [] then [] else '.' :: rest) ++
    'e' :: (if exponent < 0 then '-' else '+') :: digits

/-- **Digits that are written with an exponent** have no superfluous zero, unless they end in one.
    -/
theorem writeScientific_form {c : Nat} (h10 : c % 10 ≠ 0) {width : Nat} (hw : 0 < width) (e : Int) :
    ∃ first rest digits, IsSignificand first rest ∧ IsExponent width e digits ∧
      writeScientific width (ofNat c) e = scientific first rest e digits := by
  have hd := allDigits_ofNat c
  have hc : c ≠ 0 := by
    rintro rfl
    exact h10 rfl
  have hhead := head?_ofNat_ne hc
  have hlast := getLast?_ofNat_ne h10
  have hexp := isExponent_write hw e
  simp only [writeScientific]
  cases hdigits : ofNat c with
  | nil => exact absurd hdigits (ofNat_ne_nil c)
  | cons first rest =>
    rw [hdigits] at hd hhead hlast
    have hfirst : first ≠ '0' := fun h => hhead (congrArg some h)
    have hrest : AllDigits rest := fun x hx => hd x (List.mem_cons_of_mem _ hx)
    refine ⟨first, rest, _, ⟨hd first List.mem_cons_self, hfirst, hrest, ?_⟩, hexp, ?_⟩
    · cases rest with
      | nil => simp
      | cons second rest => rwa [List.getLast?_cons_cons] at hlast
    · cases rest <;> rfl

end LookupLog
