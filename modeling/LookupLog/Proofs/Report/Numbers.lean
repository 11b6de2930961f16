import LookupLog.Proofs.Binary64.Spacing
import LookupLog.Proofs.Decimal.Reading
import LookupLog.Report.Basic

/-!
# Numbers in a text report

Every finite double is written as a decimal that is nearer to it than to any other double, so it is
read back bit for bit, with the sign of a zero (`writeReal_roundTrip`).
-/

namespace LookupLog

open Binary64

/-- The sign of a decimal is a sign of its value. -/
theorem Decimal.hasSign_value (d : Decimal) : HasSign d.negative d.value := by
  have hm : (0 : ℚ) ≤ d.coefficient * 10 ^ d.exponent := by positivity
  unfold HasSign value
  cases d.negative with
  | false => exact hm
  | true => exact neg_nonpos.mpr hm

/-- The double that a decimal is rounded to, if it is finite, is the only one that is nearest and
    has the sign of the decimal. -/
theorem Decimal.isNearest_iff_eq_toBinary64 {d : Decimal} (h : d.toBinary64.IsFinite)
    {x : Binary64} : IsNearest d.value x ∧ x.negative = d.negative ↔ x = d.toBinary64 := by
  rw [d.toBinary64_eq_nearest] at h ⊢
  exact isNearest_iff d.hasSign_value h

/-- A decimal stands for a double: it is rounded to it, and of the doubles with its sign this one is
    nearest to it and no other is. -/
structure Decimal.RoundsTo (d : Decimal) (x : Binary64) : Prop where
  eq : d.toBinary64 = x
  nearest : ∀ y, IsNearest d.value y ∧ y.negative = d.negative ↔ y = x

theorem Decimal.roundsTo_of_eq {d : Decimal} {x : Binary64} (h : d.toBinary64 = x)
    (hx : x.IsFinite) : d.RoundsTo x := by
  subst h
  exact ⟨rfl, fun _ => d.isNearest_iff_eq_toBinary64 hx⟩

/-- **A finite double is shown as a decimal that stands for it**, in any layout. -/
theorem Layout.roundsTo_shown (layout : Layout) {x : Binary64} (hx : x.IsFinite) :
    (layout.shown (x.shortest layout.tie)).RoundsTo x :=
  Decimal.roundsTo_of_eq (layout.toBinary64_shown_shortest hx) hx

/-- **A decimal is below a double if the one that it stands for is.** -/
theorem Decimal.RoundsTo.value_lt {d : Decimal} {x : Binary64} (h : d.RoundsTo x)
    (hd : d.negative = false) {z : ℚ} (hz : IsDouble z) (hx : x.value < z) : d.value < z := by
  by_contra hle
  have h0 : 0 ≤ d.value := by
    have hs := d.hasSign_value
    rw [hd] at hs
    exact hs
  have hsame : (Binary64.nearest d.value).withSign false = Binary64.nearest d.value :=
    Binary64.ext_code (negative_nearest_of_nonneg h0).symm rfl
  rw [← h.eq, d.toBinary64_eq_nearest, hd, hsame] at hx
  exact absurd (le_value_nearest hz h0 (not_lt.mp hle)) (not_le.mpr hx)

namespace Report

/-- What a finite double is written as. -/
theorem read?_writeReal {x : Binary64} (h : x.IsFinite) :
    Decimal.read? (writeReal x) = some (numberLayout.shown (x.shortest numberLayout.tie)) := by
  rw [writeReal, if_pos h, Layout.write, Layout.read?_writeDecimal]

theorem writeReal_injective {x y : Binary64} (hx : x.IsFinite) (hy : y.IsFinite)
    (h : writeReal x = writeReal y) : x = y := by
  have hd := (read?_writeReal hx).symm.trans ((congrArg Decimal.read? h).trans (read?_writeReal hy))
  rw [← Layout.toBinary64_shown_shortest numberLayout hx, Option.some.inj hd,
    Layout.toBinary64_shown_shortest numberLayout hy]

/-- **A finite double is read back bit for bit.** The text of a number is a decimal, and of the
    doubles with its sign the one that was written is nearest to it, ties going to even codes, and
    no other is; so rounding the decimal gives the same 64 bits again. Hence no two finite doubles
    have the same text. -/
theorem writeReal_roundTrip (bits : UInt64) (h : (ofBits bits).IsFinite) :
    (∃ d, Decimal.read? (writeReal (ofBits bits)) = some d ∧
      (∀ x, IsNearest d.value x ∧ x.negative = d.negative ↔ x = ofBits bits) ∧
      d.toBinary64.toBits = bits) ∧
    ∀ bits', (ofBits bits').IsFinite → writeReal (ofBits bits') = writeReal (ofBits bits) →
      bits' = bits := by
  have hr := Layout.toBinary64_shown_shortest numberLayout h
  refine ⟨⟨_, read?_writeReal h, fun x => ?_, ?_⟩, fun bits' h' he => ?_⟩
  · rw [Decimal.isNearest_iff_eq_toBinary64 (hr.symm ▸ h), hr]
  · rw [hr, toBits_ofBits]
  · rw [← toBits_ofBits bits', writeReal_injective h' h he, toBits_ofBits]

/-- The negative number that is least in magnitude, next to the zero that has a sign, too. -/
theorem writeReal_roundTrip_least :
    let least : UInt64 := 0x8000000000000001
    let zero : UInt64 := 0x8000000000000000
    (ofBits least).IsFinite ∧ (ofBits zero).IsFinite ∧
    writeReal (ofBits least) = "-5e-324".toList ∧ writeReal (ofBits zero) = "-0.0".toList ∧
    ((∃ d, Decimal.read? (writeReal (ofBits least)) = some d ∧
      (∀ x, IsNearest d.value x ∧ x.negative = d.negative ↔ x = ofBits least) ∧
      d.toBinary64.toBits = least) ∧
    ∀ bits', (ofBits bits').IsFinite → writeReal (ofBits bits') = writeReal (ofBits least) →
      bits' = least) := by
  intro least zero
  have h : (ofBits least).IsFinite := by decide
  exact ⟨h, by decide, by decide +kernel, by decide +kernel, writeReal_roundTrip least h⟩

end Report

end LookupLog
