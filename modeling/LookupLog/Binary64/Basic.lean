/-!
# Double-precision numbers

A binary64 number is a sign and a 63-bit code: eleven bits of exponent, then 52 bits of fraction.
The codes of the finite numbers run through the magnitudes in increasing order, so comparing two
magnitudes is comparing two naturals, and the neighbours of code `n` are `n - 1` and `n + 1`.

* `units n`: the magnitude of code `n` as a whole multiple of 2^-1074, the least positive number;
* `Binary64.value`: the rational number that a finite value denotes;
* `ofBits`, `toBits`: the 64-bit form; each undoes the other (`toBits_ofBits`, `ofBits_toBits`).
-/

namespace LookupLog

/-- A double-precision number: a sign and the code of a magnitude. -/
structure Binary64 where
  negative : Bool
  code : Nat
  code_lt : code < 0x8000000000000000 := by omega
  deriving DecidableEq

namespace Binary64

/-! ## 1. Magnitudes -/

/-- The code of infinity: the first one beyond the finite magnitudes. -/
def infinityCode : Nat := 0x7ff0000000000000

/-- The magnitude of a finite code, counted in units of 2^-1074: the code itself below 2^52, else
the fraction with a bit in front, shifted once for every exponent after the first. -/
def units (code : Nat) : Nat :=
  if code < 0x10000000000000 then code
  else (0x10000000000000 + code % 0x10000000000000) <<< (code / 0x10000000000000 - 1)

@[simp] theorem units_zero : units 0 = 0 := rfl

/-- Neither infinite nor not-a-number. -/
def IsFinite (x : Binary64) : Prop :=
  x.code < infinityCode

instance (x : Binary64) : Decidable x.IsFinite :=
  inferInstanceAs (Decidable (x.code < infinityCode))

/-- Not a number: the codes beyond infinity. -/
def IsNaN (x : Binary64) : Prop :=
  infinityCode < x.code

instance (x : Binary64) : Decidable x.IsNaN :=
  inferInstanceAs (Decidable (infinityCode < x.code))

/-- The magnitude that a finite value denotes. -/
def magnitude (x : Binary64) : Rat :=
  mkRat (units x.code) (1 <<< 1074)

/-- The rational number that a finite value denotes. -/
def value (x : Binary64) : Rat :=
  if x.negative then -x.magnitude else x.magnitude

/-! ## 2. The constants -/

/-- Positive zero. -/
def zero : Binary64 where
  negative := false
  code := 0

/-- Positive infinity. -/
def infinity : Binary64 where
  negative := false
  code := infinityCode
  code_lt := by decide

/-- A quiet not-a-number. -/
def nan : Binary64 where
  negative := false
  code := 0x7ff8000000000000
  code_lt := by decide

/-- The value with its sign replaced. -/
def withSign (negative : Bool) (x : Binary64) : Binary64 :=
  { x with negative }

/-! ## 3. The 64-bit form -/

/-- The number whose sign is the highest bit of a word and whose code is the rest. -/
def ofBits (bits : UInt64) : Binary64 where
  negative := decide (0x8000000000000000 ≤ bits.toNat)
  code := bits.toNat % 0x8000000000000000
  code_lt := Nat.mod_lt _ (by decide)

/-- The word of a number. -/
def toBits (x : Binary64) : UInt64 :=
  UInt64.ofNat ((if x.negative then 0x8000000000000000 else 0) + x.code)

theorem toNat_toBits (x : Binary64) :
    x.toBits.toNat = (if x.negative then 0x8000000000000000 else 0) + x.code := by
  have h := x.code_lt
  rw [toBits, UInt64.toNat_ofNat']
  apply Nat.mod_eq_of_lt
  split <;> omega

@[simp] theorem toBits_ofBits (bits : UInt64) : (ofBits bits).toBits = bits := by
  apply UInt64.toNat_inj.1
  have h := bits.toNat_lt
  rw [toNat_toBits]
  simp only [ofBits, decide_eq_true_eq]
  split <;> omega

@[simp] theorem ofBits_toBits (x : Binary64) : ofBits x.toBits = x := by
  obtain ⟨s, n, h⟩ := x
  have ht := toNat_toBits ⟨s, n, h⟩
  simp only [ofBits, ht]
  cases s <;> simp <;> omega

/-- The 64 bits determine the number. -/
theorem toBits_inj {x y : Binary64} : x.toBits = y.toBits ↔ x = y :=
  ⟨fun h => by rw [← ofBits_toBits x, h, ofBits_toBits], fun h => h ▸ rfl⟩

end Binary64

end LookupLog
