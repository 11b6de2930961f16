import LookupLog.Binary64.Basic

/-!
# Rounding to the nearest double

A quotient of naturals is rounded to a whole number first, ties going to the even neighbour
(`roundHalfEven`). A double has at most 53 significant bits, so its nearest code is found by
rounding the magnitude, counted in units of 2^-1074, on the grid of the power of two that leaves 53
bits (`nearestCode`). Arithmetic is the exact result of the rationals, rounded once.
-/

namespace LookupLog

/-! ## 1. Whole numbers -/

/-- The whole number nearest to `num / den`; of two equally near ones the even one. -/
def roundHalfEven (num den : Nat) : Nat :=
  let quotient := num / den
  let rest := num % den
  if 2 * rest < den ∨ 2 * rest = den ∧ quotient % 2 = 0 then quotient else quotient + 1

namespace Binary64

/-! ## 2. Codes -/

/-- The code nearest to `num / den` units of 2^-1074, with ties to the even code; beyond the
largest finite magnitude it is the code of infinity. -/
def nearestCode (num den : Nat) : Nat :=
  let exponent := (num / den).log2 - 52
  min infinityCode (exponent * 0x10000000000000 + roundHalfEven num (den <<< exponent))

theorem nearestCode_lt (num den : Nat) : nearestCode num den < 0x8000000000000000 :=
  Nat.lt_of_le_of_lt (Nat.min_le_left ..) (by decide)

/-- The double nearest to the magnitude `num / den`, with the given sign. -/
def ofQuotient (negative : Bool) (num den : Nat) : Binary64 where
  negative := negative
  code := nearestCode (num <<< 1074) den
  code_lt := nearestCode_lt ..

/-- The double nearest to a rational, ties to even; zero is positive. -/
def nearest (q : Rat) : Binary64 :=
  ofQuotient (decide (q < 0)) q.num.natAbs q.den

/-- The double nearest to a natural number. -/
def ofNat (n : Nat) : Binary64 :=
  nearest n

/-! ## 3. Arithmetic on finite numbers -/

/-- The exact sum of two finite numbers, rounded. -/
instance : Add Binary64 where
  add x y := nearest (x.value + y.value)

/-- The exact product of two finite numbers, rounded. -/
instance : Mul Binary64 where
  mul x y := nearest (x.value * y.value)

/-- The exact quotient of two finite numbers, rounded; the divisor is not zero. -/
instance : Div Binary64 where
  div x y := nearest (x.value / y.value)

theorem add_def (x y : Binary64) : x + y = nearest (x.value + y.value) := rfl

theorem mul_def (x y : Binary64) : x * y = nearest (x.value * y.value) := rfl

theorem div_def (x y : Binary64) : x / y = nearest (x.value / y.value) := rfl

end Binary64

end LookupLog
