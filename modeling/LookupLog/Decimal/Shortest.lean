import LookupLog.Decimal.Basic

/-!
# The shortest decimal of a double

Among the decimals that are nearer to a double than to its neighbours, the shortest are those on the
coarsest power of ten that has any; of these the nearest is taken, and a `Tie` decides between two
that are equally near.

All of this is exact arithmetic on whole numbers: a double, its neighbours and the midpoints between
them are whole multiples of 2^-1075, and 2^-1075 is 5^1075 × 10^-1075.
-/

namespace LookupLog

/-- Which of two equally near decimals is taken. -/
inductive Tie where
  /-- The one whose last digit is even. -/
  | toEven
  /-- The one of greater magnitude. -/
  | outward
  deriving DecidableEq

/-! ## 1. Intervals and grids -/

/-- The numbers that round to `centre`: from `low` to `high`, with both ends if it is closed. -/
structure RoundingInterval where
  low : Nat
  centre : Nat
  high : Nat
  closed : Bool

namespace RoundingInterval

/-- Membership in the interval. -/
def Contains (i : RoundingInterval) (n : Nat) : Prop :=
  if i.closed then i.low ≤ n ∧ n ≤ i.high else i.low < n ∧ n < i.high

instance (i : RoundingInterval) (n : Nat) : Decidable (i.Contains n) :=
  inferInstanceAs (Decidable
    (if i.closed then i.low ≤ n ∧ n ≤ i.high else i.low < n ∧ n < i.high))

/-- The multiple of `step` in the interval that is nearest to the centre, divided by `step`. -/
def nearestMultiple? (i : RoundingInterval) (tie : Tie) (step : Nat) : Option Nat :=
  let below := i.centre / step
  let above := below + 1
  let toBelow := i.centre - below * step
  let toAbove := above * step - i.centre
  if i.Contains (below * step) then
    if ¬ i.Contains (above * step) ∨ toBelow < toAbove then some below
    else if toAbove < toBelow then some above
    else match tie with
      | .toEven => some (if below % 2 = 0 then below else above)
      | .outward => some above
  else if i.Contains (above * step) then some above
  else none

/-- The nearest multiple of the greatest power of ten, up to a number of places, that has a multiple
in the interval; with its number of places. -/
def coarsest (i : RoundingInterval) (tie : Tie) : (places : Nat) → Nat × Nat
  | 0 => (i.centre, 0)
  | places + 1 =>
    match i.nearestMultiple? tie (Decimal.powerOfTen (places + 1)) with
    | some multiple => (multiple, places + 1)
    | none => coarsest i tie places

end RoundingInterval

/-! ## 2. Doubles -/

namespace Binary64

/-- How many units of 10^-1075 make one unit of 2^-1075. -/
def unitScale : Nat := Nat.pow 5 1075

/-- What rounds to the magnitude of a code, in units of 10^-1075: up to the midpoints between it and
its neighbours, which are its own exactly if it is even. -/
def roundingInterval (code : Nat) : RoundingInterval where
  low := (units (code - 1) + units code) * unitScale
  centre := 2 * units code * unitScale
  high := (units code + units (code + 1)) * unitScale
  closed := code % 2 = 0

/-- The shortest decimal that rounds to a finite double, and of those the nearest to it. -/
def shortest (tie : Tie) (x : Binary64) : Decimal :=
  let i := roundingInterval x.code
  let found := i.coarsest tie (Text.ofNat i.centre).length
  if x.code = 0 then { negative := x.negative, coefficient := 0, exponent := 0 }
  else { negative := x.negative, coefficient := found.1, exponent := found.2 - 1075 }

end Binary64

end LookupLog
