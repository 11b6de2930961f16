import LookupLog.Text.Basic
import LookupLog.Binary64.Rounding

/-!
# Decimal numbers

A decimal is a sign, a coefficient and a power of ten. `Decimal.read?` reads the written forms
`12.5`, `-0.0` and `1e+16`; `Decimal.toBinary64` is the double nearest to a decimal.
-/

namespace LookupLog

/-- The number `± coefficient × 10 ^ exponent`; the sign is kept for zero, too. -/
structure Decimal where
  negative : Bool
  coefficient : Nat
  exponent : Int
  deriving DecidableEq

namespace Decimal

/-! ## 1. Value -/

/-- The rational number that a decimal denotes. -/
def value (d : Decimal) : Rat :=
  let magnitude := (d.coefficient : Rat) * (10 : Rat) ^ d.exponent
  if d.negative then -magnitude else magnitude

/-- The power of ten with an exponent. -/
def powerOfTen (exponent : Nat) : Nat :=
  Nat.pow 10 exponent

/-- The double nearest to a decimal, ties to even, with its sign. A decimal of at least 10^400 is
beyond every finite double and one below 10^-400 is nearer to zero than to the least positive
double, so neither is expanded. -/
def toBinary64 (d : Decimal) : Binary64 :=
  let size := d.exponent + (Text.ofNat d.coefficient).length
  if d.coefficient = 0 ∨ size ≤ -400 then Binary64.zero.withSign d.negative
  else if 400 < size then Binary64.infinity.withSign d.negative
  else Binary64.ofQuotient d.negative (d.coefficient * powerOfTen d.exponent.toNat)
    (powerOfTen (-d.exponent).toNat)

/-! ## 2. Reading -/

/-- The value of a text that consists of digits and is not empty. -/
def readDigits? (text : Text) : Option Nat :=
  if text ≠ [] ∧ text.all Char.isDigit then some (Text.toNat text) else none

/-- An exponent: an optional sign and digits. -/
def readExponent? : Text → Option Int
  | '+' :: digits => (readDigits? digits).map Int.ofNat
  | '-' :: digits => (readDigits? digits).map fun n => -(n : Int)
  | digits => (readDigits? digits).map Int.ofNat

/-- What may follow the digits of a decimal: nothing, or `e` and an exponent. -/
def readScale? : Text → Option Int
  | [] => some 0
  | 'e' :: exponent => readExponent? exponent
  | _ => none

/-- A decimal without sign: digits, optionally a point and more digits, and a scale. -/
def readUnsigned? (negative : Bool) (text : Text) : Option Decimal :=
  let whole := text.takeWhile Char.isDigit
  if whole = [] then none
  else
    match text.dropWhile Char.isDigit with
    | '.' :: rest =>
      let places := rest.takeWhile Char.isDigit
      if places = [] then none
      else (readScale? (rest.dropWhile Char.isDigit)).map fun scale =>
        { negative, coefficient := Text.toNat (whole ++ places), exponent := scale - places.length }
    | rest => (readScale? rest).map fun scale =>
        { negative, coefficient := Text.toNat whole, exponent := scale }

/-- The decimal that a whole text writes, with an optional minus sign in front. -/
def read? : Text → Option Decimal
  | '-' :: text => readUnsigned? true text
  | text => readUnsigned? false text

end Decimal

end LookupLog
