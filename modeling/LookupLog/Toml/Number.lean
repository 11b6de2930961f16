import LookupLog.Toml.Value

/-!
# Numbers

A whole number is written in decimal, hexadecimal, octal or binary digits and lies in the range of
64 signed bits; a float has a fraction, an exponent or both. Between two digits there may be one
underscore. A float that rounds to positive infinity is refused.
-/

namespace LookupLog.Toml

/-! ## 1. Digits -/

/-- The digits of a text in which single underscores may separate them. -/
def digits? (isDigit : Char → Bool) (text : Text) : Option Text :=
  let groups := text.splitOn '_'
  if groups.all fun group => group ≠ [] && group.all isDigit then some groups.flatten else none

/-- Decimal digits without a leading zero. -/
def wholeDigits? (text : Text) : Option Text :=
  if text.head? = some '0' ∧ text ≠ ['0'] then none else digits? Char.isDigit text

/-- A sign, if there is one, and what follows it. -/
def splitSign : Text → Bool × Text
  | '-' :: rest => (true, rest)
  | '+' :: rest => (false, rest)
  | text => (false, text)

/-- What stands before the first of some characters, and what stands after it. -/
def cutAt (isMark : Char → Bool) (text : Text) : Text × Option Text :=
  (text.takeWhile fun c => ! isMark c, (text.dropWhile fun c => ! isMark c).tail?)

/-! ## 2. Whole numbers -/

/-- A number without sign in a base, of at most 63 bits. -/
def integerIn? (base : Nat) (text : Text) : Option Int :=
  match digits? (Text.isDigitIn base) text with
  | none => none
  | some digits =>
    let n := Text.ofDigits base digits
    if n < 0x8000000000000000 then some n else none

/-- A whole number. -/
def integer? : Text → Option Int
  | '0' :: 'x' :: rest => integerIn? 16 rest
  | '0' :: 'o' :: rest => integerIn? 8 rest
  | '0' :: 'b' :: rest => integerIn? 2 rest
  | text =>
    let (negative, body) := splitSign text
    match wholeDigits? body with
    | none => none
    | some digits =>
      let n : Int := if negative then -(Text.toNat digits : Int) else Text.toNat digits
      if -0x8000000000000000 ≤ n ∧ n < 0x8000000000000000 then some n else none

/-! ## 3. Floats -/

/-- An exponent: a sign, if there is one, and digits. -/
def exponent? (text : Text) : Option Int :=
  let (negative, body) := splitSign text
  (digits? Char.isDigit body).map fun digits =>
    if negative then -(Text.toNat digits : Int) else Text.toNat digits

/-- The decimal that a float writes. -/
def decimal? (text : Text) : Option Decimal := do
  let (negative, body) := splitSign text
  let (mantissa, exponent) := cutAt (fun c => c = 'e' || c = 'E') body
  let (whole, fraction) := cutAt (· = '.') mantissa
  let wholeDigits ← wholeDigits? whole
  let places ← match fraction with
    | some fraction => digits? Char.isDigit fraction
    | none => if exponent.isSome then some [] else none
  let scale ← match exponent with
    | some exponent => exponent? exponent
    | none => some 0
  return {
    negative
    coefficient := Text.toNat (wholeDigits ++ places)
    exponent := scale - places.length }

/-- A float, with the names of infinity and not-a-number. -/
def float? (text : Text) : Option Binary64 :=
  let (negative, body) := splitSign text
  if body = ['i', 'n', 'f'] then some (Binary64.infinity.withSign negative)
  else if body = ['n', 'a', 'n'] then some (Binary64.nan.withSign negative)
  else
    match decimal? text with
    | none => none
    | some d => if d.toBinary64 = Binary64.infinity then none else some d.toBinary64

end LookupLog.Toml
