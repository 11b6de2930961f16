import LookupLog.Decimal.Shortest

/-!
# Written forms of doubles

A `Layout` fixes how a finite double is written with its shortest digits: which decimal exponents
are written out in full, how wide the exponent is otherwise, and which way ties go. A number written
in full always has a fractional part; an exponent always has a sign.
-/

namespace LookupLog

/-- The decisions of one written form. -/
structure Layout where
  /-- Which of two equally near decimals is written. -/
  tie : Tie
  /-- The decimal exponents of the numbers that are written in full. -/
  inFull : Int → Bool
  /-- The least number of digits of an exponent. -/
  exponentWidth : Nat

/-! ## 1. Digits -/

/-- `count` zeros. -/
def zeros (count : Nat) : Text :=
  List.replicate count '0'

/-- The digits scaled by a power of ten, with a point and at least one digit on each side. -/
def writeInFull (digits : Text) (exponent : Int) : Text :=
  match exponent with
  | .ofNat n => digits ++ zeros n ++ ['.', '0']
  | .negSucc n =>
    let places := n + 1
    let whole := digits.length - places
    if whole = 0 then '0' :: '.' :: (zeros (places - digits.length) ++ digits)
    else digits.take whole ++ '.' :: digits.drop whole

/-- An exponent with its sign, padded with zeros to the given width. -/
def writeExponent (width : Nat) (exponent : Int) : Text :=
  let digits := Text.ofNat exponent.natAbs
  (if exponent < 0 then '-' else '+') :: (zeros (width - digits.length) ++ digits)

/-- The digits with a point after the first one, if more follow, and the exponent. -/
def writeScientific (width : Nat) (digits : Text) (exponent : Int) : Text :=
  let mantissa := match digits with
    | first :: second :: rest => first :: '.' :: second :: rest
    | short => short
  mantissa ++ 'e' :: writeExponent width exponent

/-! ## 2. Numbers -/

namespace Layout

/-- A decimal as the layout writes it. -/
def writeDecimal (layout : Layout) (d : Decimal) : Text :=
  let digits := Text.ofNat d.coefficient
  let leading := d.exponent + digits.length - 1
  (if d.negative then ['-'] else []) ++
    if layout.inFull leading then writeInFull digits d.exponent
    else writeScientific layout.exponentWidth digits leading

/-- A finite double as the layout writes it. -/
def write (layout : Layout) (x : Binary64) : Text :=
  layout.writeDecimal (x.shortest layout.tie)

end Layout

end LookupLog
