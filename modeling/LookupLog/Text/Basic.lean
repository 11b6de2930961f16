/-!
# Texts and bytes

A text is a list of characters and a content is a list of bytes, so that reading and writing are
plain list functions. `Text.ofNat` and `Text.toNat` are the decimal numerals of a number and their
value; the second undoes the first (`Text.toNat_ofNat`).
-/

namespace LookupLog

/-- A text: a list of Unicode characters. -/
abbrev Text := List Char

/-- What a file holds. -/
abbrev Bytes := List UInt8

namespace Text

/-! ## 1. Numerals -/

/-- The decimal numeral of a number, without leading zeros. -/
def ofNat (n : Nat) : Text :=
  Nat.toDigits 10 n

/-- The value of a run of decimal digits; leading zeros add nothing. -/
def toNat (digits : Text) : Nat :=
  Nat.ofDigitChars 10 digits 0

/-- **A numeral denotes the number it was written for.** -/
@[simp] theorem toNat_ofNat (n : Nat) : toNat (ofNat n) = n :=
  Nat.ofDigitChars_ten_toDigits

/-- Numerals consist of decimal digits. -/
theorem isDigit_of_mem_ofNat {n : Nat} {c : Char} (h : c ∈ ofNat n) : c.isDigit = true :=
  Nat.isDigit_of_mem_toDigits (by decide) (by decide) h

/-- The decimal numeral of an integer, with a minus sign below zero. -/
def ofInt : Int → Text
  | .ofNat n => ofNat n
  | .negSucc n => '-' :: ofNat (n + 1)

/-- The value of a digit in any base up to sixteen. -/
def digitValue (c : Char) : Nat :=
  if c.isDigit then c.toNat - 48 else c.toLower.toNat - 87

/-- A digit in a base. -/
def isDigitIn (base : Nat) (c : Char) : Bool :=
  (c.isDigit || ('a' ≤ c.toLower && c.toLower ≤ 'f')) && decide (digitValue c < base)

/-- The number that some digits write in a base. -/
def ofDigits (base : Nat) (digits : Text) : Nat :=
  digits.foldl (fun n c => base * n + digitValue c) 0

/-! ## 2. Beginnings and ends -/

/-- What a class tells apart is different. -/
theorem ne_of_class {p : Char → Bool} {c d : Char} (hc : p c = true) (hd : p d = false) :
    c ≠ d := by
  intro he
  subst he
  rw [hc] at hd
  cases hd

/-- What follows `start` in a text that begins with it. -/
def after? : (start text : Text) → Option Text
  | [], text => some text
  | _ :: _, [] => none
  | s :: start, c :: text => if s = c then after? start text else none

/-- `after?` succeeds on exactly the texts that begin with `start`. -/
theorem after?_eq_some_iff {start text rest : Text} :
    after? start text = some rest ↔ text = start ++ rest := by
  induction start generalizing text with
  | nil => simp [after?, eq_comm]
  | cons s start ih =>
    cases text with
    | nil => simp [after?]
    | cons c text =>
      by_cases h : s = c
      · simp [after?, h, ih]
      · simp [after?, h, Ne.symm h]

/-- A text without its last character, if that character is `c`. -/
def dropLastIf (c : Char) (text : Text) : Text :=
  if text.getLast? = some c then text.dropLast else text

@[simp] theorem dropLastIf_append_self (c : Char) (text : Text) :
    dropLastIf c (text ++ [c]) = text := by
  simp [dropLastIf]

/-- The text with every line break followed by `margin`. -/
def indentBreaks (margin : Text) (text : Text) : Text :=
  text.flatMap fun c => if c = '\n' then '\n' :: margin else [c]

end Text

end LookupLog
