import LookupLog.Text.Unprintable

/-!
# Quoted texts

A quoted text stands between double quotes on one line: quotes and backslashes are escaped, line
breaks, tabs and the null character have short escapes, and every other character without a shape
of its own is given by its number.
-/

namespace LookupLog.Text

/-- A number in lower-case hexadecimal, without leading zeros. -/
def hexOfNat (n : Nat) : Text :=
  Nat.toDigits 16 n

/-- A character inside a quoted text. -/
def escapeChar (c : Char) : Text :=
  match c with
  | '\x00' => ['\\', '0']
  | '\t' => ['\\', 't']
  | '\r' => ['\\', 'r']
  | '\n' => ['\\', 'n']
  | '\\' => ['\\', '\\']
  | '"' => ['\\', '"']
  | c => if isUnprintable c then "\\u\x7b".toList ++ hexOfNat c.toNat ++ "\x7d".toList else [c]

/-- A text in double quotes with its escapes. -/
def quoted (text : Text) : Text :=
  '"' :: (text.flatMap escapeChar ++ ['"'])

end LookupLog.Text
