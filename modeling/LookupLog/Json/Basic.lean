import LookupLog.Decimal.Layout

/-!
# JSON values and their written form

A value is written over several lines, each level indented by two blanks. Whole numbers are written
exactly; other numbers with their shortest digits (`Json.numberLayout`), and `null` stands for a
double that is not finite.
-/

namespace LookupLog

/-- A JSON value; an object keeps the order of its members. -/
inductive Json where
  | null
  | count (n : Nat)
  | real (x : Binary64)
  | string (text : Text)
  | array (items : List Json)
  | object (members : List (Text × Json))

namespace Json

/-! ## 1. Numbers and strings -/

/-- Numbers from 10^-5 up to 10^16 are written in full, and ties go to the even digit. -/
def numberLayout : Layout where
  tie := .toEven
  inFull exponent := -5 ≤ exponent ∧ exponent < 16
  exponentWidth := 1

/-- A double as a JSON number. -/
def writeReal (x : Binary64) : Text :=
  if x.IsFinite then numberLayout.write x else ['n', 'u', 'l', 'l']

/-- A digit of a four-digit escape. -/
def hexDigit (n : Nat) : Char :=
  Nat.digitChar (n % 16)

/-- A character inside a JSON string: quotes, backslashes and control characters are escaped. -/
def escapeChar (c : Char) : Text :=
  match c with
  | '"' => ['\\', '"']
  | '\\' => ['\\', '\\']
  | '\x08' => ['\\', 'b']
  | '\x0c' => ['\\', 'f']
  | '\n' => ['\\', 'n']
  | '\r' => ['\\', 'r']
  | '\t' => ['\\', 't']
  | c =>
    if c.toNat < 32 then ['\\', 'u', '0', '0', hexDigit (c.toNat / 16), hexDigit c.toNat] else [c]

/-- A text as a JSON string. -/
def writeString (text : Text) : Text :=
  '"' :: (text.flatMap escapeChar ++ ['"'])

/-! ## 2. Values -/

/-- A line break and the indentation of a level. -/
def newLine (level : Nat) : Text :=
  '\n' :: List.replicate (2 * level) ' '

mutual

/-- A value whose first line stands at a level. -/
def write (level : Nat) : Json → Text
  | null => ['n', 'u', 'l', 'l']
  | count n => Text.ofNat n
  | real x => writeReal x
  | string text => writeString text
  | array [] => ['[', ']']
  | array (item :: items) =>
    '[' :: newLine (level + 1) ++ item.write (level + 1) ++ writeItems (level + 1) items ++
      newLine level ++ [']']
  | object [] => ['\x7b', '\x7d']
  | object ((key, value) :: members) =>
    '\x7b' :: newLine (level + 1) ++ writeString key ++ [':', ' '] ++ value.write (level + 1) ++
      writeMembers (level + 1) members ++ newLine level ++ ['\x7d']

/-- The items of an array after the first one. -/
def writeItems (level : Nat) : List Json → Text
  | [] => []
  | item :: items =>
    ',' :: newLine level ++ item.write level ++ writeItems level items

/-- The members of an object after the first one. -/
def writeMembers (level : Nat) : List (Text × Json) → Text
  | [] => []
  | (key, value) :: members =>
    ',' :: newLine level ++ writeString key ++ [':', ' '] ++ value.write level ++
      writeMembers level members

end

/-- A value as a text of its own, with a line feed at the end. -/
def document (value : Json) : Text :=
  value.write 0 ++ ['\n']

end Json

end LookupLog
