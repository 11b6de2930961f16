import LookupLog.Toml.Blank

/-!
# Strings

A string between double quotes has escapes, one between apostrophes has none. Three quotes or
apostrophes enclose a string over several lines; a line break right after the opening is dropped.

The readers start after the opening and return the string and what follows its end.
-/

namespace LookupLog.Toml

/-! ## 1. Escapes -/

/-- Where a reader stands inside a string. -/
inductive Place where
  | text
  /-- After a backslash. -/
  | escape
  /-- After a backslash and blanks, before the line break. -/
  | beforeBreak
  /-- In the white space after an escaped line break. -/
  | afterBreak
  /-- Before the missing digits of a code point, of which the others have a value. -/
  | code (missing value : Nat)
  deriving DecidableEq

/-- The character that a one-letter escape stands for. -/
def shortEscape? (c : Char) : Option Char :=
  match c with
  | 'b' => some '\x08'
  | 't' => some '\t'
  | 'n' => some '\n'
  | 'f' => some '\x0c'
  | 'r' => some '\r'
  | '"' => some '"'
  | '\\' => some '\\'
  | _ => none

/-- The value of a hexadecimal digit. -/
def hexValue? (c : Char) : Option Nat :=
  if c.isDigit then some (c.toNat - 48)
  else if 'a' ≤ c ∧ c ≤ 'f' then some (c.toNat - 87)
  else if 'A' ≤ c ∧ c ≤ 'F' then some (c.toNat - 55)
  else none

/-- The character with a code point; surrogates have none. -/
def charOfCode? (n : Nat) : Option Char :=
  if n.isValidChar then some (Char.ofNat n) else none

/-- What was read, with one more character in front. -/
def prepend (c : Char) (read : Option (Text × Text)) : Option (Text × Text) :=
  read.map fun (text, rest) => (c :: text, rest)

/-! ## 2. One line -/

/-- The rest of a string between double quotes. -/
def basicString : Place → Text → Option (Text × Text)
  | _, [] => none
  | .escape, c :: rest =>
    if c = 'u' then basicString (.code 4 0) rest
    else if c = 'U' then basicString (.code 8 0) rest
    else match shortEscape? c with
      | some e => prepend e (basicString .text rest)
      | none => none
  | .code missing value, c :: rest =>
    match hexValue? c with
    | none => none
    | some digit =>
      if 1 < missing then basicString (.code (missing - 1) (16 * value + digit)) rest
      else match charOfCode? (16 * value + digit) with
        | some e => prepend e (basicString .text rest)
        | none => none
  | _, c :: rest =>
    if c = '"' then some ([], rest)
    else if c = '\\' then basicString .escape rest
    else if isPlain c then prepend c (basicString .text rest)
    else none

/-- The rest of a string between apostrophes. -/
def literalString (text : Text) : Option (Text × Text) :=
  match text.dropWhile fun c => c ≠ '\'' && isPlain c with
  | '\'' :: rest => some (text.takeWhile fun c => c ≠ '\'' && isPlain c, rest)
  | _ => none

/-! ## 3. Several lines -/

/-- The end of a string over several lines: three marks, before which up to two may belong to the
string. -/
def closing? (mark : Char) (text : Text) : Option (Text × Text) :=
  let marks := min 5 (text.takeWhile (· = mark)).length
  if marks < 3 then none else some (List.replicate (marks - 3) mark, text.drop marks)

/-- The rest of a string over several lines between double quotes. -/
def basicText : Place → Text → Option (Text × Text)
  | _, [] => none
  | .escape, c :: rest =>
    if c = 'u' then basicText (.code 4 0) rest
    else if c = 'U' then basicText (.code 8 0) rest
    else if c = '\n' then basicText .afterBreak rest
    else if isBlank c then basicText .beforeBreak rest
    else match shortEscape? c with
      | some e => prepend e (basicText .text rest)
      | none => none
  | .code missing value, c :: rest =>
    match hexValue? c with
    | none => none
    | some digit =>
      if 1 < missing then basicText (.code (missing - 1) (16 * value + digit)) rest
      else match charOfCode? (16 * value + digit) with
        | some e => prepend e (basicText .text rest)
        | none => none
  | .beforeBreak, c :: rest =>
    if c = '\n' then basicText .afterBreak rest
    else if isBlank c then basicText .beforeBreak rest
    else none
  | place, c :: rest =>
    if place = .afterBreak ∧ (c = '\n' ∨ isBlank c) then basicText .afterBreak rest
    else if c = '\\' then basicText .escape rest
    else match closing? '"' (c :: rest) with
      | some found => some found
      | none => if c = '\n' ∨ isPlain c then prepend c (basicText .text rest) else none

/-- The rest of a string over several lines between apostrophes. -/
def literalText : Text → Option (Text × Text)
  | [] => none
  | c :: rest =>
    match closing? '\'' (c :: rest) with
    | some found => some found
    | none => if c = '\n' ∨ isPlain c then prepend c (literalText rest) else none

/-- A text without the line break that it may begin with. -/
def dropBreak : Text → Text
  | '\n' :: rest => rest
  | text => text

/-! ## 4. Every string -/

/-- The string that a text begins with, and what follows it. -/
def string? : Text → Option (Text × Text)
  | '"' :: '"' :: '"' :: rest => basicText .text (dropBreak rest)
  | '\'' :: '\'' :: '\'' :: rest => literalText (dropBreak rest)
  | '"' :: rest => basicString .text rest
  | '\'' :: rest => literalString rest
  | _ => none

end LookupLog.Toml
