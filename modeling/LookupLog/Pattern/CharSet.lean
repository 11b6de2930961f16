import LookupLog.Text.Class
import LookupLog.Text.Folding
import LookupLog.Text.Script

/-!
# Sets of characters

A set is written as an expression; `CharSet.contains` says which characters it has.
-/

namespace LookupLog

/-- A set of characters. -/
inductive CharSet where
  | empty
  /-- Everything between two characters, both included. -/
  | range (first last : Char)
  /-- A group of general categories, or one kind of it. -/
  | category (group : Char) (kind : Option Char)
  /-- The characters of a script. -/
  | script (code : Text.Script)
  /-- What counts as a letter. -/
  | alphabetic
  /-- What counts as a lower-case letter. -/
  | lowercase
  /-- What counts as an upper-case letter. -/
  | uppercase
  /-- Decimal digits of any script. -/
  | decimal
  /-- White space. -/
  | space
  /-- Parts of words. -/
  | word
  /-- Everything that is not in a set. -/
  | complement (s : CharSet)
  /-- What is in one of two sets. -/
  | union (s t : CharSet)
  /-- What is in both of two sets. -/
  | inter (s t : CharSet)
  /-- A set with all variants in case. -/
  | folded (s : CharSet)
  /-- A set with the variants in case of its ASCII letters. -/
  | foldedAscii (s : CharSet)
  deriving DecidableEq

namespace CharSet

/-! ## 1. Membership -/

/-- The character is in the set. -/
def contains : CharSet → Char → Bool
  | empty, _ => false
  | range first last, c => decide (first ≤ c ∧ c ≤ last)
  | category group kind, c =>
    (Text.Category.of c).group = group && kind.all (· = (Text.Category.of c).kind)
  | script code, c => Text.Script.of c = code
  | alphabetic, c => Text.isAlphabetic c
  | lowercase, c => Text.isLowercase c
  | uppercase, c => Text.isUppercase c
  | decimal, c => Text.isDecimal c
  | space, c => Text.isSpace c
  | word, c => Text.isWord c
  | complement s, c => ! s.contains c
  | union s t, c => s.contains c || t.contains c
  | inter s t, c => s.contains c && t.contains c
  | folded s, c => (Text.caseVariants c).any s.contains
  | foldedAscii s, c => s.contains c || s.contains c.toLower || s.contains c.toUpper

/-! ## 2. Small sets -/

/-- The set of one character. -/
def single (c : Char) : CharSet := range c c

/-- The set of all characters. -/
def all : CharSet := complement empty

/-- What is in the first set and not in the second. -/
def without (s t : CharSet) : CharSet := inter s (complement t)

/-- What is in exactly one of two sets. -/
def either (s t : CharSet) : CharSet := union (without s t) (without t s)

/-- The union of ranges. -/
def ranges (rs : List (Char × Char)) : CharSet :=
  rs.foldl (fun s (first, last) => union s (range first last)) empty

end CharSet

end LookupLog
