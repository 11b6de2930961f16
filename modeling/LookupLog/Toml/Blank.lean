import LookupLog.Text.Basic

/-!
# Blanks, line breaks and comments

A carriage return before a line feed is dropped before anything else is read (`unifyBreaks`), so a
line break is a line feed and any carriage return left is an error. Blanks separate what stands on
one line; a gap may also hold line breaks and comments.
-/

namespace LookupLog.Toml

/-- The text with every carriage return and line feed replaced by a line feed. -/
def unifyBreaks : Text → Text
  | [] => []
  | c :: rest =>
    if c = '\r' ∧ rest.head? = some '\n' then unifyBreaks rest else c :: unifyBreaks rest

/-- May stand in a comment or a string: a tab, or anything that is no control character. -/
def isPlain (c : Char) : Bool :=
  c = '\t' ∨ 32 ≤ c.toNat ∧ c.toNat ≠ 127

/-- A blank or a tab. -/
def isBlank (c : Char) : Bool :=
  c = ' ' ∨ c = '\t'

/-- What follows the blanks at the beginning of a text. -/
def skipBlank (text : Text) : Text :=
  text.dropWhile isBlank

/-- What follows the gap at the beginning of a text, which may begin inside a comment. -/
def skipGap (inComment : Bool) : Text → Text
  | [] => []
  | c :: rest =>
    if c = '\n' then skipGap false rest
    else if inComment then if isPlain c then skipGap true rest else c :: rest
    else if isBlank c then skipGap false rest
    else if c = '#' then skipGap true rest
    else c :: rest

/-- Nothing but a comment is left of the line. -/
def endsLine : Text → Bool
  | [] => true
  | c :: _ => c = '\n' ∨ c = '#'

end LookupLog.Toml
