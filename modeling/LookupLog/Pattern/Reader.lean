import LookupLog.Pattern.Basic
import LookupLog.Pattern.Nesting

/-!
# Reading steps

A written pattern is read from left to right. Faults of its form end the reading; the first fault
of its meaning is kept until the form is known to be right.
-/

namespace LookupLog.Pattern

/-- What holds for the pattern from a place on. -/
structure Flags where
  /-- Case does not matter. -/
  caseless : Bool := false
  /-- Lines have beginnings and ends of their own. -/
  multiLine : Bool := false
  /-- A dot stands for line breaks, too. -/
  dotAll : Bool := false
  /-- Classes and case are those of Unicode, not of ASCII. -/
  unicode : Bool := true
  /-- Carriage returns are line breaks, too. -/
  anyBreak : Bool := false
  /-- White space and comments mean nothing. -/
  verbose : Bool := false
  deriving DecidableEq

/-- What is left to read of a pattern, and what is known of the rest of it. -/
structure Reading where
  /-- How many characters were read. -/
  passed : Nat := 0
  rest : Text
  /-- The first fault of the meaning. -/
  deferred : Option PatternFault := none
  /-- The names of groups and where they stand. -/
  names : List (Text × Span) := []

/-- A step of reading. -/
abbrev Reader := StateT Reading (Except PatternFault)

namespace Reader

/-! ## 1. Faults -/

/-- Ends the reading with a fault at a part of the pattern. -/
def fail (error : PatternError) (span : Span) : Reader α :=
  throw { error, span }

/-- Notes a fault of the meaning. -/
def note (error : PatternError) (span : Span) : Reader Unit :=
  modify fun r => { r with deferred := r.deferred <|> some { error, span } }

/-! ## 2. Places -/

/-- The place that was reached. -/
def place : Reader Nat := do
  return (← get).passed

/-- The part from a place to the one that was reached. -/
def since (start : Nat) : Reader Span := do
  return ⟨start, ← place⟩

/-- The next character as a part. -/
def nextSpan : Reader Span := do
  let start ← place
  return ⟨start, start + 1⟩

/-- What is left. -/
def rest : Reader Text := do
  return (← get).rest

/-- The next character. -/
def next? : Reader (Option Char) := do
  return (← rest).head?

/-! ## 3. Moving on -/

/-- Passes some characters. -/
def pass (count : Nat) : Reader Unit :=
  modify fun r =>
    { r with passed := r.passed + min count r.rest.length, rest := r.rest.drop count }

/-- Passes a text if it comes next. -/
def passIf (text : String) : Reader Bool := do
  if text.toList.isPrefixOf (← rest) then
    pass text.length
    return true
  else return false

/-- How many characters are white space and comments at the beginning of a text. A comment goes
from `#` to the end of the line. -/
def blankLength : (inComment : Bool) → Text → Nat
  | _, [] => 0
  | true, c :: text => blankLength (c ≠ '\n') text + 1
  | false, c :: text =>
    if Text.isSpace c then blankLength false text + 1
    else if c = '#' then blankLength true text + 1
    else 0

/-- Passes what means nothing. -/
def skip (flags : Flags) : Reader Unit := do
  if flags.verbose then pass (blankLength false (← rest))

/-- Passes a character and what means nothing after it. -/
def step (flags : Flags) : Reader Unit := do
  pass 1
  skip flags

/-- Reads characters as long as they pass a test. -/
def collect (flags : Flags) (test : Char → Bool) : (fuel : Nat) → Reader Text
  | 0 => return []
  | fuel + 1 => do
    match ← next? with
    | none => return []
    | some c =>
      if test c then
        step flags
        return c :: (← collect flags test fuel)
      else return []

/-- The characters that come next and pass a test. -/
def takeWhile (flags : Flags) (test : Char → Bool) : Reader Text := do
  collect flags test (← rest).length

end Reader

end LookupLog.Pattern
