import LookupLog.Pattern.CharSet

/-!
# Patterns

A pattern describes texts: sets of characters in sequence, in alternation and repeated, with
assertions about the place between two characters. `Pattern.occursIn` says whether a part of a text
fits. It reads the text once and keeps what may still follow after each character
(`Pattern.after`).
-/

namespace LookupLog

/-! ## 1. Places between characters -/

/-- A place in a text, by the characters on its two sides. -/
structure Gap where
  before : Option Char
  after : Option Char
  deriving DecidableEq

/-- How a place lies to a word. -/
inductive WordEdge where
  /-- A word begins or ends. -/
  | boundary
  /-- No word begins or ends. -/
  | inside
  /-- A word begins. -/
  | start
  /-- A word ends. -/
  | stop
  /-- No word stands before. -/
  | startHalf
  /-- No word stands after. -/
  | stopHalf
  deriving DecidableEq

/-- What is asserted of a place. -/
inductive Assertion where
  | textStart
  | textEnd
  /-- A line begins, after a line feed. -/
  | lineStart
  /-- A line ends, before a line feed. -/
  | lineEnd
  /-- A line begins, after a line feed, a carriage return or both. -/
  | anyLineStart
  /-- A line ends, before a line feed, a carriage return or both. -/
  | anyLineEnd
  /-- An edge of a word that consists of characters of a set. -/
  | edge (letters : CharSet) (kind : WordEdge)
  deriving DecidableEq

/-- The assertion is true at a place. -/
def Assertion.holdsAt (gap : Gap) : Assertion → Bool
  | textStart => gap.before = none
  | textEnd => gap.after = none
  | lineStart => gap.before.all (· = '\n')
  | lineEnd => gap.after.all (· = '\n')
  | anyLineStart =>
    gap.before.all (· = '\n') || (gap.before = some '\r' && gap.after ≠ some '\n')
  | anyLineEnd =>
    gap.after.all (· = '\r') || (gap.after = some '\n' && gap.before ≠ some '\r')
  | edge letters kind =>
    let before := gap.before.any letters.contains
    let after := gap.after.any letters.contains
    match kind with
    | .boundary => before != after
    | .inside => before == after
    | .start => ! before && after
    | .stop => before && ! after
    | .startHalf => ! before
    | .stopHalf => ! after

/-! ## 2. Patterns -/

/-- A pattern. -/
inductive Pattern where
  /-- Nothing at all. -/
  | nothing
  /-- One character of a set. -/
  | char (set : CharSet)
  /-- A place that fits an assertion. -/
  | place (assertion : Assertion)
  /-- One pattern, then another. -/
  | sequence (p q : Pattern)
  /-- One of two patterns. -/
  | choice (p q : Pattern)
  /-- A pattern at least and at most so many times. -/
  | repeated (p : Pattern) (least : Nat) (most : Option Nat)
  deriving DecidableEq

namespace Pattern

/-- The empty text fits at a place. -/
def isEmptyAt (gap : Gap) : Pattern → Bool
  | nothing => true
  | char _ => false
  | place assertion => assertion.holdsAt gap
  | sequence p q => p.isEmptyAt gap && q.isEmptyAt gap
  | choice p q => p.isEmptyAt gap || q.isEmptyAt gap
  | repeated p least _ => least = 0 || p.isEmptyAt gap

/-- What may follow a character that stands after a place. Of the repetitions that must come, those
before the character may be empty, if the repeated pattern can be empty at the place. -/
def after (gap : Gap) (c : Char) : Pattern → List Pattern
  | nothing => []
  | char set => if set.contains c then [nothing] else []
  | place _ => []
  | sequence p q =>
    (p.after gap c).map (fun rest => sequence rest q) ++
      if p.isEmptyAt gap then q.after gap c else []
  | choice p q => p.after gap c ++ q.after gap c
  | repeated p least most =>
    if most = some 0 then []
    else
      let missing := if p.isEmptyAt gap then 0 else least - 1
      (p.after gap c).map fun rest => sequence rest (repeated p missing (most.map (· - 1)))

/-- A part of a text that follows `before` fits the pattern, or a beginning of it fits one of those
that are unfinished. -/
def occursAfter (p : Pattern) (before : Option Char) (unfinished : List Pattern) : Text → Bool
  | [] => (p :: unfinished).any (isEmptyAt ⟨before, none⟩)
  | c :: text =>
    let gap : Gap := ⟨before, some c⟩
    let states := p :: unfinished
    states.any (isEmptyAt gap) ||
      occursAfter p (some c) (states.flatMap (after gap c)).eraseDups text

/-- A part of the text fits the pattern. -/
def occursIn (p : Pattern) (text : Text) : Bool :=
  p.occursAfter none [] text

/-- The patterns one after the other. -/
def sequenceOf (ps : List Pattern) : Pattern :=
  match ps with
  | [] => nothing
  | [p] => p
  | p :: rest => sequence p (sequenceOf rest)

/-- One of the patterns; of no pattern, the empty one. -/
def choiceOf (ps : List Pattern) : Pattern :=
  match ps with
  | [] => nothing
  | [p] => p
  | p :: rest => choice p (choiceOf rest)

end Pattern

end LookupLog
