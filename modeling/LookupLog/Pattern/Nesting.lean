import LookupLog.Pattern.Fault

/-!
# How deep the parts of a pattern lie

A part of a written pattern may hold other parts: a group, a repetition, a sequence, alternatives
and a set do.
-/

namespace LookupLog

/-- How parts of a pattern lie in each other and beside each other. -/
inductive Nesting where
  /-- No part that holds others. -/
  | flat
  /-- What a part holds. -/
  | within (span : Span) (inner : Nesting)
  /-- Two parts in order. -/
  | beside (first second : Nesting)
  deriving DecidableEq

namespace Nesting

/-- The first part that lies below so many levels. -/
def tooDeep? : (levels : Nat) → Nesting → Option Span
  | _, flat => none
  | 0, within span _ => some span
  | levels + 1, within _ inner => inner.tooDeep? levels
  | levels, beside first second => (first.tooDeep? levels).or (second.tooDeep? levels)

/-- Several parts in order. -/
def row (parts : List Nesting) : Nesting :=
  parts.foldr beside flat

end Nesting

end LookupLog
