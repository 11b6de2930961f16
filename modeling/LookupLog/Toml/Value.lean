import LookupLog.Decimal.Layout

/-!
# Values of a TOML document

A table remembers how it came to be, because that decides what may still be added to it
(`TableKind`). The entries of a table keep their order.
-/

namespace LookupLog.Toml

/-- How a table came to be. -/
inductive TableKind where
  /-- By a header of its own. -/
  | headed
  /-- On the way to a table that has a header. -/
  | implied
  /-- On the way to a dotted key. -/
  | dotted
  /-- Between braces. -/
  | inline
  deriving DecidableEq

/-- A value of a TOML document. -/
inductive Value where
  | string (text : Text)
  | integer (n : Int)
  | float (x : Binary64)
  | boolean (b : Bool)
  /-- A date, a time or both. -/
  | moment
  | array (items : List Value)
  | table (kind : TableKind) (entries : List (Text × Value))
  /-- The tables that have the same header in double brackets. -/
  | tables (elements : List (List (Text × Value)))

/-- The entries of a table in their order. -/
abbrev Entries := List (Text × Value)

namespace Value

/-- Floats are described in full, however large or small. -/
def floatLayout : Layout where
  tie := .outward
  inFull _ := true
  exponentWidth := 1

/-- A float as it is described. -/
def describeFloat (x : Binary64) : Text :=
  if x.IsFinite then floatLayout.write x
  else if x.IsNaN then "NaN".toList
  else if x.negative then "-inf".toList
  else "inf".toList

/-- A value as it is called in an error about its type. -/
def describe : Value → Text
  | string text => "string \"".toList ++ text ++ ['"']
  | integer n => "integer `".toList ++ Text.ofInt n ++ ['`']
  | float x => "floating point `".toList ++ describeFloat x ++ ['`']
  | boolean true => "boolean `true`".toList
  | boolean false => "boolean `false`".toList
  | moment => "map".toList
  | array _ => "sequence".toList
  | table _ _ => "map".toList
  | tables _ => "sequence".toList

end Value

end LookupLog.Toml
