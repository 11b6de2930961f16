import LookupLog.Text.Basic

/-!
# Levels of log messages

Levels are ordered by severity. A threshold shows the levels up to a rank.
-/

namespace LookupLog

/-- How severe a message is. -/
inductive Level where
  | error
  | warn
  | info
  | debug
  | trace
  deriving DecidableEq

namespace Level

/-- The place of a level, the most severe first. -/
def rank : Level → Nat
  | error => 1
  | warn => 2
  | info => 3
  | debug => 4
  | trace => 5

/-- The name of a level in a message. -/
def name : Level → Text
  | error => "ERROR".toList
  | warn => "WARN".toList
  | info => "INFO".toList
  | debug => "DEBUG".toList
  | trace => "TRACE".toList

end Level

/-- The greatest rank that is shown; nothing is shown at zero. -/
abbrev Threshold := Nat

namespace Threshold

/-- The threshold of a name, in any case of letters. -/
def ofName? (name : Text) : Option Threshold :=
  ["off", "error", "warn", "info", "debug", "trace"].findIdx? fun known =>
    known.toList = name.map Char.toLower

/-- The threshold that shows everything. -/
def all : Threshold := 5

end Threshold

end LookupLog
