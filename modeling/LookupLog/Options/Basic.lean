import LookupLog.Report.Format

/-!
# Options

What a command line asks for, and why one is not carried out.
-/

namespace LookupLog

/-- What a command line asks for. -/
structure Options where
  /-- The identifier of the run. -/
  k : Text
  template : Option Text := none
  /-- The path of the config file. -/
  config : Option Text := none
  format : Option ReportFormat := none
  /-- The path that the bandwidth series is written to. -/
  series : Option Text := none
  deriving DecidableEq

/-- What is wrong with a command line. -/
inductive UsageError where
  /-- An option that does not exist, or an argument too many. -/
  | unknownArgument
  /-- A value is missing or not allowed. -/
  | invalidValue
  /-- There is no identifier of a run. -/
  | missingArgument
  /-- An option is given twice. -/
  | repeatedOption
  /-- A value is given to an option that takes none. -/
  | needlessValue
  deriving DecidableEq

/-- Why a command line does not lead to a run. -/
inductive Stop where
  /-- The full or the short help is asked for. -/
  | help (full : Bool)
  /-- The version is asked for. -/
  | version
  | usage (e : UsageError)
  deriving DecidableEq

/-- The options that take a value. -/
inductive OptionName where
  | template
  | config
  | format
  | series
  deriving DecidableEq

namespace OptionName

/-- The name after two hyphens. -/
def long : OptionName → Text
  | template => "template".toList
  | config => "config".toList
  | format => "format".toList
  | series => "series".toList

/-- The letter after one hyphen. -/
def short? : OptionName → Option Char
  | template => some 't'
  | config => some 'c'
  | format => some 'f'
  | series => none

/-- Every option. -/
def all : List OptionName := [template, config, format, series]

end OptionName

end LookupLog
