import LookupLog.Config.Basic
import LookupLog.Log.Filter
import LookupLog.Text.Quoted
import LookupLog.Text.Terminal

/-!
# Events

What a run reports about its progress. Each event has a level, an origin and a wording.
-/

namespace LookupLog

/-- Something that a run reports. -/
inductive Event where
  /-- The program starts with the identifier of a run. -/
  | analyzing (k : Text)
  /-- A configuration was read. -/
  | loadedConfig (path : Text) (config : Config)
  /-- The settings are fixed. -/
  | resolvedSettings (settings : Settings)
  /-- A transcript is about to be opened. -/
  | readingTranscript (path : Text)
  /-- A line has no record. -/
  | skippedLine (number : Nat) (text : Text)
  /-- A line has more than one record. -/
  | severalRecords (number count : Nat) (text : Text)
  /-- A transcript was read to its end. -/
  | parsedTranscript (lines samples successes failures : Nat)
  /-- A transcript has no lookup that ended. -/
  | noOutcomes (path : Text)
  /-- The bandwidth series was written. -/
  | wroteSeries (samples : Nat) (path : Text)
  deriving DecidableEq

namespace Event

/-! ## 1. Values in messages -/

/-- An optional value. -/
def writeOption (write : α → Text) : Option α → Text
  | none => "None".toList
  | some a => "Some(".toList ++ write a ++ [')']

/-- A format. -/
def writeFormat : ReportFormat → Text
  | .text => "Text".toList
  | .json => "Json".toList

/-- A configuration. -/
def writeConfig (config : Config) : Text :=
  "AnalyzerConfig \x7b transcript_template: ".toList ++ writeOption Text.quoted config.template ++
    ", format: ".toList ++ writeOption writeFormat config.format ++ " \x7d".toList

/-- Settings. -/
def writeSettings (settings : Settings) : Text :=
  "ResolvedSettings \x7b transcript_template: ".toList ++ Text.quoted settings.template ++
    ", format: ".toList ++ writeFormat settings.format ++ " \x7d".toList

/-! ## 2. Events -/

/-- How severe an event is. -/
def level : Event → Level
  | analyzing _ => .info
  | loadedConfig _ _ => .debug
  | resolvedSettings _ => .debug
  | readingTranscript _ => .info
  | skippedLine _ _ => .trace
  | severalRecords _ _ _ => .debug
  | parsedTranscript _ _ _ _ => .info
  | noOutcomes _ => .warn
  | wroteSeries _ _ => .info

/-- The part of the program that an event comes from. -/
def origin : Event → Text
  | analyzing _ => "dhtsim_log_analyzer".toList
  | loadedConfig _ _ => "dhtsim_log_analyzer::config".toList
  | resolvedSettings _ => "dhtsim_log_analyzer".toList
  | readingTranscript _ => "dhtsim_log_analyzer::analyzer::transcript".toList
  | skippedLine _ _ => "dhtsim_log_analyzer::analyzer::transcript".toList
  | severalRecords _ _ _ => "dhtsim_log_analyzer::analyzer::transcript".toList
  | parsedTranscript _ _ _ _ => "dhtsim_log_analyzer::analyzer::transcript".toList
  | noOutcomes _ => "dhtsim_log_analyzer::analyzer::transcript".toList
  | wroteSeries _ _ => "dhtsim_log_analyzer::report".toList

/-- The wording of an event. -/
def message : Event → Text
  | analyzing k => "Analyzing run k=".toList ++ k
  | loadedConfig path config =>
    "Loaded config from ".toList ++ path ++ ": ".toList ++ writeConfig config
  | resolvedSettings settings => "Resolved settings: ".toList ++ writeSettings settings
  | readingTranscript path => "Reading transcript ".toList ++ path
  | skippedLine number text =>
    "Skipping line ".toList ++ Text.ofNat number ++ ": ".toList ++ text
  | severalRecords number count text =>
    "Line ".toList ++ Text.ofNat number ++ " matched ".toList ++ Text.ofNat count ++
      " patterns: ".toList ++ text
  | parsedTranscript lines samples successes failures =>
    "Parsed ".toList ++ Text.ofNat lines ++ " lines: ".toList ++
      Text.ofNat samples ++ " bandwidth samples, ".toList ++
      Text.ofNat successes ++ " successes, ".toList ++ Text.ofNat failures ++ " failures".toList
  | noOutcomes path => "No lookup outcomes found in ".toList ++ path
  | wroteSeries samples path =>
    "Wrote ".toList ++ Text.ofNat samples ++ " bandwidth samples to ".toList ++ path

/-- An event as a line of the log; what follows a line break is indented, and what a terminal would
take as commands is left out. -/
def logLine (e : Event) : Text :=
  let level := e.level.name
  Terminal.plain <|
    '[' :: level ++ List.replicate (5 - level.length) ' ' ++ [' '] ++ e.origin ++ [']', ' '] ++
      Text.indentBreaks [' ', ' ', ' ', ' '] e.message ++ ['\n']

end Event

/-- The log lines of the events that a filter shows. -/
def logText (filter : LogFilter) (events : List Event) : Text :=
  (events.filter fun e => filter.shows e.origin e.level e.message).flatMap Event.logLine

end LookupLog
