import LookupLog.Options.Help
import LookupLog.Options.Parsing
import LookupLog.Run.Basic

/-!
# Executing the program

The exit code is 0 after a run that succeeded or after help, 1 after a run that failed, and 2 after
a command line that was refused. The log and the error go to the standard error, and everything else
that is shown is printed while the program runs.
-/

namespace LookupLog

/-- What an execution leaves behind, apart from the files and what was printed. -/
structure Execution where
  exitCode : Nat
  stderr : Text
  deriving DecidableEq

namespace Execution

/-- What is shown without a setting: warnings of everything, and how this program proceeds. -/
def standardFilter : LogFilter where
  directives := [
    { scope := none, threshold := Level.warn.rank },
    { scope := some "dhtsim_log_analyzer".toList, threshold := Level.info.rank }]

/-- The filter for a setting of the user. -/
def filterFor (setting : Text) : LogFilter :=
  { (LogSetting.directives setting).foldl LogFilter.add standardFilter with
    pattern := LogSetting.pattern setting }

/-- A warning for every fault of the setting. -/
def warningText (setting : Text) : Text :=
  (LogSetting.faults setting).flatMap fun fault =>
    "warning: ".toList ++ fault.message ++ ", ignoring it\n".toList

/-- An error with what caused it. -/
def errorText (e : RunError) : Text :=
  "Error: ".toList ++ e.message ++ ['\n'] ++
    match e.cause? with
    | none => []
    | some cause =>
      let margin := [' ', ' ', ' ', ' ']
      "\nCaused by:\n".toList ++ margin ++ Text.indentBreaks margin cause ++ ['\n']

/-- What a command line that does not lead to a run prints. -/
def reply : Stop → Text
  | .help full => if full then Help.full else Help.short
  | .version => Help.version
  | .usage _ => []

/-- The execution of a command line that does not lead to a run. -/
def ofStop : Stop → Execution
  | .help _ => { exitCode := 0, stderr := [] }
  | .version => { exitCode := 0, stderr := [] }
  | .usage e => { exitCode := 2, stderr := Help.refusal e }

/-- The execution of a run. -/
def ofOutcome (filter : LogFilter) (k : Text) (o : Outcome) : Execution :=
  let log := logText filter (.analyzing k :: o.events)
  match o.result with
  | .ok () => { exitCode := 0, stderr := log }
  | .error e => { exitCode := 1, stderr := log ++ errorText e }

/-- The execution with a text shown on the standard error before everything else. -/
def precededBy (warnings : Text) (e : Execution) : Execution :=
  { e with stderr := warnings ++ e.stderr }

end Execution

/-- The whole program: the setting of its log, which is empty if there is none, and its arguments.
The setting is read first. -/
def execute {m : Type → Type} [Monad m] (host : Host m) (logSetting : Text)
    (arguments : List Text) : m Execution := do
  let warnings := Execution.warningText logSetting
  match Options.ofArguments arguments with
  | .error stop =>
    host.print (Execution.reply stop)
    return (Execution.ofStop stop).precededBy warnings
  | .ok options =>
    let outcome ← run host options
    let filter := Execution.filterFor logSetting
    return (Execution.ofOutcome filter options.k outcome).precededBy warnings

end LookupLog
