import LookupLog.Config.Reading
import LookupLog.Options.Basic
import LookupLog.Report.Basic
import LookupLog.Transcript.Reading

/-!
# Runs

A run loads the configuration, settles the settings, reads the transcript, summarises it, writes the
bandwidth series and prints the report, in this order. The first stage that fails ends it. What a
run does to its surroundings goes through a `Host`, for any monad `m`.

A file that was created can be written: a host creates a file together with its content, or not at
all. So a series fails with its creation only. That a device refuses what is written to it
afterwards (a full one, say) has no counterpart here, and neither have the messages for it, `Failed
to serialize bandwidth series` and `Failed to write series file`.
-/

namespace LookupLog

/-! ## 1. Outcomes -/

/-- Why a run failed. -/
inductive RunError where
  | config (e : ConfigError)
  | transcript (e : TranscriptError)
  /-- The transcript at a path has no summary. -/
  | summary (path : Text) (e : SummaryError)
  /-- The file for the series cannot be created. -/
  | series (path : Text) (cause : FileError)
  deriving DecidableEq

namespace RunError

/-- The wording of an error. -/
def message : RunError → Text
  | config e => e.message
  | transcript e => e.message
  | summary path _ => "Cannot summarise ".toList ++ path
  | series path _ => "Failed to create series file ".toList ++ path

/-- The wording of what caused an error. -/
def cause? : RunError → Option Text
  | config _ => none
  | transcript (.cannotOpen _ cause) => some cause.message
  | transcript (.cannotRead _ _ cause) => some cause.message
  | transcript (.numberTooLarge _ _) => some "number too large to fit in target type".toList
  | summary _ e => some e.message
  | series _ cause => some cause.message

end RunError

/-- How a run ended, and the events on the way to that. -/
structure Outcome where
  result : Except RunError Unit
  events : List Event

/-- Why the run failed, if it did. -/
def Outcome.error? (o : Outcome) : Option RunError :=
  match o.result with
  | .ok () => none
  | .error e => some e

/-! ## 2. Stages -/

/-- What a run needs of its surroundings: files, and somewhere to print. -/
structure Host (m : Type → Type) extends FileAccess m where
  /-- Prints a text on the standard output. -/
  print : (text : Text) → m Unit

variable {m : Type → Type} [Monad m]

/-- The configuration at a path, and the events of loading it; the empty one without a path. -/
def loadConfig (files : FileAccess m) (path : Option Text) :
    m (Except ConfigError Config × List Event) :=
  match path with
  | none => return (.ok {}, [])
  | some path => do
    let opened ← files.openNode path
    match Config.ofOpened path opened with
    | .error e => return (.error e, [])
    | .ok config => return (.ok config, [.loadedConfig path config])

/-- The transcript at a path, and the events of reading it. -/
def readTranscript (files : FileAccess m) (path : Text) :
    m (Except TranscriptError Transcript × List Event) :=
  return Transcript.ofOpened path (← files.openNode path)

/-- Writes the bandwidth series to a path, which fails only if the file cannot be created. -/
def writeSeries (files : FileAccess m) (path : Text) (samples : List Sample) :
    m (Except FileError (List Event)) := do
  match ← files.create path (Utf8.encode (Report.series samples)) with
  | .error cause => return .error cause
  | .ok () => return .ok [.wroteSeries samples.length path]

/-- Writes the bandwidth series, if a path for it is given. -/
def exportSeries (files : FileAccess m) (path : Option Text) (samples : List Sample) :
    m (Except RunError (List Event)) :=
  match path with
  | none => return .ok []
  | some path => do
    match ← writeSeries files path samples with
    | .error cause => return .error (.series path cause)
    | .ok events => return .ok events

/-! ## 3. The run -/

/-- Reads the transcript and prints its report, with settings that are fixed. -/
def report (host : Host m) (options : Options) (settings : Settings) : m Outcome := do
  let path := settings.transcriptPath options.k
  let (transcript, events) ← readTranscript host.toFileAccess path
  match transcript with
  | .error e => return { result := .error (.transcript e), events }
  | .ok t =>
    match Summary.ofTranscript t with
    | .error e => return { result := .error (.summary path e), events }
    | .ok summary =>
      match ← exportSeries host.toFileAccess options.series t.bandwidth with
      | .error e => return { result := .error e, events }
      | .ok written =>
        host.print (Report.render settings.format options.k summary)
        return { result := .ok (), events := events ++ written }

/-- Carries out what some options ask for. -/
def run (host : Host m) (options : Options) : m Outcome := do
  let (config, loaded) ← loadConfig host.toFileAccess options.config
  match config with
  | .error e => return { result := .error (.config e), events := loaded }
  | .ok config =>
    match Settings.resolve options.template options.format config with
    | .error e => return { result := .error (.config e), events := loaded }
    | .ok settings =>
      let outcome ← report host options settings
      return { outcome with events := loaded ++ .resolvedSettings settings :: outcome.events }

end LookupLog
