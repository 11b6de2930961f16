import LookupLog.Log.Event
import LookupLog.Transcript.Lines
import LookupLog.Transcript.Record

/-!
# Reading a transcript

A transcript is read in one pass. The first line that cannot be read, or whose numbers are too
large, ends the pass with an error and nothing else is returned.
-/

namespace LookupLog

/-- A line that was read and what was found on it. -/
structure ReadLine where
  line : Line
  findings : Findings
  deriving DecidableEq

/-- What is reported of a line: that it has no record, or that it has several. -/
def ReadLine.events (l : ReadLine) : List Event :=
  if l.findings.isEmpty then [.skippedLine l.line.number l.line.text]
  else if 1 < l.findings.count then
    [.severalRecords l.line.number l.findings.count l.line.text]
  else []

namespace LineReader

/-- The lines that are left, up to the first error, after those already read in reverse. -/
def readFrom (r : LineReader) (done : List ReadLine) : List ReadLine × Option TranscriptError :=
  match _h : r.next with
  | (.error e, _) => (done.reverse, some e)
  | (.ok none, _) => (done.reverse, none)
  | (.ok (some line), r') =>
    match Findings.ofLine line.number line.text with
    | .error e => (done.reverse, some e)
    | .ok findings => readFrom r' ({ line, findings } :: done)
termination_by r.size
decreasing_by exact size_next_lt _h

end LineReader

namespace Transcript

/-- The events at the end of a pass. -/
def closing (path : Text) (t : Transcript) : List Event :=
  .parsedTranscript t.linesRead t.bandwidth.length t.successes.length t.failures.length ::
    if t.outcomeCount = 0 then [.noOutcomes path] else []

/-- The transcript in what was opened at a path, and the events of reading it. -/
def ofOpened (path : Text) (opened : Except FileError Node) :
    Except TranscriptError Transcript × List Event :=
  match opened with
  | .error cause => (.error (.cannotOpen path cause), [.readingTranscript path])
  | .ok node =>
    match (LineReader.start path node).readFrom [] with
    | (lines, some e) => (.error e, .readingTranscript path :: lines.flatMap ReadLine.events)
    | (lines, none) =>
      let t := ofFindings (lines.map ReadLine.findings)
      (.ok t, .readingTranscript path :: lines.flatMap ReadLine.events ++ closing path t)

end Transcript

end LookupLog
