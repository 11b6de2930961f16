import LookupLog.Json.Basic
import LookupLog.Report.Format
import LookupLog.Summary

/-!
# Reports

A report shows the identifier of a run and its summary, as four lines of text or as one JSON object.
The bandwidth series is a JSON array with one object per sample.
-/

namespace LookupLog.Report

/-! ## 1. The text report -/

/-- Numbers from 10^-4 up to 10^16 are written in full, and ties go away from zero. -/
def numberLayout : Layout where
  tie := .outward
  inFull exponent := -4 ≤ exponent ∧ exponent < 16
  exponentWidth := 2

/-- A double in a text report. -/
def writeReal (x : Binary64) : Text :=
  if x.IsFinite then numberLayout.write x
  else if x.IsNaN then "NaN".toList
  else if x.negative then "-inf".toList
  else "inf".toList

/-- The report in four lines. -/
def text (k : Text) (s : Summary) : Text :=
  "k= ".toList ++ k ++
  "\nAverage latency ".toList ++ writeReal s.averageLatency ++
  "\nAverage bw  ".toList ++ writeReal s.averageBandwidth ++
  "\nFailure rate ".toList ++ writeReal s.failureRate ++ ['\n']

/-! ## 2. The JSON report -/

/-- The report as a JSON object. -/
def object (k : Text) (s : Summary) : Json :=
  .object [
    ("k".toList, .string k),
    ("average_latency".toList, .real s.averageLatency),
    ("average_bandwidth".toList, .real s.averageBandwidth),
    ("failure_rate".toList, .real s.failureRate),
    ("successes".toList, .count s.successes),
    ("failures".toList, .count s.failures),
    ("bandwidth_samples".toList, .count s.bandwidthSamples)]

/-- The report as JSON text. -/
def json (k : Text) (s : Summary) : Text :=
  (object k s).document

/-! ## 3. Both -/

/-- The report in a format. -/
def render : ReportFormat → (k : Text) → Summary → Text
  | .text => text
  | .json => json

/-! ## 4. The bandwidth series -/

/-- A sample as a JSON object. -/
def point (s : Sample) : Json :=
  .object [
    ("timestamp".toList, .count s.timestamp.toNat),
    ("value".toList, .count s.value.toNat)]

/-- The samples as JSON text, in their order. -/
def series (samples : List Sample) : Text :=
  (Json.array (samples.map point)).document

end LookupLog.Report
