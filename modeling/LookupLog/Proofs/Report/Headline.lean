import LookupLog.Proofs.Json.RoundTrip
import LookupLog.Proofs.Summary.Finite
import LookupLog.Report.Basic

/-!
# What a report says

A `Headline` is the run and the three numbers that a report is about. Both forms of a report can be
read: the text from its end, since a run may be named by several lines, and the JSON object by its
keys. The numbers are read as decimals and rounded to the nearest double, ties to even
(`Decimal.toBinary64_eq_nearest`). Both give back the headline of the summary, bit for bit, as long
as its numbers are finite (`ofText?_text`, `ofJson?_json`).
-/

namespace LookupLog

/-- The run and the numbers of a report. -/
structure Headline where
  k : Text
  averageLatency : Binary64
  averageBandwidth : Binary64
  failureRate : Binary64
  deriving DecidableEq

/-- What a report of a summary has to say. -/
def Summary.headline (s : Summary) (k : Text) : Headline where
  k
  averageLatency := s.averageLatency
  averageBandwidth := s.averageBandwidth
  failureRate := s.failureRate

namespace Headline

/-! ## 1. Reading a text -/

/-- What stands before the last line feed of a text, and what stands behind it. -/
def lastLine? (text : Text) : Option (Text × Text) :=
  match text.reverse.dropWhile (· ≠ '\n') with
  | [] => none
  | _ :: before => some (before.reverse, (text.reverse.takeWhile (· ≠ '\n')).reverse)

/-- The number behind a label, rounded to the nearest double. -/
def numberAfter? (label line : Text) : Option Binary64 :=
  (Text.after? label line).bind fun text => (Decimal.read? text).map Decimal.toBinary64

/-- The headline of a report in four parts, each ended by a line feed. -/
def ofText? (report : Text) : Option Headline := do
  let (report, []) ← lastLine? report | none
  let (report, rate) ← lastLine? report
  let (report, bandwidth) ← lastLine? report
  let (report, latency) ← lastLine? report
  return {
    k := ← Text.after? "k= ".toList report
    averageLatency := ← numberAfter? "Average latency ".toList latency
    averageBandwidth := ← numberAfter? "Average bw  ".toList bandwidth
    failureRate := ← numberAfter? "Failure rate ".toList rate }

theorem lastLine?_append {before line : Text} (h : '\n' ∉ line) :
    lastLine? (before ++ '\n' :: line) = some (before, line) := by
  have hr : (before ++ '\n' :: line).reverse = line.reverse ++ '\n' :: before.reverse := by simp
  have hl : ∀ c ∈ line.reverse, decide (c ≠ '\n') = true := by
    intro c hc
    rw [decide_eq_true_iff]
    rintro rfl
    exact h (List.mem_reverse.mp hc)
  unfold lastLine?
  rw [hr, List.takeWhile_append_of_pos hl, List.dropWhile_append_of_pos hl]
  simp

/-- The number of a finite double is read back behind its label. -/
theorem numberAfter?_writeReal (label : Text) {x : Binary64} (h : x.IsFinite) :
    numberAfter? label (label ++ Report.writeReal x) = some x := by
  rw [numberAfter?, Text.after?_eq_some_iff.mpr rfl, Option.bind_some, Report.writeReal, if_pos h,
    Layout.write, Layout.read?_writeDecimal, Option.map_some,
    Layout.toBinary64_shown_shortest Report.numberLayout h]

theorem lineFeed_not_mem_writeReal {x : Binary64} (h : x.IsFinite) : '\n' ∉ Report.writeReal x := by
  intro hm
  rw [Report.writeReal, if_pos h] at hm
  exact absurd (Layout.isMark_of_mem_writeDecimal hm) (by decide)

/-- The lines of a report. -/
theorem text_eq (k : Text) (s : Summary) : Report.text k s =
    ((("k= ".toList ++ k) ++
      '\n' :: ("Average latency ".toList ++ Report.writeReal s.averageLatency)) ++
      '\n' :: ("Average bw  ".toList ++ Report.writeReal s.averageBandwidth)) ++
      '\n' :: ("Failure rate ".toList ++ Report.writeReal s.failureRate) ++ ['\n'] := by
  have hl : "\nAverage latency ".toList = '\n' :: "Average latency ".toList := by decide
  have hb : "\nAverage bw  ".toList = '\n' :: "Average bw  ".toList := by decide
  have hf : "\nFailure rate ".toList = '\n' :: "Failure rate ".toList := by decide
  unfold Report.text
  rw [hl, hb, hf]
  simp only [List.append_assoc, List.cons_append]

/-- A labelled number stands on one line. -/
theorem lastLine?_number {before label : Text} {x : Binary64} (hl : '\n' ∉ label)
    (h : x.IsFinite) : lastLine? (before ++ '\n' :: (label ++ Report.writeReal x)) =
      some (before, label ++ Report.writeReal x) := by
  refine lastLine?_append ?_
  rw [List.mem_append]
  rintro (hm | hm)
  · exact hl hm
  · exact lineFeed_not_mem_writeReal h hm

/-- **The text of a report says what the summary says.** -/
theorem ofText?_text (k : Text) {s : Summary} (h : s.IsFinite) :
    ofText? (Report.text k s) = some (s.headline k) := by
  unfold ofText?
  rw [text_eq, lastLine?_append (List.not_mem_nil)]
  simp only [Option.bind_eq_bind, Option.bind_some]
  rw [lastLine?_number (by decide) h.failureRate, Option.bind_some,
    lastLine?_number (by decide) h.averageBandwidth, Option.bind_some,
    lastLine?_number (by decide) h.averageLatency, Option.bind_some,
    Text.after?_eq_some_iff.mpr rfl, Option.bind_some,
    numberAfter?_writeReal _ h.averageLatency, Option.bind_some,
    numberAfter?_writeReal _ h.averageBandwidth, Option.bind_some,
    numberAfter?_writeReal _ h.failureRate, Option.bind_some]
  rfl

/-! ## 2. Reading a JSON object -/

/-- The headline of a report that is one JSON object. -/
def ofJson? (report : Text) : Option Headline := do
  let report ← JsonValue.read? report
  return {
    k := ← (report.member? "k".toList).bind JsonValue.text?
    averageLatency := ← (report.member? "average_latency".toList).bind JsonValue.double?
    averageBandwidth := ← (report.member? "average_bandwidth".toList).bind JsonValue.double?
    failureRate := ← (report.member? "failure_rate".toList).bind JsonValue.double? }

/-- **The JSON object of a report says what the summary says.** -/
theorem ofJson?_json (k : Text) {s : Summary} (h : s.IsFinite) :
    ofJson? (Report.json k s) = some (s.headline k) := by
  unfold ofJson? Report.json
  rw [Json.read?_document]
  simp only [Option.bind_eq_bind, Option.bind_some]
  have hk : (Report.object k s).asRead.member? "k".toList = some (.string k) := rfl
  have hlatency : (Report.object k s).asRead.member? "average_latency".toList =
      some (Json.real s.averageLatency).asRead := rfl
  have hbandwidth : (Report.object k s).asRead.member? "average_bandwidth".toList =
      some (Json.real s.averageBandwidth).asRead := rfl
  have hrate : (Report.object k s).asRead.member? "failure_rate".toList =
      some (Json.real s.failureRate).asRead := rfl
  rw [hk, hlatency, hbandwidth, hrate, Option.bind_some, Option.bind_some, Option.bind_some,
    Option.bind_some, Json.double?_asRead_real h.averageLatency,
    Json.double?_asRead_real h.averageBandwidth, Json.double?_asRead_real h.failureRate]
  rfl

end Headline

end LookupLog
