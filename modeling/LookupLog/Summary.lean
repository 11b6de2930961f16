import LookupLog.Transcript.Basic
import LookupLog.Binary64.Rounding

/-!
# Summaries

The headline numbers of a run: the mean latency of the lookups that succeeded, the mean of the
bandwidth samples, and the percentage of lookups that failed. A mean is the whole part of the
quotient plus the fraction that its remainder makes, so that only the fraction is rounded as long as
the whole part is exact.
-/

namespace LookupLog

/-- Why a summary cannot be made. -/
inductive SummaryError where
  /-- There is no record of a kind to average. -/
  | noRecords (kind : Text)
  /-- There is no lookup to take a rate of. -/
  | noOutcomes
  deriving DecidableEq

/-- The wording of an error. -/
def SummaryError.message : SummaryError → Text
  | noRecords kind => "Cannot average: transcript has no ".toList ++ kind ++ " records".toList
  | noOutcomes =>
    "Cannot compute failure rate: transcript has no success or failure records".toList

/-- The headline numbers of a run. -/
structure Summary where
  averageLatency : Binary64
  averageBandwidth : Binary64
  /-- In percent. -/
  failureRate : Binary64
  successes : Nat
  failures : Nat
  bandwidthSamples : Nat
  deriving DecidableEq

/-! ## 1. The numbers -/

/-- The exact sum of some words. -/
def total (values : List UInt64) : Nat :=
  values.foldl (fun sum value => sum + value.toNat) 0

/-- The mean of some words; the kind of record is named if there are none. -/
def mean (kind : Text) (values : List UInt64) : Except SummaryError Binary64 :=
  if values = [] then .error (.noRecords kind)
  else
    let sum := total values
    let count := values.length
    .ok (.ofNat (sum / count) + .ofNat (sum % count) / .ofNat count)

/-- The percentage of failures among all lookups; the share is rounded before it is scaled. -/
def failurePercentage (successes failures : Nat) : Except SummaryError Binary64 :=
  if successes + failures = 0 then .error .noOutcomes
  else .ok (.ofNat failures / .ofNat (successes + failures) * .ofNat 100)

/-! ## 2. The summary -/

/-- How the latencies of successful lookups are called. -/
def latencyKind : Text := "success latency".toList

/-- How the bandwidth samples are called. -/
def bandwidthKind : Text := "bandwidth".toList

/-- The summary of a transcript: latency first, then bandwidth, then the failure rate. -/
def Summary.ofTranscript (t : Transcript) : Except SummaryError Summary := do
  let averageLatency ← mean latencyKind t.successes
  let averageBandwidth ← mean bandwidthKind t.bandwidthValues
  let failureRate ← failurePercentage t.successes.length t.failures.length
  return {
    averageLatency
    averageBandwidth
    failureRate
    successes := t.successes.length
    failures := t.failures.length
    bandwidthSamples := t.bandwidth.length }

/-- What the summary of a transcript is made of. -/
theorem Summary.ofTranscript_eq_ok_iff {t : Transcript} {s : Summary} :
    ofTranscript t = .ok s ↔
      mean latencyKind t.successes = .ok s.averageLatency ∧
      mean bandwidthKind t.bandwidthValues = .ok s.averageBandwidth ∧
      failurePercentage t.successes.length t.failures.length = .ok s.failureRate ∧
      s.successes = t.successes.length ∧ s.failures = t.failures.length ∧
      s.bandwidthSamples = t.bandwidth.length := by
  obtain ⟨latency, bandwidth, rate, successes, failures, samples⟩ := s
  unfold ofTranscript
  cases mean latencyKind t.successes with
  | error e => simp [bind, Except.bind]
  | ok latency =>
    cases mean bandwidthKind t.bandwidthValues with
    | error e => simp [bind, Except.bind]
    | ok bandwidth =>
      cases failurePercentage t.successes.length t.failures.length with
      | error e => simp [bind, Except.bind]
      | ok rate => simp [bind, Except.bind, pure, Except.pure, eq_comm]

end LookupLog
