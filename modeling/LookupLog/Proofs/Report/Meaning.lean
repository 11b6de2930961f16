import LookupLog.Proofs.Report.Forms
import LookupLog.Proofs.Summary.FailureRate
import LookupLog.Proofs.Summary.MeanOrder

/-!
# A report is never meaningless

A transcript has a summary unless it lacks a success or a sample (`exists_ofTranscript`). Every
number of a summary is finite and has no sign, averages are within 64 bits, and the failure rate
stays below 100, since a summary needs a success (`describes_of_ofTranscript`). So what stands for a
number in a report of either form is a decimal without a sign (`shows_writeNumber`): no report says
that a number is missing, infinite or a negative zero, although both forms can say so
(`ofTranscript_meaningful`).
-/

namespace LookupLog

open Binary64

/-! ## 1. Which transcripts have a summary -/

namespace Summary

variable {t : Transcript}

theorem ofTranscript_of_no_success (h : t.successes = []) :
    ofTranscript t = .error (.noRecords latencyKind) := by
  unfold ofTranscript
  rw [h]
  rfl

theorem ofTranscript_of_no_sample (hs : t.successes ≠ []) (hb : t.bandwidth = []) :
    ofTranscript t = .error (.noRecords bandwidthKind) := by
  unfold ofTranscript Transcript.bandwidthValues
  rw [mean_eq_ok latencyKind hs, hb]
  rfl

/-- **A success and a sample are enough.** -/
theorem exists_ofTranscript (hs : t.successes ≠ []) (hb : t.bandwidth ≠ []) :
    ∃ s, ofTranscript t = .ok s := by
  have hlookups : 0 < t.successes.length + t.failures.length :=
    Nat.add_pos_left (List.length_pos_iff.mpr hs) _
  have hvalues : t.bandwidthValues ≠ [] := mt List.map_eq_nil_iff.mp hb
  refine ⟨⟨_, _, _, t.successes.length, t.failures.length, t.bandwidth.length⟩,
    ofTranscript_eq_ok_iff.mpr ⟨mean_eq_ok latencyKind hs, mean_eq_ok bandwidthKind hvalues,
      failurePercentage_eq_ok hlookups, rfl, rfl, rfl⟩⟩

/-- **The first thing that is missing is the error**, and nothing else is one. -/
theorem ofTranscript_eq_error_iff {e : SummaryError} :
    ofTranscript t = .error e ↔
      t.successes = [] ∧ e = .noRecords latencyKind ∨
      (t.successes ≠ [] ∧ t.bandwidth = []) ∧ e = .noRecords bandwidthKind := by
  by_cases hs : t.successes = []
  · rw [ofTranscript_of_no_success hs, Except.error.injEq]
    simp only [hs, true_and, ne_eq, not_true_eq_false, false_and, or_false, eq_comm]
  · by_cases hb : t.bandwidth = []
    · rw [ofTranscript_of_no_sample hs hb, Except.error.injEq]
      simp only [hs, hb, false_and, false_or, ne_eq, not_false_eq_true, and_self, true_and, eq_comm]
    · obtain ⟨s, he⟩ := exists_ofTranscript hs hb
      rw [he]
      simp only [hs, hb, false_and, and_false, or_self, reduceCtorEq]

/-! ## 2. The numbers of a summary -/

/-- The three numbers, in the order of a report. -/
def numbers (s : Summary) : List Binary64 :=
  [s.averageLatency, s.averageBandwidth, s.failureRate]

/-- What a summary says about a transcript makes sense. -/
structure Describes (s : Summary) (t : Transcript) : Prop where
  finite : ∀ x ∈ s.numbers, x.IsFinite
  /-- None of the numbers is negative, nor a negative zero. -/
  unsigned : ∀ x ∈ s.numbers, x.negative = false
  latency_le : s.averageLatency.value ≤ 2 ^ 64
  bandwidth_le : s.averageBandwidth.value ≤ 2 ^ 64
  rate_nonneg : 0 ≤ s.failureRate.value
  rate_lt : s.failureRate.value < 100
  rate_eq_zero_iff : s.failureRate.value = 0 ↔ t.failures = []
  successes_eq : s.successes = t.successes.length
  failures_eq : s.failures = t.failures.length
  samples_eq : s.bandwidthSamples = t.bandwidth.length

end Summary

/-- **A mean of words is within 64 bits**, and not a negative zero. -/
theorem mean_within {kind : Text} {values : List UInt64} {x : Binary64}
    (h : mean kind values = .ok x) : x.negative = false ∧ x.value ≤ 2 ^ 64 := by
  constructor
  · obtain ⟨-, rfl⟩ := sumOfParts_of_mean h
    exact negative_sumOfParts
  · have hbound := mean_le_value_ofNat h (fun v _ => v.toNat_lt.le) (Nat.le_refl _)
    have hword : (Binary64.ofNat (2 ^ 64)).value = (2 ^ 64 : Nat) :=
      value_nearest_of_isDouble isDouble_wordSize (Nat.cast_nonneg _)
    rw [hword] at hbound
    exact_mod_cast hbound

/-- **A failure rate is below 100 if there is a success**, and zero only without failures. -/
theorem failurePercentage_within {successes failures : Nat} {x : Binary64}
    (h : failurePercentage successes failures = .ok x) (hs : 0 < successes)
    (hl : successes + failures ≤ 2 ^ 53) :
    x.negative = false ∧ 0 ≤ x.value ∧ x.value < 100 ∧ (x.value = 0 ↔ failures = 0) := by
  have hle := Nat.le_add_left failures successes
  have hlt : failures < successes + failures := Nat.lt_add_of_pos_left hs
  obtain rfl : percentage failures (successes + failures) = x :=
    Except.ok.inj ((failurePercentage_eq_ok (Nat.add_pos_left hs failures)).symm.trans h)
  obtain ⟨hsign, hlow, -⟩ := percentage_bounds hle
  exact ⟨hsign, hlow, percentage_lt_hundred hlt hl, value_percentage_eq_zero_iff hle hl⟩

/-- **A summary makes sense**, up to 2^53 lookups. -/
theorem Summary.describes_of_ofTranscript {t : Transcript} {s : Summary}
    (hl : t.successes.length + t.failures.length ≤ 2 ^ 53) (h : ofTranscript t = .ok s) :
    s.Describes t := by
  have hfinite := isFinite_of_ofTranscript h
  obtain ⟨hlatency, hbandwidth, hrate, hs, hf, hb⟩ := ofTranscript_eq_ok_iff.mp h
  obtain ⟨hne, -⟩ := sumOfParts_of_mean hlatency
  obtain ⟨hlatency_sign, hlatency_le⟩ := mean_within hlatency
  obtain ⟨hbandwidth_sign, hbandwidth_le⟩ := mean_within hbandwidth
  obtain ⟨hrate_sign, hnonneg, hlt, hzero⟩ :=
    failurePercentage_within hrate (List.length_pos_iff.mpr hne) hl
  have hall : ∀ P : Binary64 → Prop, P s.averageLatency → P s.averageBandwidth →
      P s.failureRate → ∀ x ∈ s.numbers, P x := by
    intro P h1 h2 h3
    exact List.forall_mem_cons.mpr
      ⟨h1, List.forall_mem_cons.mpr ⟨h2, List.forall_mem_singleton.mpr h3⟩⟩
  exact {
    finite := hall _ hfinite.averageLatency hfinite.averageBandwidth hfinite.failureRate
    unsigned := hall (·.negative = false) hlatency_sign hbandwidth_sign hrate_sign
    latency_le := hlatency_le
    bandwidth_le := hbandwidth_le
    rate_nonneg := hnonneg
    rate_lt := hlt
    rate_eq_zero_iff := hzero.trans List.length_eq_zero_iff
    successes_eq := hs
    failures_eq := hf
    samples_eq := hb }

/-! ## 3. Numbers in a report -/

namespace Report

/-- How a number is written in a report. -/
def writeNumber : ReportFormat → Binary64 → Text
  | .text => writeReal
  | .json => Json.writeReal

/-- A member of a report in JSON, which has a line of its own. -/
def memberLine (key shown : Text) : Text :=
  Json.newLine 1 ++ Json.writeString key ++ [':', ' '] ++ shown

/-- A report in which some texts stand for the three numbers. -/
def withNumbers (k : Text) (s : Summary) (latency bandwidth rate : Text) : ReportFormat → Text
  | .text =>
    "k= ".toList ++ k ++ "\nAverage latency ".toList ++ latency ++
      "\nAverage bw  ".toList ++ bandwidth ++ "\nFailure rate ".toList ++ rate ++ ['\n']
  | .json =>
    '\x7b' :: memberLine "k".toList (Json.writeString k) ++
      ',' :: memberLine "average_latency".toList latency ++
      ',' :: memberLine "average_bandwidth".toList bandwidth ++
      ',' :: memberLine "failure_rate".toList rate ++
      ',' :: memberLine "successes".toList (Text.ofNat s.successes) ++
      ',' :: memberLine "failures".toList (Text.ofNat s.failures) ++
      ',' :: memberLine "bandwidth_samples".toList (Text.ofNat s.bandwidthSamples) ++
      ['\n', '\x7d', '\n']

/-- **Where the numbers stand in a report**, in either form. -/
theorem render_eq_withNumbers (format : ReportFormat) (k : Text) (s : Summary) :
    render format k s = withNumbers k s (writeNumber format s.averageLatency)
      (writeNumber format s.averageBandwidth) (writeNumber format s.failureRate) format := by
  cases format with
  | text => rfl
  | json =>
    have h0 : Json.newLine 0 = ['\n'] := rfl
    unfold render json Json.document object withNumbers writeNumber memberLine
    simp only [Json.write, Json.writeMembers, h0, List.append_assoc, List.cons_append,
      List.nil_append, List.append_nil]

/-- A text shows a number: it is a decimal without a sign that stands for the number. -/
def Shows (shown : Text) (x : Binary64) : Prop :=
  ∃ d, Decimal.read? shown = some d ∧ d.negative = false ∧ d.RoundsTo x

/-- What the two forms of a report have for a missing number, for infinity and for a negative zero.
    -/
def meaningless : List Text :=
  ["null".toList, "NaN".toList, "inf".toList, "-inf".toList, "-0.0".toList]

/-- **Finite numbers without a sign are shown**, in either form. -/
theorem shows_writeNumber (format : ReportFormat) {x : Binary64} (hx : x.IsFinite)
    (hn : x.negative = false) : Shows (writeNumber format x) x := by
  have hlayout : ∀ layout : Layout, Shows (layout.write x) x := by
    intro layout
    refine ⟨_, layout.read?_writeDecimal _, ?_, layout.roundsTo_shown hx⟩
    rw [layout.negative_shown, negative_shortest, hn]
  cases format with
  | text =>
    have hw : writeNumber .text x = numberLayout.write x := if_pos hx
    exact hw ▸ hlayout _
  | json =>
    have hw : writeNumber .json x = Json.numberLayout.write x := if_pos hx
    exact hw ▸ hlayout _

namespace Shows

variable {shown : Text} {x : Binary64}

/-- Nothing meaningless shows a number. -/
theorem not_mem_meaningless (h : Shows shown x) : shown ∉ meaningless := by
  have hall : ∀ text ∈ meaningless, ∀ d ∈ Decimal.read? text, d.negative = true := by decide
  obtain ⟨d, hr, hn, -⟩ := h
  intro hm
  rw [hall shown hm d hr] at hn
  cases hn

/-- A number below 100 is not shown as 100. -/
theorem ne_hundred (h : Shows shown x) (hx : x.value < 100) : shown ≠ "100.0".toList := by
  rintro rfl
  obtain ⟨d, hr, hn, hd⟩ := h
  have hread : Decimal.read? "100.0".toList = some ⟨false, 1000, -1⟩ := by decide
  obtain rfl := Option.some.inj (hread.symm.trans hr)
  have hlt := hd.value_lt hn isDouble_hundred hx
  norm_num [Decimal.value] at hlt

end Shows

/-! ## 4. Reports of transcripts -/

/-- **A report of a transcript is never meaningless.** Without a success there is no summary, and
    without a sample there is none either, with an error that names what is missing; in all other
    cases there is one, and the rate is never what is missing. It describes the transcript, up to
    2^53 lookups and for any number of samples, and each of its numbers is shown in both forms of
    the report: as a decimal, and not as a missing number, as infinity or as a negative zero. The
    failure rate is not shown as 100. -/
theorem ofTranscript_meaningful {t : Transcript}
    (hl : t.successes.length + t.failures.length ≤ 2 ^ 53) :
    (Summary.ofTranscript t = .error (.noRecords latencyKind) ↔ t.successes = []) ∧
    (Summary.ofTranscript t = .error (.noRecords bandwidthKind) ↔
      t.successes ≠ [] ∧ t.bandwidth = []) ∧
    Summary.ofTranscript t ≠ .error .noOutcomes ∧
    (t.successes ≠ [] ∧ t.bandwidth ≠ [] →
      ∃ s, Summary.ofTranscript t = .ok s ∧ s.Describes t ∧
        ∀ format k,
          render format k s = withNumbers k s (writeNumber format s.averageLatency)
            (writeNumber format s.averageBandwidth) (writeNumber format s.failureRate) format ∧
          (∀ x ∈ s.numbers,
            Shows (writeNumber format x) x ∧ writeNumber format x ∉ meaningless) ∧
          writeNumber format s.failureRate ≠ "100.0".toList) := by
  have hkinds : SummaryError.noRecords latencyKind ≠ .noRecords bandwidthKind := by decide
  refine ⟨?_, ?_, ?_, fun h => ?_⟩
  · rw [Summary.ofTranscript_eq_error_iff]
    simp only [hkinds, and_true, and_false, or_false]
  · rw [Summary.ofTranscript_eq_error_iff]
    simp only [hkinds.symm, and_true, and_false, false_or]
  · rw [Ne, Summary.ofTranscript_eq_error_iff]
    simp only [reduceCtorEq, and_false, or_self, not_false_eq_true]
  · obtain ⟨s, hs⟩ := Summary.exists_ofTranscript h.1 h.2
    have hd := Summary.describes_of_ofTranscript hl hs
    have hshows : ∀ format, ∀ x ∈ s.numbers, Shows (writeNumber format x) x := fun format x hx =>
      shows_writeNumber format (hd.finite x hx) (hd.unsigned x hx)
    have hrate : s.failureRate ∈ s.numbers := by
      unfold Summary.numbers
      simp
    exact ⟨s, hs, hd, fun format k => ⟨render_eq_withNumbers format k s,
      fun x hx => ⟨hshows format x hx, (hshows format x hx).not_mem_meaningless⟩,
      (hshows format _ hrate).ne_hundred hd.rate_lt⟩⟩

/-- One lookup, which took the longest time that a record can have. -/
theorem ofTranscript_meaningful_longest :
    let t : Transcript := {
      bandwidth := [⟨1, 0⟩], successes := [0xffffffffffffffff], failures := [], linesRead := 2 }
    t.successes.length + t.failures.length ≤ 2 ^ 53 ∧ t.successes ≠ [] ∧ t.bandwidth ≠ [] ∧
    ∃ s, Summary.ofTranscript t = .ok s ∧ s.Describes t ∧
      render .text "8".toList s =
        "k= 8\nAverage latency 1.8446744073709552e+19\nAverage bw  0.0\nFailure rate 0.0\n".toList ∧
      Shows (writeNumber .json s.averageLatency) s.averageLatency := by
  intro t
  have hl : t.successes.length + t.failures.length ≤ 2 ^ 53 := by decide
  have hs : t.successes ≠ [] := by decide
  have hb : t.bandwidth ≠ [] := by decide
  have hv : Summary.ofTranscript t = .ok ⟨.ofBits 0x43f0000000000000, .zero, .zero, 1, 0, 1⟩ := by
    decide +kernel
  obtain ⟨-, -, -, hok⟩ := ofTranscript_meaningful hl
  obtain ⟨s, he, hd, hshown⟩ := hok ⟨hs, hb⟩
  obtain rfl := Except.ok.inj (he.symm.trans hv)
  obtain ⟨-, hnumbers, -⟩ := hshown .json []
  exact ⟨hl, hs, hb, _, he, hd, by decide +kernel, (hnumbers _ List.mem_cons_self).1⟩

end Report

end LookupLog
