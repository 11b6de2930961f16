import LookupLog.Proofs.Report.Numbers
import LookupLog.Proofs.Report.Series
import LookupLog.Proofs.Summary.Finite

/-!
# A report in JSON is faithful

A report in JSON is one object of the grammar and a line feed, and as a whole it denotes this object
and nothing else (`json_faithful`). Nothing of the run or of its summary is lost: the name is read
back character by character, the counts exactly, and the three numbers as decimals that stand for
the doubles (`Decimal.RoundsTo`).
-/

namespace LookupLog.Report

open JsonGrammar JsonValue

/-- The members of a report in which some decimals stand for the three numbers. -/
def members (k : Text) (s : Summary) (latency bandwidth rate : Decimal) :
    List (Text × JsonValue) := [
  ("k".toList, .string k),
  ("average_latency".toList, .number latency),
  ("average_bandwidth".toList, .number bandwidth),
  ("failure_rate".toList, .number rate),
  ("successes".toList, whole s.successes),
  ("failures".toList, whole s.failures),
  ("bandwidth_samples".toList, whole s.bandwidthSamples)]

/-- **No key is there twice.** -/
theorem nodup_keys (k : Text) (s : Summary) (latency bandwidth rate : Decimal) :
    ((members k s latency bandwidth rate).map (·.1)).Nodup := by
  have hkeys : ["k".toList, "average_latency".toList, "average_bandwidth".toList,
      "failure_rate".toList, "successes".toList, "failures".toList,
      "bandwidth_samples".toList].Nodup := by decide
  exact hkeys

/-- What is written of an object ends in its bracket. -/
theorem getLast?_write_object (level : Nat) (members : List (Text × Json)) :
    ((Json.object members).write level).getLast? = some '\x7d' := by
  cases members with
  | nil => rfl
  | cons member members => rw [Json.write, List.getLast?_concat]

/-- **A report in JSON is a faithful encoding**, whatever the name of the run is and for all
    summaries whose numbers are finite. It is an object of the grammar and one line feed. The object
    has the seven keys, each once and in this order; it has the name as it is, the counts exactly,
    and decimals that stand for the numbers, so that rounding them gives the same doubles, also the
    same zeros. The whole report denotes this object and nothing else. -/
theorem json_faithful {s : Summary} (h : s.IsFinite) (k : Text) :
    ∃ body latency bandwidth rate,
      json k s = body ++ ['\n'] ∧ body.getLast? = some '\x7d' ∧
      IsValue body (.object (members k s latency bandwidth rate)) ∧
      ((members k s latency bandwidth rate).map (·.1)).Nodup ∧
      (∀ v, IsElement (json k s) v ↔ v = .object (members k s latency bandwidth rate)) ∧
      latency.RoundsTo s.averageLatency ∧ bandwidth.RoundsTo s.averageBandwidth ∧
      rate.RoundsTo s.failureRate := by
  have hread : (object k s).asRead = .object (members k s
      (Json.numberLayout.shown (s.averageLatency.shortest Json.numberLayout.tie))
      (Json.numberLayout.shown (s.averageBandwidth.shortest Json.numberLayout.tie))
      (Json.numberLayout.shown (s.failureRate.shortest Json.numberLayout.tie))) := by
    unfold object members
    simp only [Json.asRead, Json.membersAsRead, if_pos h.averageLatency,
      if_pos h.averageBandwidth, if_pos h.failureRate]
    rfl
  have hdocument := Json.isElement_document (object k s)
  refine ⟨(object k s).write 0, _, _, _, rfl, getLast?_write_object 0 _,
    hread ▸ Json.isValue_write 0 (object k s), nodup_keys .., fun v => ?_,
    Json.numberLayout.roundsTo_shown h.averageLatency,
    Json.numberLayout.roundsTo_shown h.averageBandwidth,
    Json.numberLayout.roundsTo_shown h.failureRate⟩
  rw [← hread]
  constructor
  · intro hv
    exact eq_of_isElement hv hdocument
  · rintro rfl
    exact hdocument

/-- A name with a quote, a backslash, a control character and line breaks; a negative zero, the
    least positive double, and the greatest count. -/
theorem json_faithful_extremes :
    let k := "8\"\\\x01\r\n\u2028".toList
    let s : Summary := {
      averageLatency := .ofBits 0x8000000000000000
      averageBandwidth := .ofBits 1
      failureRate := .ofBits 0x4040aaaaaaaaaaab
      successes := 0xffffffffffffffff
      failures := 0
      bandwidthSamples := 1 }
    s.IsFinite ∧
    json k s =
      "\x7b\n  \"k\": \"8\\\"\\\\\\u0001\\r\\n\u2028\",\n  \"average_latency\": -0.0,\n".toList ++
      "  \"average_bandwidth\": 5e-324,\n  \"failure_rate\": 33.333333333333336,\n".toList ++
      "  \"successes\": 18446744073709551615,\n  \"failures\": 0,\n".toList ++
      "  \"bandwidth_samples\": 1\n\x7d\n".toList ∧
    ∃ body latency bandwidth rate,
      json k s = body ++ ['\n'] ∧ IsValue body (.object (members k s latency bandwidth rate)) ∧
      latency.RoundsTo s.averageLatency ∧ bandwidth.RoundsTo s.averageBandwidth ∧
      rate.RoundsTo s.failureRate := by
  intro k s
  have hs : s.IsFinite := ⟨by decide, by decide, by decide⟩
  obtain ⟨body, latency, bandwidth, rate, he, -, hv, -, -, hl, hb, hr⟩ := json_faithful hs k
  exact ⟨hs, by decide +kernel, body, latency, bandwidth, rate, he, hv, hl, hb, hr⟩

end LookupLog.Report
