import LookupLog.Proofs.Json.RoundTrip
import LookupLog.Report.Basic
import LookupLog.Text.Utf8
import Mathlib.Data.List.Basic

/-!
# The bandwidth series

The series is decoded with exact integers: a number has to be a whole one of 64 bits, and an object
has to have the two keys of a sample and no other. A JSON value is the series of some samples in
exactly one way (`JsonValue.samples?_eq_some_iff`), and the text of a series is one such value and a
line feed (`Report.exists_series_eq`). So what is written for some samples is read back as these
samples (`Report.readSeries?_series`).
-/

namespace LookupLog

/-! ## 1. Whole numbers -/

namespace JsonValue

/-- The number that is written with the digits of `n` alone. -/
def whole (n : Nat) : JsonValue :=
  number { negative := false, coefficient := n, exponent := 0 }

/-- A number without sign, places or exponent. -/
def whole? : JsonValue → Option Nat
  | number d => if d.negative = false ∧ d.exponent = 0 then some d.coefficient else none
  | _ => none

/-- A number of 64 bits, exactly. -/
def word? (v : JsonValue) : Option UInt64 :=
  v.whole?.bind fun n => if n < UInt64.size then some (UInt64.ofNat n) else none

theorem whole?_eq_some_iff {v : JsonValue} {n : Nat} : v.whole? = some n ↔ v = whole n := by
  constructor
  · intro h
    cases v with
    | number d =>
      obtain ⟨negative, coefficient, exponent⟩ := d
      obtain ⟨⟨rfl, rfl⟩, hn⟩ := Option.ite_none_right_eq_some.mp h
      rw [← Option.some.inj hn]
      rfl
    | _ => cases h
  · rintro rfl
    rfl

/-- **Every word has one number that is read as it**, up to the largest. -/
theorem word?_eq_some_iff {v : JsonValue} {w : UInt64} : v.word? = some w ↔ v = whole w.toNat := by
  rw [word?, Option.bind_eq_some_iff]
  constructor
  · intro h
    obtain ⟨n, hv, hn⟩ := h
    obtain ⟨hlt, hw⟩ := Option.ite_none_right_eq_some.mp hn
    rw [whole?_eq_some_iff.mp hv, ← Option.some.inj hw, UInt64.toNat_ofNat', Nat.mod_eq_of_lt hlt]
  · intro h
    refine ⟨w.toNat, whole?_eq_some_iff.mpr h, ?_⟩
    rw [if_pos w.toNat_lt_size, UInt64.ofNat_toNat]

/-! ## 2. Samples -/

/-- The object of a sample. -/
def ofSample (s : Sample) : JsonValue :=
  object [("timestamp".toList, whole s.timestamp.toNat), ("value".toList, whole s.value.toNat)]

/-- The sample that an object with exactly its two keys denotes. -/
def sample? : JsonValue → Option Sample
  | object [(key, timestamp), (key', value)] =>
    if key = "timestamp".toList ∧ key' = "value".toList then do
      return { timestamp := ← timestamp.word?, value := ← value.word? }
    else none
  | _ => none

/-- The samples that an array denotes, item by item. -/
def samples? : JsonValue → Option (List Sample)
  | array items => items.mapM sample?
  | _ => none

/-- Only the object of a sample is read as it. -/
theorem sample?_eq_some_iff {v : JsonValue} {s : Sample} : v.sample? = some s ↔ v = ofSample s := by
  constructor
  · intro h
    unfold sample? at h
    split at h
    · rename_i key timestamp key' value
      obtain ⟨⟨rfl, rfl⟩, hw⟩ := Option.ite_none_right_eq_some.mp h
      simp only [Option.bind_eq_bind, Option.bind_eq_some_iff, word?_eq_some_iff] at hw
      obtain ⟨t, rfl, u, rfl, hs⟩ := hw
      cases hs
      rfl
    · cases h
  · rintro rfl
    rw [ofSample, sample?, if_pos ⟨rfl, rfl⟩, word?_eq_some_iff.mpr rfl, word?_eq_some_iff.mpr rfl]
    rfl

/-- **Only the array of the objects of some samples is read as them**, in their order. -/
theorem samples?_eq_some_iff {v : JsonValue} {samples : List Sample} :
    v.samples? = some samples ↔ v = array (samples.map ofSample) := by
  have hitems : ∀ items : List JsonValue,
      items.mapM sample? = some samples ↔ items = samples.map ofSample := by
    intro items
    induction items generalizing samples with
    | nil => cases samples <;> simp
    | cons item items ih =>
      simp only [List.mapM_cons, Option.bind_eq_bind, Option.bind_eq_some_iff, Option.pure_def,
        Option.some.injEq, sample?_eq_some_iff, ih]
      cases samples with
      | nil => simp
      | cons s samples => simp
  constructor
  · intro h
    cases v with
    | array items => rw [(hitems items).mp h]
    | _ => cases h
  · rintro rfl
    exact (hitems _).mpr rfl

end JsonValue

/-! ## 3. The series -/

namespace Report

open JsonValue

/-- The samples in the content of a file that holds a series. -/
def readSeries? (content : Bytes) : Option (List Sample) :=
  ((Utf8.decode? content).bind JsonValue.read?).bind samples?

theorem itemsAsRead_points (samples : List Sample) :
    Json.itemsAsRead (samples.map point) = samples.map ofSample := by
  induction samples with
  | nil => rfl
  | cons s samples ih =>
    rw [List.map_cons, Json.itemsAsRead, ih]
    rfl

/-- What is written of a list ends in its bracket. -/
theorem getLast?_write_array (level : Nat) (items : List Json) :
    ((Json.array items).write level).getLast? = some ']' := by
  cases items with
  | nil => rfl
  | cons item items => rw [Json.write, List.getLast?_concat]

/-- **A series is one JSON text and a line feed**, and the text is the array of the samples. -/
theorem exists_series_eq (samples : List Sample) :
    ∃ body, series samples = body ++ ['\n'] ∧ body.getLast? ≠ some '\n' ∧
      JsonValue.read? body = some (.array (samples.map ofSample)) := by
  refine ⟨(Json.array (samples.map point)).write 0, rfl, ?_, ?_⟩
  · rw [getLast?_write_array]
    decide
  · rw [Json.read?_write, Json.asRead, itemsAsRead_points]

/-- **The samples are read back.** -/
theorem readSeries?_series (samples : List Sample) :
    readSeries? (Utf8.encode (series samples)) = some samples := by
  rw [readSeries?, Utf8.decode?_encode, Option.bind_some, series, Json.read?_document,
    Option.bind_some, Json.asRead, itemsAsRead_points, samples?_eq_some_iff]

/-! ## 4. The number of samples -/

/-- How many samples a report in JSON says that there are. -/
def sampleCount? (report : Text) : Option Nat :=
  (JsonValue.read? report).bind fun report =>
    (report.member? "bandwidth_samples".toList).bind whole?

/-- A report says how many samples went into its summary. -/
theorem sampleCount?_json (k : Text) (s : Summary) :
    sampleCount? (json k s) = some s.bandwidthSamples := by
  have hm : (object k s).asRead.member? "bandwidth_samples".toList =
      some (whole s.bandwidthSamples) := rfl
  rw [sampleCount?, json, Json.read?_document, Option.bind_some, hm, Option.bind_some,
    whole?_eq_some_iff]

end Report

end LookupLog
