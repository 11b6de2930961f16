import LookupLog.Proofs.Report.Series
import LookupLog.Proofs.Run.AllOrNothing
import LookupLog.Proofs.Run.Formats
import LookupLog.Proofs.Run.Frame
import LookupLog.Proofs.Transcript.Order

/-!
# The series of a run

From the sample lines of the transcript to the file for the series and back:

* `Transcript.recordsSamples_of_reads`: a transcript holds the samples of its sample lines, in the
  order of the file;
* `World.writeSeries_cases`: the file for the series is created with the text of the samples, or
  nothing changes;
* `World.run_exports_series`: so after a run that succeeds that file, decoded with exact integers,
  is the list of the samples in the log, as many as the report in JSON counts.
-/

namespace LookupLog

/-! ## 1. The samples in a log -/

open Record

/-- A line about a lookup is not about a sample. -/
theorem Record.not_isSampleLine_of_isLookupLine (kind : RecordKind) (hk : kind.arity = 3)
    {a b c text : Text} (h : IsLookupLine kind.letter a b c text) :
    ¬∃ a b, IsSampleLine a b text := by
  intro hs
  obtain ⟨a', b', hs⟩ := hs
  obtain ⟨rfl, -⟩ := (isSampleLine_iff.mp hs).unique ((isLookupLine_iff kind hk).mp h)
  cases hk

namespace Transcript

/-- Lines of a log, and the samples of the sample lines among them, in their order. -/
inductive RecordsSamples : List Bytes → List Sample → Prop where
  | nil : RecordsSamples [] []
  | sample {segment : Bytes} {later : List Bytes} {line a b : Text} {s : Sample}
      {samples : List Sample} (hd : Utf8.decode? segment = some line)
      (hl : IsSampleLine a b (lineText line)) (ha : Text.toNat a = s.timestamp.toNat)
      (hb : Text.toNat b = s.value.toNat) (hr : RecordsSamples later samples) :
      RecordsSamples (segment :: later) (s :: samples)
  | other {segment : Bytes} {later : List Bytes} {line : Text} {samples : List Sample}
      (hd : Utf8.decode? segment = some line) (hn : ¬∃ a b, IsSampleLine a b (lineText line))
      (hr : RecordsSamples later samples) : RecordsSamples (segment :: later) samples

/-- **What is found on the lines are their samples.** -/
theorem recordsSamples_of_reads {path : Text} {number : Nat} {segments : List Bytes}
    {fs : List Findings} (h : Reads path number segments fs) :
    RecordsSamples segments (fs.filterMap Findings.sample) := by
  induction h with
  | nil => exact .nil
  | cons hd hl _ ih =>
    cases ofLine_eq_ok_iff.mp hl with
    | sample h ha hb => exact .sample hd h ha hb ih
    | success h _ => exact .other hd (not_isSampleLine_of_isLookupLine .success rfl h) ih
    | failure h _ => exact .other hd (not_isSampleLine_of_isLookupLine .failure rfl h) ih
    | nothing hn _ _ => exact .other hd hn ih

end Transcript

namespace World

/-! ## 2. The file for the series -/

/-- **The file for the series is created as a whole, or nothing changes.** -/
theorem writeSeries_cases (w : World) (path : Text) (samples : List Sample) :
    (∃ e, writeSeries host.toFileAccess path samples w = (.error e, w)) ∨
      ∃ store, writeSeries host.toFileAccess path samples w =
          (.ok [.wroteSeries samples.length path], { w with store }) ∧
        store.openNode path = .ok (.file (Utf8.encode (Report.series samples))) := by
  simp only [writeSeries, bind, StateT.bind]
  cases hc : w.store.create path (Utf8.encode (Report.series samples)) with
  | error e =>
    rw [host_create_of_error hc]
    exact Or.inl ⟨e, rfl⟩
  | ok store =>
    rw [host_create_of_ok hc]
    exact Or.inr ⟨store, rfl, Store.openNode_create hc⟩

/-! ## 3. Runs -/

/-- In JSON a run says what it says in any format: with the same settings and summary, and it leaves
    the same files. -/
theorem run_json {w : World} {options : Options} {settings : Settings} {t : Transcript}
    {summary : Summary} {store : Store} (hs : w.store.settings options = .ok settings)
    (ht : w.store.transcript (settings.transcriptPath options.k) = .ok t)
    (hm : Summary.ofTranscript t = .ok summary)
    (hx : w.store.withSeries options.series t.bandwidth = .ok store) :
    ((w.run { options with format := some .json }).1.result,
        (w.run { options with format := some .json }).2) =
      (.ok (), { store, printed := w.printed ++ Report.json options.k summary }) := by
  have hj : w.store.settings { options with format := some .json } =
      .ok { settings with format := .json } := by
    rw [Store.settings_of_format, hs]
    rfl
  have he : w.store.effects { options with format := some .json } =
      .ok { store, report := Report.json options.k summary } :=
    Store.effects_eq_ok_iff.mpr ⟨_, t, summary, hj, ht, hm, hx, rfl⟩
  rw [run_eq_commit, he]
  rfl

/-- **The bandwidth series survives its export.** What is written for any samples is one JSON text
    and one line feed; decoded with exact integers the text is an array with one object for each
    sample, in their order, which has exactly the two keys of a sample and its two words. After a
    run that succeeds with a path for the series, the file there is decoded to exactly the samples
    of the sample lines in the log that was read, in the order of the file. The report in JSON of
    this run counts them. -/
theorem run_exports_series :
    (∀ samples : List Sample,
      (∃ body, Report.series samples = body ++ ['\n'] ∧ body.getLast? ≠ some '\n' ∧
        JsonValue.read? body = some (.array (samples.map fun s => .object
          [("timestamp".toList, .whole s.timestamp.toNat),
            ("value".toList, .whole s.value.toNat)]))) ∧
      Report.readSeries? (Utf8.encode (Report.series samples)) = some samples ∧
      ∀ (w : World) (path : Text),
        (∃ e, writeSeries host.toFileAccess path samples w = (.error e, w)) ∨
          ∃ store, writeSeries host.toFileAccess path samples w =
              (.ok [.wroteSeries samples.length path], { w with store }) ∧
            store.openNode path = .ok (.file (Utf8.encode (Report.series samples)))) ∧
    Report.series [] = ['[', ']', '\n'] ∧
    ∀ (w : World) (options : Options) (path : Text), options.series = some path →
      (w.run options).1.result = .ok () →
      ∃ settings content samples written report,
        w.store.settings options = .ok settings ∧
        w.store.openNode (settings.transcriptPath options.k) = .ok (.file content) ∧
        Transcript.RecordsSamples (segments content) samples ∧
        (w.run options).2.store.openNode path = .ok (.file written) ∧
        Report.readSeries? written = some samples ∧
        (w.run { options with format := some .json }).1.result = .ok () ∧
        (w.run { options with format := some .json }).2 =
          { store := (w.run options).2.store, printed := w.printed ++ report } ∧
        (settings.format = .json → (w.run options).2.printed = w.printed ++ report) ∧
        Report.sampleCount? report = some samples.length := by
  refine ⟨fun samples => ⟨Report.exists_series_eq samples, Report.readSeries?_series samples,
    fun w path => writeSeries_cases w path samples⟩, rfl, fun w options path hp hr => ?_⟩
  rcases run_cases w options with ⟨e, he, -⟩ | ⟨settings, t, summary, -, hs, ht, hm, hprint, hx⟩
  · rw [hr] at he
    cases he
  obtain ⟨content, fs, hopen, hreads, rfl⟩ := Transcript.exists_reads_of_ofOpened ht
  obtain ⟨hjr, hjw⟩ := Prod.mk.inj (run_json hs ht hm hx)
  refine ⟨settings, content, _, _, _, hs, hopen, Transcript.recordsSamples_of_reads hreads, ?_,
    Report.readSeries?_series _, hjr, hjw, ?_, ?_⟩
  · rw [hp] at hx
    exact Store.openNode_create (Except.mapError_eq_ok_iff.mp hx)
  · intro hf
    rw [hprint, hf]
    rfl
  · obtain ⟨-, -, -, -, -, hcount⟩ := Summary.ofTranscript_eq_ok_iff.mp hm
    rw [Report.sampleCount?_json, hcount]
    rfl

/-- A log with a time that no double can hold and the largest value of all. -/
theorem run_exports_series_beyond_doubles :
    let samples : List Sample := [⟨1, 100⟩, ⟨9007199254740993, 18446744073709551615⟩]
    let log := Utf8.encode
      "[E] T 1 100\n[E] S 1 2 50\n[E] T 9007199254740993 18446744073709551615\n".toList
    let w : World := { store := Store.empty.place "log_k1.txt".toList (.file log) }
    let options : Options := { k := "1".toList, series := some "s.json".toList }
    (w.run options).1.result = .ok () ∧
    (w.run options).2.store.openNode "s.json".toList =
      .ok (.file (Utf8.encode (Report.series samples))) ∧
    Transcript.RecordsSamples (segments log) samples ∧
    ∃ report, (w.run { options with format := some .json }).2.printed = report ∧
      Report.sampleCount? report = some 2 := by
  intro samples log w options
  have hr : (w.run options).1.result = .ok () := by decide +kernel
  have hw : (w.run options).2.store.openNode "s.json".toList =
      .ok (.file (Utf8.encode (Report.series samples))) := by decide +kernel
  have hs : w.store.settings options =
      .ok { template := "log_k{k}.txt".toList, format := .text } := by decide +kernel
  have hl : w.store.openNode "log_k1.txt".toList = .ok (.file log) := by decide +kernel
  obtain ⟨settings, content, found, written, report, hset, hopen, hrec, hfile, hread, -, hj, -,
    hcount⟩ := run_exports_series.2.2 w options _ rfl hr
  obtain rfl := Except.ok.inj (hs.symm.trans hset)
  obtain rfl : log = content := Node.file.inj (Except.ok.inj (hl.symm.trans hopen))
  obtain rfl := Node.file.inj (Except.ok.inj (hw.symm.trans hfile))
  obtain rfl : samples = found :=
    Option.some.inj ((Report.readSeries?_series samples).symm.trans hread)
  exact ⟨hr, hw, hrec, report, by rw [hj]; rfl, hcount⟩

end World

end LookupLog
