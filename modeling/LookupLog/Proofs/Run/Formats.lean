import LookupLog.Proofs.Report.Headline
import LookupLog.Proofs.Run.Effects

/-!
# The two formats

The format of the report decides nothing but the report. What a run finds out (`Store.summarise`) is
the same for both, and so is what it leaves behind (`Store.effects_of_format`); and both reports say
what the summary says (`World.run_formats_agree`).
-/

namespace LookupLog

/-! ## 1. A run without its report -/

namespace Store

/-- The summary of the transcript that a run reads, and the store with the series in it. -/
def summarise (s : Store) (options : Options) : Except RunError (Summary × Store) := do
  let settings ← s.settings options
  let path := settings.transcriptPath options.k
  let t ← (s.transcript path).mapError .transcript
  let summary ← (Summary.ofTranscript t).mapError (.summary path)
  let store ← s.withSeries options.series t.bandwidth
  return (summary, store)

variable {s : Store} {options : Options}

theorem summarise_eq_ok {summary : Summary} {store : Store}
    (h : s.summarise options = .ok (summary, store)) :
    ∃ settings t, s.settings options = .ok settings ∧
      s.transcript (settings.transcriptPath options.k) = .ok t ∧
      Summary.ofTranscript t = .ok summary ∧
        s.withSeries options.series t.bandwidth = .ok store := by
  unfold summarise at h
  simp only [Except.bind_eq_ok_iff, Except.mapError_eq_ok_iff] at h
  obtain ⟨settings, hs, t, ht, summary, hm, store, hw, hf⟩ := h
  cases hf
  exact ⟨settings, t, hs, ht, hm, hw⟩

/-- The settings for two formats have the same template. -/
theorem settings_of_format (format : ReportFormat) :
    s.settings { options with format := some format } =
      (s.settings options).map fun settings => { settings with format } := by
  simp only [settings, Settings.resolve, bind, Except.bind]
  cases s.config options.config with
  | error e => rfl
  | ok config =>
    simp only [Except.mapError_ok]
    cases Settings.checkTemplate ((options.template.or config.template).getD Template.standard) with
    | error e => rfl
    | ok _ => rfl

/-- **The format decides only how the summary is rendered.** -/
theorem effects_of_format (format : ReportFormat) :
    s.effects { options with format := some format } =
      (s.summarise options).map fun (summary, store) =>
        { store, report := Report.render format options.k summary } := by
  rw [effects, settings_of_format, summarise]
  cases s.settings options with
  | error e => rfl
  | ok settings =>
    simp only [Except.map, bind, Except.bind, reportEffects, Settings.transcriptPath]
    generalize Template.fill options.k settings.template = path
    cases s.transcript path with
    | error e => rfl
    | ok t =>
      simp only [Except.mapError_ok]
      cases Summary.ofTranscript t with
      | error e => rfl
      | ok summary =>
        simp only [Except.mapError_ok]
        cases s.withSeries options.series t.bandwidth with
        | error e => rfl
        | ok store => rfl

end Store

/-! ## 2. Two runs -/

namespace World

/-- **The two formats agree.** Runs that differ in nothing but the format end the same way, with the
    same error if they fail, and leave the same files. If they succeed, each prints one report, and
    both reports, read back and with their numbers rounded to the nearest doubles, name the same run
    and the same three doubles: those of the summary of the transcript. -/
theorem run_formats_agree (w : World) (options : Options) :
    let text := w.run { options with format := some .text }
    let json := w.run { options with format := some .json }
    text.1.result = json.1.result ∧ text.2.store = json.2.store ∧
    ((∃ e, text.1.result = .error e ∧ text.2 = w ∧ json.2 = w) ∨
      ∃ settings t summary textReport jsonReport, text.1.result = .ok () ∧
        w.store.settings options = .ok settings ∧
        w.store.transcript (settings.transcriptPath options.k) = .ok t ∧
        Summary.ofTranscript t = .ok summary ∧
        text.2.printed = w.printed ++ textReport ∧
        json.2.printed = w.printed ++ jsonReport ∧
        Headline.ofText? textReport = some (summary.headline options.k) ∧
        Headline.ofJson? jsonReport = some (summary.headline options.k)) := by
  intro text json
  have ht : (text.1.result, text.2) = w.commit _ :=
    (run_eq_commit w _).trans (congrArg w.commit (Store.effects_of_format .text))
  have hj : (json.1.result, json.2) = w.commit _ :=
    (run_eq_commit w _).trans (congrArg w.commit (Store.effects_of_format .json))
  cases hs : w.store.summarise options with
  | error e =>
    rw [hs] at ht hj
    obtain ⟨htr, htw⟩ := Prod.mk.inj ht
    obtain ⟨hjr, hjw⟩ := Prod.mk.inj hj
    exact ⟨htr.trans hjr.symm, by rw [htw, hjw], Or.inl ⟨e, htr, htw, hjw⟩⟩
  | ok found =>
    obtain ⟨summary, store⟩ := found
    rw [hs] at ht hj
    obtain ⟨htr, htw⟩ := Prod.mk.inj ht
    obtain ⟨hjr, hjw⟩ := Prod.mk.inj hj
    obtain ⟨settings, t, hset, htrans, hsum, -⟩ := Store.summarise_eq_ok hs
    have hf := Summary.isFinite_of_ofTranscript hsum
    refine ⟨htr.trans hjr.symm, by rw [htw, hjw], Or.inr ⟨settings, t, summary,
      Report.text options.k summary, Report.json options.k summary, htr, hset, htrans, hsum, ?_, ?_,
      Headline.ofText?_text options.k hf, Headline.ofJson?_json options.k hf⟩⟩
    · rw [htw]
      rfl
    · rw [hjw]
      rfl

end World

end LookupLog
