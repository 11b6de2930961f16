import LookupLog.Run.World

/-!
# The effects of a run

A run reads and settles all it needs, and then it writes the series and prints the report. Here this
is a function of the store (`Store.effects`), and a run in a world carries out its value:

* `run_eq_commit`: a run fails with the error of its effects and leaves the world alone, or it
  carries out all of them;
* `Store.effects_eq_ok_iff`: which effects a run has, stage by stage.

What a run logs on the way is left open.
-/

namespace LookupLog

/-! ## 1. Effects -/

/-- What a run that succeeds leaves behind: the store with the series in it, and the report. -/
structure Effects where
  store : Store
  report : Text

namespace Store

variable (s : Store)

/-- The configuration at a path; the empty one without a path. -/
def config : Option Text → Except ConfigError Config
  | none => .ok {}
  | some path => Config.ofOpened path (s.openNode path)

/-- The settings for some options. -/
def settings (options : Options) : Except RunError Settings := do
  let config ← (s.config options.config).mapError .config
  (Settings.resolve options.template options.format config).mapError .config

/-- The transcript at a path. -/
def transcript (path : Text) : Except TranscriptError Transcript :=
  (Transcript.ofOpened path (s.openNode path)).1

/-- The store with the bandwidth series at a path; the same store without a path. -/
def withSeries (path : Option Text) (samples : List Sample) : Except RunError Store :=
  match path with
  | none => .ok s
  | some path => (s.create path (Utf8.encode (Report.series samples))).mapError (.series path)

/-- The effects of a run whose settings are fixed. -/
def reportEffects (options : Options) (settings : Settings) : Except RunError Effects := do
  let path := settings.transcriptPath options.k
  let t ← (s.transcript path).mapError .transcript
  let summary ← (Summary.ofTranscript t).mapError (.summary path)
  let store ← s.withSeries options.series t.bandwidth
  return { store, report := Report.render settings.format options.k summary }

/-- The effects of a run. -/
def effects (options : Options) : Except RunError Effects := do
  let settings ← s.settings options
  s.reportEffects options settings

end Store

theorem Except.bind_eq_ok_iff {ε α β : Type} {x : Except ε α} {f : α → Except ε β} {b : β} :
    x >>= f = .ok b ↔ ∃ a, x = .ok a ∧ f a = .ok b := by
  cases x with
  | error e =>
    constructor
    · intro h
      cases h
    · intro h
      obtain ⟨a, h, -⟩ := h
      cases h
  | ok a =>
    constructor
    · intro h
      exact ⟨a, rfl, h⟩
    · intro h
      obtain ⟨_, h, hf⟩ := h
      cases h
      exact hf

theorem Except.mapError_ok {ε ε' α : Type} (a : α) (f : ε → ε') :
    (Except.ok a : Except ε α).mapError f = .ok a := rfl

theorem Except.mapError_eq_ok_iff {ε ε' α : Type} {x : Except ε α} {f : ε → ε'} {a : α} :
    x.mapError f = .ok a ↔ x = .ok a := by
  cases x with
  | error e =>
    constructor
    · intro h
      cases h
    · intro h
      cases h
  | ok a =>
    constructor
    · intro h
      cases h
      rfl
    · intro h
      cases h
      rfl

/-- With a configuration that loads, the settings are resolved against it. -/
theorem Store.settings_of_loaded {s : Store} {options : Options} {config : Config}
    (h : s.config options.config = .ok config) :
    s.settings options =
      (Settings.resolve options.template options.format config).mapError .config := by
  rw [settings, h]
  rfl

/-- **The effects of a run, stage by stage.** -/
theorem Store.effects_eq_ok_iff {s : Store} {options : Options} {f : Effects} :
    s.effects options = .ok f ↔
      ∃ settings t summary, s.settings options = .ok settings ∧
        s.transcript (settings.transcriptPath options.k) = .ok t ∧
        Summary.ofTranscript t = .ok summary ∧
        s.withSeries options.series t.bandwidth = .ok f.store ∧
        f.report = Report.render settings.format options.k summary := by
  unfold effects reportEffects
  simp only [Except.bind_eq_ok_iff, Except.mapError_eq_ok_iff]
  constructor
  · intro h
    obtain ⟨settings, hs, t, ht, summary, hm, store, hw, hf⟩ := h
    cases hf
    exact ⟨settings, t, summary, hs, ht, hm, hw, rfl⟩
  · intro h
    obtain ⟨settings, t, summary, hs, ht, hm, hw, hr⟩ := h
    exact ⟨settings, hs, t, ht, summary, hm, f.store, hw, by rw [← hr]; rfl⟩

/-! ## 2. Stages in a world -/

namespace World

theorem host_openNode (w : World) (path : Text) :
    host.openNode path w = (w.store.openNode path, w) := rfl

theorem host_create_of_ok {w : World} {path : Text} {content : Bytes} {store : Store}
    (h : w.store.create path content = .ok store) :
    host.create path content w = (.ok (), { w with store }) := by
  simp only [host, bind, StateT.bind, get, getThe, MonadStateOf.get, StateT.get, pure, h]
  rfl

theorem host_create_of_error {w : World} {path : Text} {content : Bytes} {e : FileError}
    (h : w.store.create path content = .error e) :
    host.create path content w = (.error e, w) := by
  simp only [host, bind, StateT.bind, get, getThe, MonadStateOf.get, StateT.get, pure, h]
  rfl

/-- Loading the configuration changes nothing. -/
theorem loadConfig_eq (w : World) (path : Option Text) :
    ∃ events, loadConfig host.toFileAccess path w = ((w.store.config path, events), w) := by
  cases path with
  | none => exact ⟨_, rfl⟩
  | some path =>
    simp only [loadConfig, bind, StateT.bind, host_openNode, Store.config]
    cases Config.ofOpened path (w.store.openNode path) with
    | error e => exact ⟨_, rfl⟩
    | ok config => exact ⟨_, rfl⟩

/-- Reading the transcript changes nothing. -/
theorem readTranscript_eq (w : World) (path : Text) :
    readTranscript host.toFileAccess path w =
      (Transcript.ofOpened path (w.store.openNode path), w) := rfl

/-- The series is exported as a whole. -/
theorem exportSeries_of_ok {w : World} {path : Option Text} {samples : List Sample} {store : Store}
    (h : w.store.withSeries path samples = .ok store) :
    ∃ events, exportSeries host.toFileAccess path samples w = (.ok events, { w with store }) := by
  cases path with
  | none =>
    cases h
    exact ⟨_, rfl⟩
  | some path =>
    have hc := Except.mapError_eq_ok_iff.mp h
    simp only [exportSeries, writeSeries, bind, StateT.bind]
    rw [host_create_of_ok hc]
    exact ⟨_, rfl⟩

/-- If it cannot be exported, nothing changes. -/
theorem exportSeries_of_error {w : World} {path : Option Text} {samples : List Sample}
    {e : RunError} (h : w.store.withSeries path samples = .error e) :
    exportSeries host.toFileAccess path samples w = (.error e, w) := by
  cases path with
  | none => cases h
  | some path =>
    simp only [exportSeries, writeSeries, bind, StateT.bind]
    cases hc : w.store.create path (Utf8.encode (Report.series samples)) with
    | error e =>
      rw [Store.withSeries, hc] at h
      cases h
      rw [host_create_of_error hc]
      rfl
    | ok s =>
      rw [Store.withSeries, hc] at h
      cases h

/-! ## 3. The whole run -/

/-- All the effects in a world, or the error that prevents them. -/
def commit (w : World) : Except RunError Effects → Except RunError Unit × World
  | .error e => (.error e, w)
  | .ok f => (.ok (), { store := f.store, printed := w.printed ++ f.report })

/-- A report comes after everything that can fail. -/
theorem report_eq_commit (w : World) (options : Options) (settings : Settings) :
    ((report host options settings w).1.result, (report host options settings w).2) =
      w.commit (w.store.reportEffects options settings) := by
  simp only [report, bind, StateT.bind, readTranscript_eq, Store.reportEffects,
    Store.transcript]
  generalize settings.transcriptPath options.k = path
  obtain ⟨transcript, events⟩ := Transcript.ofOpened path (w.store.openNode path)
  cases transcript with
  | error e => rfl
  | ok t =>
    simp only [Except.mapError_ok, Except.bind]
    cases Summary.ofTranscript t with
    | error e => rfl
    | ok summary =>
      cases hs : w.store.withSeries options.series t.bandwidth with
      | error e =>
        simp only [StateT.bind, exportSeries_of_error hs]
        rfl
      | ok store =>
        obtain ⟨written, hx⟩ := exportSeries_of_ok hs
        simp only [StateT.bind, hx]
        rfl

/-- **A run carries out all its effects, or it fails and leaves the world alone.** -/
theorem run_eq_commit (w : World) (options : Options) :
    ((w.run options).1.result, (w.run options).2) = w.commit (w.store.effects options) := by
  obtain ⟨loaded, hl⟩ := loadConfig_eq w options.config
  simp only [run, LookupLog.run, StateT.run, bind, StateT.bind, hl, Store.effects, Store.settings]
  cases w.store.config options.config with
  | error e => rfl
  | ok config =>
    simp only [Except.mapError_ok, Except.bind]
    cases Settings.resolve options.template options.format config with
    | error e => rfl
    | ok settings => exact report_eq_commit w options settings

end World

end LookupLog
