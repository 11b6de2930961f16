import LookupLog.Proofs.Run.Effects

/-!
# Runs with a config file

A config file says nothing that the command line could not say. A run with a config file that loads
is the run without it in which the open options are set as the file sets them; if it does not load,
the run fails with that error and opens nothing else.

* `resolve_eq_resolve_or`: the settings, from the options or from a configuration;
* `hasPlaceholder_of_ofOpened`: a configuration that loads has a usable template;
* `effects_of_config`: hence a run has the same effects;
* `run_watched`: which files a run opens, and in which order.
-/

namespace LookupLog

/-! ## 1. Settings -/

namespace Settings

variable {template : Option Text} {format : Option ReportFormat} {config : Config}

/-- What the command line leaves open is taken from the configuration as if it stood there. -/
theorem resolve_eq_resolve_or (template : Option Text) (format : Option ReportFormat)
    (config : Config) :
    resolve template format config =
      resolve (template.or config.template) (format.or config.format) {} := by
  unfold resolve
  rw [Option.or_none, Option.or_none]

theorem checkTemplate_of_placeholder {t : Text} (h : Template.hasPlaceholder t = true) :
    checkTemplate t = .ok () :=
  if_pos h

theorem checkTemplate_of_no_placeholder {t : Text} (h : ¬Template.hasPlaceholder t = true) :
    checkTemplate t = .error (.noPlaceholder t) :=
  if_neg h

/-- Settings are refused only for a template without a placeholder, which they name. -/
theorem eq_noPlaceholder_of_resolve {e : ConfigError}
    (h : resolve template format config = .error e) :
    ∃ t, (template.or config.template).getD Template.standard = t ∧
      ¬Template.hasPlaceholder t = true ∧ e = .noPlaceholder t := by
  refine ⟨_, rfl, ?_⟩
  unfold resolve at h
  generalize (template.or config.template).getD Template.standard = t at h ⊢
  by_cases hp : Template.hasPlaceholder t = true
  · simp only [checkTemplate_of_placeholder hp] at h
    cases h
  · simp only [checkTemplate_of_no_placeholder hp] at h
    cases h
    exact ⟨hp, rfl⟩

end Settings

/-- A configuration that loads has no template, or one with a placeholder. -/
theorem Config.hasPlaceholder_of_ofOpened {path : Text} {opened : Except FileError Node}
    {config : Config} (h : ofOpened path opened = .ok config) {t : Text}
    (ht : config.template = some t) : Template.hasPlaceholder t = true := by
  unfold ofOpened ofText at h
  split at h
  · cases h
  · split at h
    · cases h
    · split at h
      · cases h
      · split at h
        · rename_i hn
          cases h
          rw [hn] at ht
          cases ht
        · rename_i t' hs
          by_cases hp : Template.hasPlaceholder t' = true
          · rw [Settings.checkTemplate_of_placeholder hp] at h
            cases h
            rw [hs] at ht
            cases ht
            exact hp
          · rw [Settings.checkTemplate_of_no_placeholder hp] at h
            cases h

/-- So what a run with it refuses is the template of the command line. -/
theorem Settings.template_of_resolve {path : Text} {opened : Except FileError Node}
    {template : Option Text} {format : Option ReportFormat} {config : Config} {e : ConfigError}
    (hc : Config.ofOpened path opened = .ok config)
    (h : resolve template format config = .error e) :
    ∃ t, template = some t ∧ e = .noPlaceholder t := by
  obtain ⟨t, ht, hp, rfl⟩ := eq_noPlaceholder_of_resolve h
  cases template with
  | some t' =>
    cases ht
    exact ⟨t', rfl, rfl⟩
  | none =>
    -- the other two sources of a template have been checked, or are the standard
    cases hs : config.template with
    | some t' =>
      rw [hs] at ht
      cases ht
      exact absurd (Config.hasPlaceholder_of_ofOpened hc hs) hp
    | none =>
      rw [hs] at ht
      cases ht
      exact absurd rfl hp

/-! ## 2. The run -/

/-- Some options with a configuration in place of their config file: what they leave open is set as
    it is there. -/
def Options.settledBy (options : Options) (config : Config) : Options :=
  { options with
    config := none
    template := options.template.or config.template
    format := options.format.or config.format }

/-- Its settings are those of the options alone. -/
theorem Store.settings_of_config {s : Store} {options : Options} {path : Text} {config : Config}
    (h : Config.ofOpened path (s.openNode path) = .ok config) :
    s.settings { options with config := some path } = s.settings (options.settledBy config) := by
  have hc : s.config (some path) = .ok config := h
  have hr := Settings.resolve_eq_resolve_or options.template options.format config
  simp only [settings, hc]
  exact congrArg (Except.mapError RunError.config) hr

/-- **A run with a config file that loads has the effects of a run without one.** -/
theorem Store.effects_of_config {s : Store} {options : Options} {path : Text} {config : Config}
    (h : Config.ofOpened path (s.openNode path) = .ok config) :
    s.effects { options with config := some path } = s.effects (options.settledBy config) := by
  rw [effects, settings_of_config h]
  rfl

/-- A run with a config file that does not load has none, whatever the options are. -/
theorem Store.effects_of_config_error {s : Store} (options : Options) {path : Text}
    {e : ConfigError} (h : Config.ofOpened path (s.openNode path) = .error e) :
    s.settings { options with config := some path } = .error (.config e) ∧
      s.effects { options with config := some path } = .error (.config e) := by
  have hc : s.config (some path) = .error e := h
  have hs : s.settings { options with config := some path } = .error (.config e) := by
    simp only [settings, hc]
    rfl
  refine ⟨hs, ?_⟩
  rw [effects, hs]
  rfl

/-! ## 3. Opened files -/

namespace World

/-- The host of a world that also keeps a list of the paths that were opened. -/
def watched : Host (StateM (World × List Text)) where
  openNode path := fun (w, opened) =>
    let (node, w) := host.openNode path w
    (node, w, opened ++ [path])
  create path content := fun (w, opened) =>
    let (created, w) := host.create path content w
    (created, w, opened)
  print text := fun (w, opened) =>
    let (_, w) := host.print text w
    ((), w, opened)

/-- The paths that a run opens for reading, in order: the config file, if there is one, and then
    the transcript, if there are settings. -/
def openedPaths (s : Store) (options : Options) : List Text :=
  options.config.toList ++
    match s.settings options with
    | .error _ => []
    | .ok settings => [settings.transcriptPath options.k]

variable (w : World) (opened : List Text)

theorem watched_openNode (path : Text) :
    watched.openNode path (w, opened) = (w.store.openNode path, w, opened ++ [path]) := rfl

theorem watched_create (path : Text) (content : Bytes) :
    watched.create path content (w, opened) =
      ((host.create path content w).1, (host.create path content w).2, opened) := rfl

/-- Loading the configuration opens its file. -/
theorem loadConfig_watched (path : Option Text) :
    loadConfig watched.toFileAccess path (w, opened) =
      ((loadConfig host.toFileAccess path w).1, w, opened ++ path.toList) := by
  cases path with
  | none =>
    rw [Option.toList_none, List.append_nil]
    rfl
  | some path =>
    simp only [loadConfig, bind, StateT.bind, host_openNode, watched_openNode]
    cases Config.ofOpened path (w.store.openNode path) <;> rfl

/-- Reading the transcript opens it. -/
theorem readTranscript_watched (path : Text) :
    readTranscript watched.toFileAccess path (w, opened) =
      (Transcript.ofOpened path (w.store.openNode path), w, opened ++ [path]) := rfl

/-- Exporting the series opens nothing for reading. -/
theorem exportSeries_watched (path : Option Text) (samples : List Sample) :
    exportSeries watched.toFileAccess path samples (w, opened) =
      ((exportSeries host.toFileAccess path samples w).1,
        (exportSeries host.toFileAccess path samples w).2, opened) := by
  cases path with
  | none => rfl
  | some path =>
    simp only [exportSeries, writeSeries, bind, StateT.bind, watched_create]
    obtain ⟨created, w'⟩ := host.create path (Utf8.encode (Report.series samples)) w
    cases created <;> rfl

/-- A report opens the transcript. -/
theorem report_watched (options : Options) (settings : Settings) :
    report watched options settings (w, opened) =
      ((report host options settings w).1, (report host options settings w).2,
        opened ++ [settings.transcriptPath options.k]) := by
  simp only [report, bind, StateT.bind, readTranscript_watched, readTranscript_eq]
  generalize settings.transcriptPath options.k = path
  obtain ⟨transcript, events⟩ := Transcript.ofOpened path (w.store.openNode path)
  cases transcript with
  | error e => rfl
  | ok t =>
    simp only
    cases Summary.ofTranscript t with
    | error e => rfl
    | ok summary =>
      simp only [StateT.bind, exportSeries_watched]
      obtain ⟨written, w'⟩ := exportSeries host.toFileAccess options.series t.bandwidth w
      cases written <;> rfl

/-- **The files that a run opens**: the config file and then the transcript. Watching changes
    nothing else. -/
theorem run_watched (options : Options) :
    (LookupLog.run watched options).run (w, opened) =
      ((w.run options).1, (w.run options).2, opened ++ openedPaths w.store options) := by
  obtain ⟨loaded, hl⟩ := loadConfig_eq w options.config
  simp only [run, LookupLog.run, StateT.run, bind, StateT.bind, loadConfig_watched, hl]
  cases hc : w.store.config options.config with
  | error e =>
    have hs : w.store.settings options = .error (.config e) := by
      rw [Store.settings, hc]
      rfl
    rw [openedPaths, hs, List.append_nil]
    rfl
  | ok config =>
    simp only
    cases hr : Settings.resolve options.template options.format config with
    | error e =>
      have hs : w.store.settings options = .error (.config e) := by
        rw [Store.settings_of_loaded hc, hr]
        rfl
      rw [openedPaths, hs, List.append_nil]
      rfl
    | ok settings =>
      have hs : w.store.settings options = .ok settings := by
        rw [Store.settings_of_loaded hc, hr]
        rfl
      rw [openedPaths, hs, ← List.append_assoc]
      simp only [StateT.bind, report_watched]
      rfl

/-- **A config file is as good as options, and one that does not load is fatal.** With a config file
    that loads, a run ends the same way, prints the same and leaves the same files as the run
    without it whose open options are set as in the file; what its settings can be refused for is
    then only the template of the command line. With a config file that does not load, a run fails
    with that error whatever the other options are, leaves the world as it was and opens no other
    file. -/
theorem run_config (w : World) (options : Options) (path : Text) :
    match Config.ofOpened path (w.store.openNode path) with
    | .ok config =>
      ((w.run { options with config := some path }).1.result,
          (w.run { options with config := some path }).2) =
        ((w.run (options.settledBy config)).1.result, (w.run (options.settledBy config)).2) ∧
      (∀ template format, options.template = some template → options.format = some format →
        ((w.run { options with config := some path }).1.result,
            (w.run { options with config := some path }).2) =
          ((w.run { options with config := none }).1.result,
            (w.run { options with config := none }).2)) ∧
      (∀ e, Settings.resolve options.template options.format config = .error e →
        ∃ template, options.template = some template ∧ e = .noPlaceholder template)
    | .error e =>
      (w.run { options with config := some path }).1.result = .error (.config e) ∧
      (w.run { options with config := some path }).2 = w ∧
      (LookupLog.run watched { options with config := some path }).run (w, []) =
        ((w.run { options with config := some path }).1, w, [path]) := by
  cases hc : Config.ofOpened path (w.store.openNode path) with
  | ok config =>
    have he : ((w.run { options with config := some path }).1.result,
          (w.run { options with config := some path }).2) =
        ((w.run (options.settledBy config)).1.result, (w.run (options.settledBy config)).2) := by
      rw [run_eq_commit, run_eq_commit, Store.effects_of_config hc]
    refine ⟨he, fun template format ht hf => ?_, fun e => Settings.template_of_resolve hc⟩
    -- options that are all set are not changed by a configuration
    have hs : options.settledBy config = { options with config := none } := by
      rw [Options.settledBy, ht, hf]
      rfl
    rw [he, hs]
  | error e =>
    obtain ⟨hs, hx⟩ := Store.effects_of_config_error options hc
    have hr := run_eq_commit w { options with config := some path }
    rw [hx] at hr
    obtain ⟨hr, hw⟩ := Prod.mk.inj hr
    refine ⟨hr, hw, ?_⟩
    rw [run_watched, openedPaths, hs, hw]
    rfl

end World

end LookupLog
