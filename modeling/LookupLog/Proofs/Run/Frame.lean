import LookupLog.Proofs.Run.Effects

/-!
# The frame of a run

A run looks at the store in three places only: the config file, the transcript, and what creating
the file for the series does. Where two stores agree on these (`Store.SameInputs`) a run has the
same effects (`effects_of_sameInputs`) and the same outcome, with its log (`run_of_sameInputs`), and
does the same to its world (`world_of_sameInputs`).

For stores that differ in one file, the first section says which paths notice: a file in place of
anything but a directory is seen at its own location only (`openNode_put_of_opened`,
`openNode_put_of_file`), and it can be created again (`create_put`). What was created is found again
(`openNode_create`).
-/

namespace LookupLog

/-! ## 1. Paths around a file -/

namespace Store

variable {s : Store} {l l' : Location} {path : Text} {content : Bytes}

/-- Names are entered in directories, so a file in place of anything else opens no way and closes
    none. -/
theorem enter_put_eq_ok_iff (h : s.node? l ≠ some .directory) {start : Location} {name : Text} :
    (s.put l (.file content)).enter start name = .ok l' ↔ s.enter start name = .ok l' := by
  by_cases he : start = l
  · subst he
    have hp : (s.put start (.file content)).enter start name = .error .notADirectory := by
      simp only [enter, node?_put_self]
    have hs : ∃ e, s.enter start name = .error e := by
      unfold enter
      split
      · exact ⟨_, rfl⟩
      · exact ⟨_, rfl⟩
      · contradiction
    obtain ⟨e, hs⟩ := hs
    simp only [hp, hs, reduceCtorEq]
  · simp only [enter, node?_put_of_ne s _ he]

theorem foldlM_enter_put_eq_ok_iff (h : s.node? l ≠ some .directory) (names : List Text)
    (start : Location) :
    names.foldlM (s.put l (.file content)).enter start = .ok l' ↔
      names.foldlM s.enter start = .ok l' := by
  induction names generalizing start with
  | nil => exact Iff.rfl
  | cons name rest ih =>
    simp only [List.foldlM_cons, Except.bind_eq_ok_iff, enter_put_eq_ok_iff h, ih]

/-- So a path leads to the same place with the file as without it. -/
theorem locate_put_eq_ok_iff (h : s.node? l ≠ some .directory) :
    (s.put l (.file content)).locate path = .ok l' ↔ s.locate path = .ok l' := by
  unfold locate
  split
  · exact Iff.rfl
  · split
    · exact Iff.rfl
    · split
      · exact Iff.rfl
      · exact foldlM_enter_put_eq_ok_iff h _ _

/-- In place of another file it does not even change why a path leads nowhere. -/
theorem locate_put_of_file {old : Bytes} (h : s.node? l = some (.file old)) (path : Text) :
    (s.put l (.file content)).locate path = s.locate path := by
  have he : (s.put l (.file content)).enter = s.enter := by
    funext start name
    by_cases he : start = l
    · subst he
      simp only [enter, node?_put_self, h]
    · simp only [enter, node?_put_of_ne s _ he]
  unfold locate
  rw [he, current_put]

theorem openNode_put_eq_ok_iff (h : s.node? l ≠ some .directory) (hp : s.locate path ≠ .ok l)
    {node : Node} :
    (s.put l (.file content)).openNode path = .ok node ↔ s.openNode path = .ok node := by
  cases hl : s.locate path with
  | ok l' =>
    have hne : l' ≠ l := by
      rintro rfl
      exact hp hl
    simp only [openNode, hl, (locate_put_eq_ok_iff h).mpr hl, node?_put_of_ne s _ hne]
  | error e =>
    cases hl' : (s.put l (.file content)).locate path with
    | ok l' =>
      rw [(locate_put_eq_ok_iff h).mp hl'] at hl
      cases hl
    | error e' =>
      simp only [openNode, hl, hl', reduceCtorEq]

/-- So what can be opened with the file or without it is the same in both. -/
theorem openNode_put_of_opened (h : s.node? l ≠ some .directory) (hp : s.locate path ≠ .ok l)
    (ho : (∃ node, s.openNode path = .ok node) ∨
      ∃ node, (s.put l (.file content)).openNode path = .ok node) :
    (s.put l (.file content)).openNode path = s.openNode path := by
  rcases ho with ⟨node, ho⟩ | ⟨node, ho⟩
  · rw [ho, (openNode_put_eq_ok_iff h hp).mpr ho]
  · rw [ho, (openNode_put_eq_ok_iff h hp).mp ho]

theorem openNode_put_of_file {old : Bytes} (h : s.node? l = some (.file old))
    (hp : s.locate path ≠ .ok l) :
    (s.put l (.file content)).openNode path = s.openNode path := by
  unfold openNode
  rw [locate_put_of_file h]
  split
  · rfl
  · rename_i l' hl
    have hne : l' ≠ l := by
      rintro rfl
      exact hp hl
    rw [node?_put_of_ne s _ hne]

/-- Creating a file again is creating it with the second content. -/
theorem create_put (h : s.node? l ≠ some .directory) (hp : s.locate path = .ok l)
    (content more : Bytes) :
    (s.put l (.file content)).create path more = s.create path more := by
  simp only [create, (locate_put_eq_ok_iff h).mpr hp, hp, node?_put_self, put_put, h]
  simp

/-- A file that was created is there. -/
theorem openNode_create {s' : Store} (h : s.create path content = .ok s') :
    s'.openNode path = .ok (.file content) := by
  obtain ⟨l, hl, hp, hd, rfl⟩ := create_eq_ok_iff.mp h
  simp only [openNode, (locate_put_eq_ok_iff hd).mpr hl, node?_put_self, if_neg hp]

/-! ## 2. What a run reads -/

/-- Stores in which a run opens the same files and can write the same series. -/
structure SameInputs (options : Options) (s s' : Store) : Prop where
  config : ∀ path ∈ options.config, s'.openNode path = s.openNode path
  transcript : ∀ settings, s.settings options = .ok settings →
    s'.openNode (settings.transcriptPath options.k) =
      s.openNode (settings.transcriptPath options.k)
  series : ∀ samples, s'.withSeries options.series samples = s.withSeries options.series samples

variable {options : Options} {s' : Store}

theorem SameInputs.refl (options : Options) (s : Store) : SameInputs options s s :=
  ⟨fun _ _ => rfl, fun _ _ => rfl, fun _ => rfl⟩

theorem settings_congr (h : ∀ path ∈ options.config, s'.openNode path = s.openNode path) :
    s'.settings options = s.settings options := by
  have hc : s'.config options.config = s.config options.config := by
    cases hp : options.config with
    | none => rfl
    | some path => exact congrArg (Config.ofOpened path) (h path hp)
  rw [settings, settings, hc]

theorem SameInputs.settings (h : SameInputs options s s') :
    s'.settings options = s.settings options :=
  settings_congr h.config

/-- Its effects are the same. -/
theorem effects_of_sameInputs (h : SameInputs options s s') :
    s'.effects options = s.effects options := by
  rw [effects, effects, h.settings]
  cases hs : s.settings options with
  | error e => rfl
  | ok settings =>
    have ht : s'.transcript (settings.transcriptPath options.k) =
        s.transcript (settings.transcriptPath options.k) := by
      rw [transcript, transcript, h.transcript settings hs]
    simp only [bind, Except.bind, reportEffects, ht, h.series]

end Store

namespace World

variable {w w' : World} {options : Options}

/-- Loading the configuration logs the same. -/
theorem loadConfig_congr {path : Option Text}
    (h : ∀ p ∈ path, w'.store.openNode p = w.store.openNode p) :
    (loadConfig host.toFileAccess path w').1 = (loadConfig host.toFileAccess path w).1 := by
  cases path with
  | none => rfl
  | some path =>
    simp only [loadConfig, bind, StateT.bind, host_openNode, h path rfl]
    cases Config.ofOpened path (w.store.openNode path) <;> rfl

/-- Exporting the series logs the same. -/
theorem exportSeries_congr {path : Option Text} {samples : List Sample}
    (h : w'.store.withSeries path samples = w.store.withSeries path samples) :
    (exportSeries host.toFileAccess path samples w').1 =
      (exportSeries host.toFileAccess path samples w).1 := by
  cases hs : w.store.withSeries path samples with
  | error e =>
    rw [exportSeries_of_error hs, exportSeries_of_error (h.trans hs)]
  | ok store =>
    cases path with
    | none => rfl
    | some path =>
      have hc := Except.mapError_eq_ok_iff.mp hs
      have hc' := Except.mapError_eq_ok_iff.mp (h.trans hs)
      simp only [exportSeries, writeSeries, bind, StateT.bind]
      rw [host_create_of_ok hc, host_create_of_ok hc']
      rfl

theorem report_congr {settings : Settings}
    (ht : w'.store.openNode (settings.transcriptPath options.k) =
      w.store.openNode (settings.transcriptPath options.k))
    (hs : ∀ samples,
      w'.store.withSeries options.series samples = w.store.withSeries options.series samples) :
    (report host options settings w').1 = (report host options settings w).1 := by
  simp only [report, bind, StateT.bind, readTranscript_eq, ht]
  generalize settings.transcriptPath options.k = path
  obtain ⟨transcript, events⟩ := Transcript.ofOpened path (w.store.openNode path)
  cases transcript with
  | error e => rfl
  | ok t =>
    simp only
    cases Summary.ofTranscript t with
    | error e => rfl
    | ok summary =>
      have hx := exportSeries_congr (hs t.bandwidth)
      simp only [StateT.bind]
      generalize exportSeries host.toFileAccess options.series t.bandwidth w = x at hx ⊢
      generalize exportSeries host.toFileAccess options.series t.bandwidth w' = x' at hx ⊢
      obtain ⟨written, v⟩ := x
      obtain ⟨written', v'⟩ := x'
      obtain rfl : written' = written := hx
      cases written' <;> rfl

/-- **The frame of a run**: where it reads the same it answers the same, and it logs the same on the
    way. -/
theorem run_of_sameInputs (h : w.store.SameInputs options w'.store) :
    (w'.run options).1 = (w.run options).1 := by
  have hl := loadConfig_congr h.config
  obtain ⟨loaded, he⟩ := loadConfig_eq w options.config
  obtain ⟨loaded', he'⟩ := loadConfig_eq w' options.config
  rw [he, he'] at hl
  obtain ⟨hc, rfl⟩ := Prod.mk.inj hl
  simp only [run, LookupLog.run, StateT.run, bind, StateT.bind, he, he', hc]
  cases hc : w.store.config options.config with
  | error e => rfl
  | ok config =>
    simp only
    cases hr : Settings.resolve options.template options.format config with
    | error e => rfl
    | ok settings =>
      have hs : w.store.settings options = .ok settings := by
        rw [Store.settings_of_loaded hc, hr]
        rfl
      simp only [StateT.bind]
      have hx := report_congr (h.transcript settings hs) h.series
      generalize report host options settings w = x at hx ⊢
      generalize report host options settings w' = x' at hx ⊢
      obtain ⟨outcome, v⟩ := x
      obtain ⟨outcome', v'⟩ := x'
      obtain rfl : outcome' = outcome := hx
      rfl

/-- And it does the same to the world that it runs in. -/
theorem world_of_sameInputs (h : w.store.SameInputs options w'.store) :
    (w'.run options).2 = (w'.commit (w.store.effects options)).2 := by
  rw [← Store.effects_of_sameInputs h]
  exact (Prod.mk.inj (run_eq_commit w' options)).2

end World

end LookupLog
