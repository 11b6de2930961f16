import LookupLog.Proofs.Run.Effects

/-!
# All or nothing

* `run_cases`: a run that fails leaves the world as it was, and one that succeeds prints exactly one
  report;
* `run_sameExcept`: no run touches anything but the file for the series;
* `exitCode_execute`: how the exit code of the whole program tells these apart.
-/

namespace LookupLog

/-! ## 1. What stays as it was -/

/-- A store that differs from another at most at the location that a path leads to, if there is
    one. -/
structure Store.SameExcept (path : Option Text) (s s' : Store) : Prop where
  current : s'.current = s.current
  nodes : ∀ l, (¬∃ p ∈ path, s.locate p = .ok l) → s'.node? l = s.node? l

namespace Store

theorem SameExcept.refl (path : Option Text) (s : Store) : SameExcept path s s :=
  ⟨rfl, fun _ _ => rfl⟩

/-- Creating a file changes nothing else. -/
theorem sameExcept_create {s s' : Store} {path : Text} {content : Bytes}
    (h : s.create path content = .ok s') : SameExcept (some path) s s' := by
  obtain ⟨l, hl, -, -, rfl⟩ := create_eq_ok_iff.mp h
  refine ⟨rfl, fun l' hn => node?_put_of_ne s _ ?_⟩
  rintro rfl
  exact hn ⟨path, rfl, hl⟩

theorem sameExcept_withSeries {s s' : Store} {path : Option Text} {samples : List Sample}
    (h : s.withSeries path samples = .ok s') : SameExcept path s s' := by
  cases path with
  | none =>
    cases h
    exact .refl _ s
  | some path => exact sameExcept_create (Except.mapError_eq_ok_iff.mp h)

end Store

/-! ## 2. Runs -/

namespace World

/-- **Every run is one of two**: it fails and the world is as it was, or it prints the report of
    what it has read, behind what was printed before, and the series is in the store. -/
theorem run_cases (w : World) (options : Options) :
    (∃ e, (w.run options).1.result = .error e ∧ (w.run options).2 = w) ∨
    (∃ settings t summary, (w.run options).1.result = .ok () ∧
      w.store.settings options = .ok settings ∧
      w.store.transcript (settings.transcriptPath options.k) = .ok t ∧
      Summary.ofTranscript t = .ok summary ∧
      (w.run options).2.printed = w.printed ++ Report.render settings.format options.k summary ∧
      w.store.withSeries options.series t.bandwidth = .ok (w.run options).2.store) := by
  have hc := run_eq_commit w options
  cases he : w.store.effects options with
  | error e =>
    rw [he] at hc
    obtain ⟨hr, hw⟩ := Prod.mk.inj hc
    exact Or.inl ⟨e, hr, hw⟩
  | ok f =>
    rw [he] at hc
    obtain ⟨hr, hw⟩ := Prod.mk.inj hc
    obtain ⟨settings, t, summary, hs, ht, hm, hx, hp⟩ := Store.effects_eq_ok_iff.mp he
    refine Or.inr ⟨settings, t, summary, hr, hs, ht, hm, ?_, ?_⟩
    · rw [hw, ← hp]
    · rw [hw, hx]

/-- A run that fails leaves the world as it was. -/
theorem run_eq_self {w : World} {options : Options} {e : RunError}
    (h : (w.run options).1.result = .error e) : (w.run options).2 = w := by
  rcases run_cases w options with ⟨e, -, hw⟩ | ⟨_, _, _, hr, -⟩
  · exact hw
  · rw [h] at hr
    cases hr

/-- **No run touches anything but the file for the series.** -/
theorem run_sameExcept (w : World) (options : Options) :
    w.store.SameExcept options.series (w.run options).2.store := by
  rcases run_cases w options with ⟨e, -, hw⟩ | ⟨_, _, _, -, -, -, -, -, hx⟩
  · rw [hw]
    exact .refl _ _
  · exact Store.sameExcept_withSeries hx

/-! ## 3. The whole program -/

variable {w : World} {setting : Text} {arguments : List Text}

theorem execute_of_stop {stop : Stop} (h : Options.ofArguments arguments = .error stop) :
    w.execute setting arguments =
      ((Execution.ofStop stop).precededBy (Execution.warningText setting),
        { w with printed := w.printed ++ Execution.reply stop }) := by
  unfold execute LookupLog.execute
  rw [h]
  rfl

theorem execute_of_options {options : Options} (h : Options.ofArguments arguments = .ok options) :
    w.execute setting arguments =
      ((Execution.ofOutcome (Execution.filterFor setting) options.k (w.run options).1).precededBy
        (Execution.warningText setting), (w.run options).2) := by
  unfold execute LookupLog.execute
  rw [h]
  rfl

/-- The exit code of an execution. -/
theorem exitCode_execute :
    (w.execute setting arguments).1.exitCode =
      match Options.ofArguments arguments with
      | .error (.usage _) => 2
      | .error _ => 0
      | .ok options =>
        match (w.run options).1.result with
        | .error _ => 1
        | .ok () => 0 := by
  cases h : Options.ofArguments arguments with
  | error stop =>
    rw [execute_of_stop h]
    cases stop <;> rfl
  | ok options =>
    rw [execute_of_options h]
    simp only [Execution.precededBy, Execution.ofOutcome]
    cases (w.run options).1.result <;> rfl

/-- **The program is all or nothing.** Every run fails and leaves the world as it was, or it prints
    exactly one report and has written the series; it touches nothing but the file for the series.
    The exit code is 0 after a run that succeeded and after help and version, 1 after a run that
    failed and 2 after a command line that was refused. Unless it is 0 the world is as it was. -/
theorem execute_allOrNothing (w : World) (setting : Text) (arguments : List Text) :
    (∀ options,
      ((∃ e, (w.run options).1.result = .error e ∧ (w.run options).2 = w) ∨
        (∃ settings t summary, (w.run options).1.result = .ok () ∧
          w.store.settings options = .ok settings ∧
          w.store.transcript (settings.transcriptPath options.k) = .ok t ∧
          Summary.ofTranscript t = .ok summary ∧
          (w.run options).2.printed =
            w.printed ++ Report.render settings.format options.k summary ∧
          w.store.withSeries options.series t.bandwidth = .ok (w.run options).2.store)) ∧
      w.store.SameExcept options.series (w.run options).2.store) ∧
    ((w.execute setting arguments).1.exitCode = 0 ↔
      (∃ options, Options.ofArguments arguments = .ok options ∧
        (w.run options).1.result = .ok ()) ∨
      (∃ full, Options.ofArguments arguments = .error (.help full)) ∨
      Options.ofArguments arguments = .error .version) ∧
    ((w.execute setting arguments).1.exitCode = 1 ↔
      ∃ options e, Options.ofArguments arguments = .ok options ∧
        (w.run options).1.result = .error e) ∧
    ((w.execute setting arguments).1.exitCode = 2 ↔
      ∃ e, Options.ofArguments arguments = .error (.usage e)) ∧
    ((w.execute setting arguments).1.exitCode = 0 ∨ (w.execute setting arguments).2 = w) ∧
    (w.execute setting arguments).2 =
      match Options.ofArguments arguments with
      | .error stop => { w with printed := w.printed ++ Execution.reply stop }
      | .ok options => (w.run options).2 := by
  refine ⟨fun options => ⟨run_cases w options, run_sameExcept w options⟩, ?_⟩
  rw [exitCode_execute]
  cases h : Options.ofArguments arguments with
  | error stop =>
    rw [execute_of_stop h]
    cases stop with
    | help full => simp
    | version => simp
    | usage e => simp [Execution.reply]
  | ok options =>
    rw [execute_of_options h]
    cases hr : (w.run options).1.result with
    | error e =>
      simp [hr, run_eq_self hr]
    | ok u => simp [hr]

end World

end LookupLog
