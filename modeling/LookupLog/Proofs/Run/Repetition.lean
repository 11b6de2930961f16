import LookupLog.Proofs.Run.AllOrNothing
import LookupLog.Proofs.Run.Frame
import Mathlib.Data.List.Basic

/-!
# Running twice

What a run writes is nothing that it reads, as long as the path for the series names neither the
config file nor the transcript (`Store.SeriesApart`). So a file for the series may be there or not
(`Store.sameInputs_put`), and the program does the same when it is executed again
(`execute_repeats`).

A run that fails leaves the file for the series as it was, so there what it held before does matter
(`series_kept_by_failure`).
-/

namespace LookupLog

/-! ## 1. Another file for the series -/

namespace Store

variable {s : Store} {options : Options} {path : Text} {l : Location} {content : Bytes}

/-- The path for the series names neither the config file nor the transcript. -/
def SeriesApart (options : Options) (s : Store) : Prop :=
  ∀ path ∈ options.series, ∀ l, s.locate path = .ok l →
    (∀ config ∈ options.config, s.locate config ≠ .ok l) ∧
    (∀ settings, s.settings options = .ok settings →
      s.locate (settings.transcriptPath options.k) ≠ .ok l)

theorem seriesApart_of_settings {settings : Settings} (hp : options.series = some path)
    (hl : s.locate path = .ok l) (hc : ∀ config ∈ options.config, s.locate config ≠ .ok l)
    (hs : s.settings options = .ok settings)
    (ht : s.locate (settings.transcriptPath options.k) ≠ .ok l) : s.SeriesApart options := by
  intro path' hp' l' hl'
  obtain rfl : path = path' := Option.some.inj (hp.symm.trans hp')
  obtain rfl : l = l' := Except.ok.inj (hl.symm.trans hl')
  refine ⟨hc, fun settings' hs' => ?_⟩
  obtain rfl : settings = settings' := Except.ok.inj (hs.symm.trans hs')
  exact ht

/-- A store in which a run finds the files it reads. -/
structure FindsInputs (options : Options) (s : Store) : Prop where
  config : ∀ path ∈ options.config, ∃ node, s.openNode path = .ok node
  transcript : ∀ settings, s.settings options = .ok settings →
    ∃ node, s.openNode (settings.transcriptPath options.k) = .ok node

theorem exists_of_ofOpened_config {opened : Except FileError Node} {config : Config}
    (h : Config.ofOpened path opened = .ok config) : ∃ node, opened = .ok node := by
  cases opened with
  | error e => cases h
  | ok node => exact ⟨node, rfl⟩

theorem exists_of_ofOpened {opened : Except FileError Node} {t : Transcript}
    (h : (Transcript.ofOpened path opened).1 = .ok t) : ∃ node, opened = .ok node := by
  cases opened with
  | error e => cases h
  | ok node => exact ⟨node, rfl⟩

/-- A run that has effects finds its files. -/
theorem findsInputs_of_effects {f : Effects} (h : s.effects options = .ok f) :
    s.FindsInputs options := by
  obtain ⟨settings, t, -, hs, ht, -⟩ := effects_eq_ok_iff.mp h
  refine ⟨fun path hp => ?_, fun settings' hs' => ?_⟩
  · simp only [Store.settings, Except.bind_eq_ok_iff, Except.mapError_eq_ok_iff] at hs
    obtain ⟨config, hc, -⟩ := hs
    rw [Option.mem_def.mp hp] at hc
    exact exists_of_ofOpened_config hc
  · rw [hs] at hs'
    cases hs'
    exact exists_of_ofOpened ht

theorem withSeries_put (h : s.node? l ≠ some .directory) (hp : options.series = some path)
    (hl : s.locate path = .ok l) (samples : List Sample) :
    (s.put l (.file content)).withSeries options.series samples =
      s.withSeries options.series samples := by
  rw [hp, withSeries, withSeries, create_put h hl]

/-- **Another file for the series does not matter** to a run that finds its files, with either of
    the two. -/
theorem sameInputs_put (ha : s.SeriesApart options) (h : s.node? l ≠ some .directory)
    (hp : options.series = some path) (hl : s.locate path = .ok l)
    (hf : s.FindsInputs options ∨ (s.put l (.file content)).FindsInputs options) :
    SameInputs options s (s.put l (.file content)) := by
  obtain ⟨hc, ht⟩ := ha path hp l hl
  have hcs : ∀ p ∈ options.config, (s.put l (.file content)).openNode p = s.openNode p :=
    fun p hm => openNode_put_of_opened h (hc p hm)
      (hf.imp (fun hf => hf.config p hm) fun hf => hf.config p hm)
  refine ⟨hcs, fun settings hs => ?_, withSeries_put h hp hl⟩
  -- the settings are the same by now, and so is the path of the transcript
  have hs' := (settings_congr hcs).trans hs
  exact openNode_put_of_opened h (ht settings hs)
    (hf.imp (fun hf => hf.transcript settings hs) fun hf => hf.transcript settings hs')

/-- In place of another file it does not matter at all. -/
theorem sameInputs_put_of_file (ha : s.SeriesApart options) {old : Bytes}
    (h : s.node? l = some (.file old)) (hp : options.series = some path)
    (hl : s.locate path = .ok l) : SameInputs options s (s.put l (.file content)) := by
  obtain ⟨hc, ht⟩ := ha path hp l hl
  have hd : s.node? l ≠ some .directory := by
    rw [h]
    exact fun h => by cases h
  exact ⟨fun p hm => openNode_put_of_file h (hc p hm),
    fun settings hs => openNode_put_of_file h (ht settings hs), withSeries_put hd hp hl⟩

/-- With the series in it a store is the same for a run that could write it. -/
theorem sameInputs_of_effects (ha : s.SeriesApart options) {f : Effects}
    (h : s.effects options = .ok f) : SameInputs options s f.store := by
  obtain ⟨settings, t, summary, -, -, -, hw, -⟩ := effects_eq_ok_iff.mp h
  cases hp : options.series with
  | none =>
    rw [hp] at hw
    cases hw
    exact .refl options _
  | some path =>
    rw [hp] at hw
    obtain ⟨l, hl, -, hd, hf⟩ := create_eq_ok_iff.mp (Except.mapError_eq_ok_iff.mp hw)
    rw [hf]
    exact sameInputs_put ha hd hp hl (Or.inl (findsInputs_of_effects h))

end Store

/-! ## 2. Once more -/

namespace World

variable {w w' : World} {options : Options}

/-- A program that does the same again in the world it has left behind: it gives the same answer,
    leaves the files as they are and prints the same behind what was printed before. -/
structure Repeats {α : Type} (program : World → α × World) (w : World) : Prop where
  answer : (program (program w).2).1 = (program w).1
  store : (program (program w).2).2.store = (program w).2.store
  printed : ∃ output, (program w).2.printed = w.printed ++ output ∧
    (program (program w).2).2.printed = (program w).2.printed ++ output

theorem Repeats.map {α β : Type} {program : World → α × World} (g : α → β)
    (h : Repeats program w) : Repeats (fun w => (g (program w).1, (program w).2)) w :=
  ⟨congrArg g h.answer, h.store, h.printed⟩

/-- A run whose path for the series is apart can be repeated. -/
theorem run_repeats (h : w.store.SeriesApart options) : Repeats (·.run options) w := by
  have hw := world_of_sameInputs (.refl options w.store)
  cases he : w.store.effects options with
  | error e =>
    rw [he] at hw
    have hw : (w.run options).2 = w := hw
    refine ⟨?_, ?_, [], ?_, ?_⟩ <;> simp only [hw, List.append_nil]
  | ok f =>
    rw [he] at hw
    -- the second run starts from the store with the series in it
    have hi : w.store.SameInputs options (w.run options).2.store := by
      rw [hw]
      exact Store.sameInputs_of_effects h he
    have hw' := world_of_sameInputs hi
    rw [he] at hw'
    exact ⟨run_of_sameInputs hi, by rw [hw', hw]; rfl, f.report, by rw [hw]; rfl, by rw [hw']; rfl⟩

/-- The world with a file at a location. -/
def withFile (w : World) (l : Location) (content : Bytes) : World :=
  { w with store := w.store.put l (.file content) }

theorem effects_of_run {u : Unit} (h : (w.run options).1.result = .ok u) :
    ∃ f, w.store.effects options = .ok f := by
  have hc := run_eq_commit w options
  cases he : w.store.effects options with
  | error e =>
    rw [he, h] at hc
    cases (Prod.mk.inj hc).1
  | ok f => exact ⟨f, rfl⟩

section File

variable {path : Text} {l : Location} (ha : w.store.SeriesApart options)
  (hp : options.series = some path) (hl : w.store.locate path = .ok l) (content : Bytes)

include ha hp hl

/-- What a run says does not depend on what the file for the series held before. -/
theorem run_withFile_of_file {old : Bytes} (h : w.store.node? l = some (.file old)) :
    ((w.withFile l content).run options).1 = (w.run options).1 ∧
      ((w.withFile l content).run options).2.printed = (w.run options).2.printed := by
  have hi : w.store.SameInputs options (w.withFile l content).store :=
    Store.sameInputs_put_of_file ha h hp hl
  refine ⟨run_of_sameInputs hi, ?_⟩
  rw [world_of_sameInputs hi, world_of_sameInputs (.refl options w.store)]
  cases w.store.effects options <;> rfl

/-- If it succeeds then what it leaves does not either, nor on whether there was a file. -/
theorem run_withFile_of_ok (h : w.store.node? l ≠ some .directory)
    (hr : (w.run options).1.result = .ok () ∨
      ((w.withFile l content).run options).1.result = .ok ()) :
    (w.withFile l content).run options = w.run options := by
  have hf : w.store.FindsInputs options ∨ (w.withFile l content).store.FindsInputs options := by
    rcases hr with hr | hr
    · obtain ⟨f, he⟩ := effects_of_run hr
      exact Or.inl (Store.findsInputs_of_effects he)
    · obtain ⟨f, he⟩ := effects_of_run hr
      exact Or.inr (Store.findsInputs_of_effects he)
  have hi : w.store.SameInputs options (w.withFile l content).store :=
    Store.sameInputs_put ha h hp hl hf
  have ho := run_of_sameInputs hi
  have hr' : (w.run options).1.result = .ok () := hr.elim id fun hr => by rwa [ho] at hr
  obtain ⟨f, he⟩ := effects_of_run hr'
  refine Prod.ext ho ?_
  rw [world_of_sameInputs hi, world_of_sameInputs (.refl options w.store), he]
  rfl

end File

/-- **Executing the program again changes nothing.** Let the path for the series, if there is one,
    name neither the config file nor the transcript. Then the second of two executions says and
    prints what the first one did and leaves the files as they are, and so it is for the run alone.
    Moreover, if a file for the series can stand at its path, another content of it changes neither
    the outcome of the run nor what is printed. If the run succeeds with or without that content
    then the two runs are the same altogether, also if there was no file before; and a run that
    fails keeps what was there. -/
theorem execute_repeats {w : World} {setting : Text} {arguments : List Text}
    (h : ∀ options, Options.ofArguments arguments = .ok options → w.store.SeriesApart options) :
    Repeats (·.execute setting arguments) w ∧
    ∀ options, Options.ofArguments arguments = .ok options →
      Repeats (·.run options) w ∧
      ∀ path l, options.series = some path → w.store.locate path = .ok l →
        w.store.node? l ≠ some .directory → ∀ content,
        ((∃ old, w.store.node? l = some (.file old)) →
          ((w.withFile l content).run options).1 = (w.run options).1 ∧
          ((w.withFile l content).run options).2.printed = (w.run options).2.printed) ∧
        ((w.run options).1.result = .ok () ∨
            ((w.withFile l content).run options).1.result = .ok () →
          (w.withFile l content).run options = w.run options) ∧
        ∀ e, ((w.withFile l content).run options).1.result = .error e →
          ((w.withFile l content).run options).2 = w.withFile l content := by
  constructor
  · cases ho : Options.ofArguments arguments with
    | error stop =>
      simp only [execute_of_stop ho]
      exact ⟨rfl, rfl, _, rfl, rfl⟩
    | ok options =>
      simp only [execute_of_options ho]
      exact (run_repeats (h options ho)).map fun outcome =>
        (Execution.ofOutcome (Execution.filterFor setting) options.k outcome).precededBy
          (Execution.warningText setting)
  · intro options ho
    have ha := h options ho
    refine ⟨run_repeats ha, fun path l hp hl hd content => ⟨?_, ?_, fun e => run_eq_self⟩⟩
    · rintro ⟨old, hf⟩
      exact run_withFile_of_file ha hp hl content hf
    · exact run_withFile_of_ok ha hp hl content hd

/-- The series of a transcript in place of an old file. -/
theorem execute_repeats_over_old_series :
    let log := Utf8.encode "[E] T 1 100\n[E] S 1 2 50\n".toList
    let w : World := { store :=
      (Store.empty.place "log_k1.txt".toList (.file log)).place "s.json".toList (.file [1]) }
    let arguments := ["1".toList, "--series".toList, "s.json".toList]
    let options : Options := { k := "1".toList, series := some "s.json".toList }
    (∀ options, Options.ofArguments arguments = .ok options → w.store.SeriesApart options) ∧
    Options.ofArguments arguments = .ok options ∧
    Repeats (·.execute [] arguments) w ∧
    (w.run options).1.result = .ok () ∧
    (w.withFile ["work".toList, "s.json".toList] [2]).run options = w.run options := by
  intro log w arguments options
  have ho : Options.ofArguments arguments = .ok options := by decide +kernel
  have hl : w.store.locate "s.json".toList = .ok ["work".toList, "s.json".toList] := by
    decide +kernel
  have hs : w.store.settings options =
      .ok { template := "log_k{k}.txt".toList, format := .text } := by decide +kernel
  have h : ∀ options, Options.ofArguments arguments = .ok options →
      w.store.SeriesApart options := by
    intro options' ho'
    obtain rfl : options = options' := Except.ok.inj (ho.symm.trans ho')
    exact Store.seriesApart_of_settings rfl hl nofun hs (by decide +kernel)
  have hr : (w.run options).1.result = .ok () := by decide +kernel
  obtain ⟨ha, hi⟩ := @execute_repeats w [] arguments h
  refine ⟨h, ho, ha, hr, ?_⟩
  exact ((hi options ho).2 _ _ rfl hl (by decide +kernel) [2]).2.1 (Or.inl hr)

/-- Without a transcript the run fails before it comes to the series. A file for it that could be
    replaced then holds what it held before. -/
theorem series_kept_by_failure :
    let w (content : Bytes) : World :=
      { store := Store.empty.place "s.json".toList (.file content) }
    let options : Options := { k := "1".toList, series := some "s.json".toList }
    let l : Location := ["work".toList, "s.json".toList]
    let old := Utf8.encode "old".toList
    let new := Utf8.encode "new".toList
    Options.ofArguments ["1".toList, "--series".toList, "s.json".toList] = .ok options ∧
    (w old).store.SeriesApart options ∧
    (w old).store.locate "s.json".toList = .ok l ∧
    (∀ content, (w old).store.create "s.json".toList content = .ok (w content).store) ∧
    ((w old).run options).1.result =
      .error (.transcript (.cannotOpen "log_k1.txt".toList .notFound)) ∧
    (w old).withFile l new = w new ∧
    ((w old).run options).2.store.node? l = some (.file old) ∧
    ((w new).run options).2.store.node? l = some (.file new) ∧
    old ≠ new := by
  intro w options l old new
  have hl : (w old).store.locate "s.json".toList = .ok l := by decide +kernel
  have hs : (w old).store.settings options =
      .ok { template := "log_k{k}.txt".toList, format := .text } := by decide +kernel
  have ha : (w old).store.SeriesApart options :=
    Store.seriesApart_of_settings rfl hl nofun hs (by decide +kernel)
  exact ⟨by decide +kernel, ha, hl, fun _ => rfl, by decide +kernel, rfl, by decide +kernel,
    by decide +kernel, by decide +kernel⟩

end World

end LookupLog
