import LookupLog.Proofs.Options.Spellings
import Mathlib.Data.List.Nodup
import Mathlib.Data.List.Perm.Basic

/-!
# Options in any order

Options can be given in any order; what is read is what was meant.

* `settleAll_of_nodup`, `settleAll_of_repeated`: options that are given once are all set, and one
  that is given twice is refused;
* `ext_value?`: options are known by their values, which no order changes.
-/

namespace LookupLog

open OptionName

/-! ## 1. Values of options -/

/-- The value of an option, as it is written. -/
def Options.value? (options : Options) : OptionName → Option Text
  | .template => options.template
  | .config => options.config
  | .format => options.format.map ReportFormat.name
  | .series => options.series

/-- The options that are given, each with its value. -/
def Options.given (options : Options) : List (OptionName × Text) :=
  OptionName.all.filterMap fun option => (options.value? option).map fun value => (option, value)

/-- May be the value of an option: a path is not empty, and a format exists. -/
def OptionName.Allows : OptionName → Text → Prop
  | .template, _ => True
  | .config, value => value ≠ []
  | .format, value => ∃ format : ReportFormat, value = format.name
  | .series, value => value ≠ []

section Given

variable {options : Options} {option : OptionName} {value : Text}

theorem Options.mem_given_iff :
    (option, value) ∈ options.given ↔ options.value? option = some value := by
  unfold Options.given
  rw [List.mem_filterMap]
  refine ⟨fun h => ?_, fun h => ⟨option, by cases option <;> decide, by rw [h]; rfl⟩⟩
  obtain ⟨option', -, h⟩ := h
  obtain ⟨value', hv, he⟩ := Option.map_eq_some_iff.mp h
  cases he
  exact hv

/-- Each option is given once. -/
theorem Options.nodup_given (options : Options) : (options.given.map Prod.fst).Nodup := by
  unfold Options.given
  rw [List.map_filterMap]
  refine List.Nodup.filterMap (fun a b option ha hb => ?_) (by decide)
  have hname : ∀ {a}, option ∈ ((options.value? a).map fun value => (a, value)).map Prod.fst →
      a = option := by
    intro a h
    obtain ⟨x, hx, he⟩ := Option.map_eq_some_iff.mp h
    obtain ⟨v, -, hv⟩ := Option.map_eq_some_iff.mp hx
    rw [← he, ← hv]
  exact (hname ha).trans (hname hb).symm

/-- The options that can be asked for have values that are allowed. -/
theorem Options.allows_of_mem_given (hc : options.config ≠ some []) (hs : options.series ≠ some [])
    (h : (option, value) ∈ options.given) : option.Allows value := by
  rw [Options.mem_given_iff] at h
  cases option with
  | template => trivial
  | config =>
    intro hv
    exact hc (h.trans (congrArg some hv))
  | format =>
    obtain ⟨f, -, hf⟩ := Option.map_eq_some_iff.mp h
    exact ⟨f, hf.symm⟩
  | series =>
    intro hv
    exact hs (h.trans (congrArg some hv))

/-- Options are known by their identifier and their values. -/
theorem Options.ext_value? {a b : Options} (hk : a.k = b.k)
    (h : ∀ option, a.value? option = b.value? option) : a = b := by
  obtain ⟨ak, at', ac, af, as⟩ := a
  obtain ⟨bk, bt, bc, bf, bs⟩ := b
  have hf : af.map ReportFormat.name = bf.map ReportFormat.name := h .format
  have hi : Function.Injective ReportFormat.name := fun f g hfg =>
    Option.some.inj (by rw [← ReportFormat.ofName?_name f, hfg, ReportFormat.ofName?_name])
  obtain rfl : ak = bk := hk
  obtain rfl : at' = bt := h .template
  obtain rfl : ac = bc := h .config
  obtain rfl : as = bs := h .series
  obtain rfl : af = bf := Option.map_injective hi hf
  rfl

end Given

/-! ## 2. Options that are given once or twice -/

namespace CommandLine

variable {c : CommandLine} {option : OptionName} {value : Text}

theorem isGiven_eq (c : CommandLine) (k : Text) (option : OptionName) :
    c.isGiven option = ((c.options k).value? option).isSome := by
  cases option with
  | template | config | series => rfl
  | format => exact Option.isSome_map.symm

theorem give_of_set? {d : CommandLine} (hn : c.isGiven option = false)
    (hs : c.set? option value = some d) : c.give option value = .ok d := by
  unfold give
  rw [hn, hs]
  rfl

/-- An option that is given for the first time gets its value, and no other option changes. -/
theorem give_of_not_isGiven (hv : option.Allows value) (hn : c.isGiven option = false) :
    ∃ d, c.give option value = .ok d ∧ ∀ k other,
      (d.options k).value? other =
        if other = option then some value else (c.options k).value? other := by
  cases option with
  | template =>
    refine ⟨_, give_of_set? hn rfl, fun k other => ?_⟩
    cases other <;> rfl
  | config =>
    refine ⟨_, give_of_set? hn (if_neg hv), fun k other => ?_⟩
    cases other <;> rfl
  | series =>
    refine ⟨_, give_of_set? hn (if_neg hv), fun k other => ?_⟩
    cases other <;> rfl
  | format =>
    obtain ⟨f, rfl⟩ := hv
    have hs : c.set? .format f.name = some { c with format := some f } := by
      unfold set?
      rw [ReportFormat.ofName?_name]
      rfl
    refine ⟨_, give_of_set? hn hs, fun k other => ?_⟩
    cases other <;> rfl

/-- An option that is given again is refused. -/
theorem give_of_isGiven (h : c.isGiven option = true) (value : Text) :
    c.give option value = .error (.usage .repeatedOption) :=
  if_pos h

theorem isGiven_of_give {d : CommandLine} {k : Text}
    (h : ∀ other, (d.options k).value? other =
      if other = option then some value else (c.options k).value? other) (other : OptionName) :
    d.isGiven other = (decide (other = option) || c.isGiven other) := by
  rw [isGiven_eq d k, isGiven_eq c k, h]
  by_cases ho : other = option
  · simp [ho]
  · simp [ho]

/-- **Options that are given once are all set.** -/
theorem settleAll_of_nodup {occurrences : List (OptionName × Text)} (k : Text)
    (ha : ∀ occurrence ∈ occurrences, occurrence.1.Allows occurrence.2)
    (hd : (occurrences.map Prod.fst).Nodup)
    (hn : ∀ occurrence ∈ occurrences, c.isGiven occurrence.1 = false) :
    ∃ d, c.settleAll occurrences = .ok d ∧ ∀ option value,
      (d.options k).value? option = some value ↔
        (c.options k).value? option = some value ∨ (option, value) ∈ occurrences := by
  induction occurrences generalizing c with
  | nil => exact ⟨c, rfl, fun option value => by simp⟩
  | cons occurrence occurrences ih =>
    obtain ⟨option, value⟩ := occurrence
    obtain ⟨ha₁, ha⟩ := List.forall_mem_cons.mp ha
    obtain ⟨hn₁, hn⟩ := List.forall_mem_cons.mp hn
    obtain ⟨hfresh, hd⟩ := List.nodup_cons.mp hd
    obtain ⟨d, hg, hval⟩ := give_of_not_isGiven ha₁ hn₁
    have hn' : ∀ occurrence ∈ occurrences, d.isGiven occurrence.1 = false := by
      intro occurrence hm
      have hne : occurrence.1 ≠ option := fun he =>
        hfresh (List.mem_map.mpr ⟨occurrence, hm, he⟩)
      rw [isGiven_of_give (hval k), hn occurrence hm, decide_eq_false hne]
      rfl
    obtain ⟨e, he, hset⟩ := ih ha hd hn'
    refine ⟨e, ?_, fun option' value' => ?_⟩
    · show (c.give option value >>= fun d => d.settleAll occurrences) = .ok e
      rw [hg]
      exact he
    · have hnone : (c.options k).value? option = none := by
        rw [← Option.not_isSome_iff_eq_none, ← isGiven_eq, hn₁]
        exact Bool.false_ne_true
      rw [hset, hval, List.mem_cons, Prod.mk.injEq, ← or_assoc]
      refine or_congr_left ?_
      by_cases ho : option' = option
      · subst ho
        rw [if_pos rfl, hnone]
        simp [eq_comm]
      · rw [if_neg ho]
        simp [ho]

/-- **One option that is given twice makes a command line wrong.** -/
theorem settleAll_of_repeated {occurrences : List (OptionName × Text)}
    (ha : ∀ occurrence ∈ occurrences, occurrence.1.Allows occurrence.2)
    (hr : ¬((occurrences.map Prod.fst).Nodup ∧
      ∀ occurrence ∈ occurrences, c.isGiven occurrence.1 = false)) :
    c.settleAll occurrences = .error (.usage .repeatedOption) := by
  induction occurrences generalizing c with
  | nil => exact absurd ⟨List.nodup_nil, nofun⟩ hr
  | cons occurrence occurrences ih =>
    obtain ⟨option, value⟩ := occurrence
    obtain ⟨ha₁, ha⟩ := List.forall_mem_cons.mp ha
    show (c.give option value >>= fun d => d.settleAll occurrences) = _
    cases hn : c.isGiven option with
    | true =>
      rw [give_of_isGiven hn]
      rfl
    | false =>
      obtain ⟨d, hg, hval⟩ := give_of_not_isGiven ha₁ hn
      rw [hg]
      refine ih ha fun hd => hr ?_
      have hfresh : ∀ occurrence ∈ occurrences, occurrence.1 ≠ option ∧
          c.isGiven occurrence.1 = false := by
        intro occurrence hm
        have h := hd.2 occurrence hm
        rw [isGiven_of_give (hval [])] at h
        simpa using h
      refine ⟨List.nodup_cons.mpr ⟨fun hm => ?_, hd.1⟩,
        List.forall_mem_cons.mpr ⟨hn, fun occurrence hm => (hfresh occurrence hm).2⟩⟩
      obtain ⟨occurrence, hm, he⟩ := List.mem_map.mp hm
      exact (hfresh occurrence hm).1 he

end CommandLine

/-! ## 3. Command lines -/

/-- **What was meant is what is read**, in any order. Some options and the identifier of a run, each
    option written in either way and all of them in any order around the identifier, are read as
    these options and this identifier. With one more occurrence of an option that is already there,
    the command line is refused for it. -/
theorem Options.ofArguments_inAnyOrder {options : Options} (hc : options.config ≠ some [])
    (hs : options.series ≠ some []) :
    (∀ occurrences arguments, occurrences.Perm options.given →
      IsCommandLine options.k occurrences arguments → Options.ofArguments arguments = .ok options) ∧
    (∀ option value occurrences arguments, (options.value? option).isSome = true →
      option.Allows value → occurrences.Perm ((option, value) :: options.given) →
      IsCommandLine options.k occurrences arguments →
      Options.ofArguments arguments = .error (.usage .repeatedOption)) := by
  have hallowed : ∀ occurrence ∈ options.given, occurrence.1.Allows occurrence.2 :=
    fun _ h => Options.allows_of_mem_given hc hs h
  refine ⟨fun occurrences arguments hp h => ?_,
    fun option value occurrences arguments ho hv hp h => ?_⟩
  · obtain ⟨d, hd, hset⟩ := CommandLine.settleAll_of_nodup (c := {}) options.k
      (fun occurrence hm => hallowed occurrence (hp.mem_iff.mp hm))
      ((hp.map Prod.fst).nodup_iff.mpr options.nodup_given)
      (fun occurrence _ => by cases occurrence.1 <;> rfl)
    rw [Options.ofArguments_eq h, hd]
    refine congrArg Except.ok (Options.ext_value? rfl fun option => Option.ext fun value => ?_)
    have hnone : (CommandLine.options options.k {}).value? option ≠ some value := by
      cases option <;> exact nofun
    rw [hset, hp.mem_iff, Options.mem_given_iff]
    exact or_iff_right hnone
  · rw [Options.ofArguments_eq h, CommandLine.settleAll_of_repeated]
    · rfl
    · intro occurrence hm
      rcases List.mem_cons.mp (hp.mem_iff.mp hm) with rfl | hm
      · exact hv
      · exact hallowed occurrence hm
    · intro hd
      obtain ⟨value', hv'⟩ := Option.isSome_iff_exists.mp ho
      have hn := (List.nodup_cons.mp ((hp.map Prod.fst).nodup_iff.mp hd.1)).1
      exact hn (List.mem_map.mpr ⟨(option, value'), Options.mem_given_iff.mpr hv', rfl⟩)

/-- Options with values that look like options, like an assignment and like a format. -/
def Options.hyphens : Options where
  k := "--help".toList
  template := some "a=\x7bk\x7d".toList
  format := some .json
  series := some "-f".toList

/-- They are read in an order of their own, with the identifier behind two hyphens; a second format
    in front of these makes them wrong. -/
theorem Options.ofArguments_inAnyOrder_hyphens :
    (hyphens.config ≠ some [] ∧ hyphens.series ≠ some []) ∧
    Options.ofArguments (["--series=-f", "-t", "a=\x7bk\x7d", "--format", "json", "--",
      "--help"].map String.toList) = .ok hyphens ∧
    Options.ofArguments (["--series=-f", "-t", "a=\x7bk\x7d", "--format", "json", "--format=text",
      "--", "--help"].map String.toList) = .error (.usage .repeatedOption) := by
  have hc : hyphens.config ≠ some [] := nofun
  have hs : hyphens.series ≠ some [] := by decide
  have ht : IsSpelling .template "a=\x7bk\x7d".toList ["-t".toList, "a=\x7bk\x7d".toList] :=
    .short rfl (by decide)
  have hf : IsSpelling .format "json".toList ["--format".toList, "json".toList] := .long (by decide)
  have htext : Spells [(.format, "text".toList)] ["--format=text".toList] := .cons .joined .nil
  refine ⟨⟨hc, hs⟩, ?_, ?_⟩
  · exact (ofArguments_inAnyOrder hc hs).1
      [(.series, "-f".toList), (.template, "a=\x7bk\x7d".toList), (.format, "json".toList)] _
      (by decide) (.last (.cons .joined (.cons ht (.cons hf .nil))))
  · exact (ofArguments_inAnyOrder hc hs).2 .format "text".toList
      [(.series, "-f".toList), (.template, "a=\x7bk\x7d".toList), (.format, "json".toList),
        (.format, "text".toList)] _ rfl ⟨.text, rfl⟩ (by decide)
      (.last (.cons .joined (.cons ht (.cons hf htext))))

end LookupLog
