import LookupLog.Proofs.Run.Effects

/-!
# Spellings of options

An option with its value can be written in one argument or in two, and the identifier of the run can
stand between options or behind two hyphens. An option in two arguments stays pending until the next
one is reached, but that makes no difference in the end:

* `foldlM_read_spelling`: an option is settled behind what was pending, however it is written;
* `foldlM_read_spells`: so some options are settled one after the other;
* `ofArguments_eq`: only the options and the identifier count, and not how they are written.
-/

namespace LookupLog

/-! ## 1. What a command line may be written as -/

namespace OptionName

/-- Does not look like an option. -/
def IsPlainArgument (argument : Text) : Prop :=
  argument.head? ≠ some '-'

instance (argument : Text) : Decidable (IsPlainArgument argument) :=
  inferInstanceAs (Decidable (argument.head? ≠ some '-'))

/-- The ways to write an option with its value. -/
inductive IsSpelling (option : OptionName) (value : Text) : List Text → Prop where
  /-- `--name=value` -/
  | joined : IsSpelling option value ['-' :: '-' :: (option.long ++ '=' :: value)]
  /-- `--name value` -/
  | long (hv : IsPlainArgument value) : IsSpelling option value ['-' :: '-' :: option.long, value]
  /-- `-n value` -/
  | short {letter : Char} (hl : option.short? = some letter) (hv : IsPlainArgument value) :
      IsSpelling option value [['-', letter], value]

/-- Some options with their values, written one after the other. -/
inductive Spells : List (OptionName × Text) → List Text → Prop where
  | nil : Spells [] []
  | cons {option : OptionName} {value : Text} {spelling arguments : List Text}
      {occurrences : List (OptionName × Text)} (hs : option.IsSpelling value spelling)
      (hr : Spells occurrences arguments) :
      Spells ((option, value) :: occurrences) (spelling ++ arguments)

/-- **A command line** with the identifier of a run and some options: the identifier stands anywhere
    between the options if it does not look like one, or at the end behind two hyphens. -/
inductive IsCommandLine (k : Text) : List (OptionName × Text) → List Text → Prop where
  | between {before after : List (OptionName × Text)} {front back : List Text}
      (hk : IsPlainArgument k) (hb : Spells before front) (ha : Spells after back) :
      IsCommandLine k (before ++ after) (front ++ k :: back)
  | last {occurrences : List (OptionName × Text)} {arguments : List Text}
      (h : Spells occurrences arguments) :
      IsCommandLine k occurrences (arguments ++ [['-', '-'], k])

end OptionName

open OptionName

namespace CommandLine

/-! ## 2. One option -/

variable {c d : CommandLine} {option : OptionName} {value : Text}

/-- An option or an identifier may begin here. -/
def IsReady (c : CommandLine) : Prop :=
  c.trailing = false ∧ ∀ option, c.pending ≠ some { option, value := none }

/-- What is read where an option may begin: a name with a value behind it, -/
theorem read_joined (ht : c.trailing = false) (option : OptionName) (value : Text) :
    c.read ('-' :: '-' :: (option.long ++ '=' :: value)) = c.readOption option (some value) := by
  unfold read
  rw [ht]
  cases option <;> rfl

/-- a name, -/
theorem read_long (ht : c.trailing = false) (option : OptionName) :
    c.read ('-' :: '-' :: option.long) = c.readOption option none := by
  unfold read
  rw [ht]
  cases option <;> rfl

/-- a letter, -/
theorem read_short (ht : c.trailing = false) {letter : Char} (hl : option.short? = some letter) :
    c.read ['-', letter] = c.readOption option none := by
  unfold read
  rw [ht]
  cases option with
  | series => cases hl
  | template | config | format =>
    cases hl
    rfl

/-- or what does not look like an option. -/
theorem read_plain (ht : c.trailing = false) (hv : IsPlainArgument value) :
    c.read value = c.readPlain value := by
  unfold read
  rw [ht, if_neg Bool.false_ne_true]
  split
  · exact absurd rfl hv
  · exact absurd rfl hv
  · exact absurd rfl hv
  · rfl

/-- Settling leaves no option pending and changes nothing but the options. -/
theorem fields_of_give (h : c.give option value = .ok d) :
    d.pending = c.pending ∧ d.trailing = c.trailing ∧ d.k = c.k := by
  unfold give at h
  split at h
  · cases h
  · cases option with
    | template =>
      cases h
      exact ⟨rfl, rfl, rfl⟩
    | config | series =>
      by_cases hv : value = []
      · simp only [set?, hv, if_true] at h
        cases h
      · simp only [set?, hv, if_false] at h
        cases h
        exact ⟨rfl, rfl, rfl⟩
    | format =>
      simp only [set?] at h
      cases hf : ReportFormat.ofName? value with
      | none =>
        rw [hf] at h
        cases h
      | some f =>
        rw [hf] at h
        cases h
        exact ⟨rfl, rfl, rfl⟩

theorem fields_of_settle (hc : c.IsReady) (h : c.settle = .ok d) :
    d.pending = none ∧ d.trailing = false ∧ d.k = c.k := by
  unfold settle at h
  split at h
  · rename_i hp
    cases h
    exact ⟨hp, hc.1, rfl⟩
  · rename_i option hp
    exact absurd hp (hc.2 option)
  · obtain ⟨hp, ht, hk⟩ := fields_of_give h
    exact ⟨hp, ht.trans hc.1, hk⟩

theorem isReady_of_settled (hp : c.pending = none) (ht : c.trailing = false) : c.IsReady :=
  ⟨ht, fun _ h => nomatch hp.symm.trans h⟩

theorem settle_of_settled (hp : c.pending = none) : c.settle = .ok c := by
  unfold settle
  rw [hp]

/-- An option in one argument is settled at once, -/
theorem foldlM_read_joined (hc : c.IsReady) (option : OptionName) (value : Text) :
    ['-' :: '-' :: (option.long ++ '=' :: value)].foldlM read c =
      c.settle >>= fun d => d.give option value := by
  show (c.read _ >>= fun d => pure d) = _
  rw [read_joined hc.1, bind_pure]
  rfl

/-- and one in two arguments is pending behind them. -/
theorem foldlM_read_apart (hc : c.IsReady) {name : Text}
    (hn : c.read name = c.readOption option none) (hv : IsPlainArgument value) :
    [name, value].foldlM read c =
      c.settle >>= fun d => .ok { d with pending := some { option, value := some value } } := by
  show (c.read name >>= fun d => d.read value >>= fun d => pure d) = _
  rw [hn]
  unfold readOption
  cases hd : c.settle with
  | error e => rfl
  | ok d =>
    obtain ⟨-, ht, -⟩ := fields_of_settle hc hd
    show (read { d with pending := some { option, value := none } } value >>= fun d => pure d) = _
    rw [read_plain (by exact ht) hv]
    rfl

/-- **An option is settled behind what was pending**, however it is written. -/
theorem foldlM_read_spelling {spelling : List Text} (hc : c.IsReady)
    (hs : option.IsSpelling value spelling) :
    spelling.foldlM read c >>= settle = c.settle >>= fun d => d.give option value := by
  have hapart : (c.settle >>= fun d =>
        .ok { d with pending := some { option, value := some value } }) >>= settle =
      c.settle >>= fun d => d.give option value := by
    cases hd : c.settle with
    | error e => rfl
    | ok d =>
      obtain ⟨hp, -, -⟩ := fields_of_settle hc hd
      show give { d with pending := none } option value = d.give option value
      rw [← hp]
  cases hs with
  | joined =>
    rw [foldlM_read_joined hc]
    cases hd : c.settle with
    | error e => rfl
    | ok d =>
      obtain ⟨hp, -, -⟩ := fields_of_settle hc hd
      show d.give option value >>= settle = d.give option value
      cases hg : d.give option value with
      | error e => rfl
      | ok d' => exact settle_of_settled ((fields_of_give hg).1.trans hp)
  | long hv => rw [foldlM_read_apart hc (read_long hc.1 option) hv, hapart]
  | short hl hv => rw [foldlM_read_apart hc (read_short hc.1 hl) hv, hapart]

/-- Behind it an option may begin again. -/
theorem isReady_of_spelling {spelling : List Text} (hc : c.IsReady)
    (hs : option.IsSpelling value spelling) (h : spelling.foldlM read c = .ok d) :
    d.IsReady ∧ d.k = c.k := by
  have hapart : (c.settle >>= fun d =>
        .ok { d with pending := some { option, value := some value } }) = .ok d →
      d.IsReady ∧ d.k = c.k := by
    intro h
    obtain ⟨s, hs, he⟩ := Except.bind_eq_ok_iff.mp h
    obtain ⟨-, ht, hk⟩ := fields_of_settle hc hs
    cases he
    exact ⟨⟨ht, nofun⟩, hk⟩
  cases hs with
  | joined =>
    rw [foldlM_read_joined hc] at h
    obtain ⟨s, hs, hg⟩ := Except.bind_eq_ok_iff.mp h
    obtain ⟨hp, ht, hk⟩ := fields_of_settle hc hs
    obtain ⟨hp', ht', hk'⟩ := fields_of_give hg
    exact ⟨isReady_of_settled (hp'.trans hp) (ht'.trans ht), hk'.trans hk⟩
  | long hv =>
    rw [foldlM_read_apart hc (read_long hc.1 option) hv] at h
    exact hapart h
  | short hl hv =>
    rw [foldlM_read_apart hc (read_short hc.1 hl) hv] at h
    exact hapart h

/-! ## 3. Many options -/

/-- The command line with some options settled, one after the other. -/
def settleAll (c : CommandLine) (occurrences : List (OptionName × Text)) :
    Except Stop CommandLine :=
  occurrences.foldlM (fun c occurrence => c.give occurrence.1 occurrence.2) c

/-- **Reading some options settles them one after the other.** -/
theorem foldlM_read_spells {occurrences : List (OptionName × Text)} {arguments : List Text}
    (hc : c.IsReady) (h : Spells occurrences arguments) :
    arguments.foldlM read c >>= settle = c.settle >>= fun d => d.settleAll occurrences := by
  induction h generalizing c with
  | nil =>
    show c.settle = c.settle >>= pure
    rw [bind_pure]
  | cons hs hr ih =>
    rename_i option value spelling arguments occurrences
    calc (spelling ++ arguments).foldlM read c >>= settle
        = spelling.foldlM read c >>= fun d => arguments.foldlM read d >>= settle := by
          rw [List.foldlM_append, bind_assoc]
      _ = spelling.foldlM read c >>= fun d => d.settle >>= fun d => d.settleAll occurrences := by
          cases hd : spelling.foldlM read c with
          | error e => rfl
          | ok d => exact ih (isReady_of_spelling hc hs hd).1
      _ = (c.settle >>= fun d => d.give option value) >>= fun d => d.settleAll occurrences := by
          rw [← foldlM_read_spelling hc hs, bind_assoc]
      _ = c.settle >>= fun d => d.settleAll ((option, value) :: occurrences) := by
          rw [bind_assoc]
          rfl

theorem isReady_of_spells {occurrences : List (OptionName × Text)} {arguments : List Text}
    (hc : c.IsReady) (h : Spells occurrences arguments) (hd : arguments.foldlM read c = .ok d) :
    d.IsReady ∧ d.k = c.k := by
  induction h generalizing c with
  | nil =>
    cases hd
    exact ⟨hc, rfl⟩
  | cons hs hr ih =>
    rw [List.foldlM_append] at hd
    obtain ⟨e, he, hd⟩ := Except.bind_eq_ok_iff.mp hd
    obtain ⟨hready, hk⟩ := isReady_of_spelling hc hs he
    obtain ⟨hready', hk'⟩ := ih hready hd
    exact ⟨hready', hk'.trans hk⟩

/-! ## 4. The identifier -/

/-- The command line with the same options, but what does not concern them set anew. -/
def withFrame (k : Option Text) (trailing : Bool) (c : CommandLine) : CommandLine :=
  { c with k, trailing }

/-- The options of a command line, with the identifier of a run. -/
def options (k : Text) (c : CommandLine) : Options where
  k := k
  template := c.template
  config := c.config
  format := c.format
  series := c.series

/-- The frame makes no difference to the options. -/
theorem give_withFrame (k : Option Text) (trailing : Bool) (c : CommandLine) (option : OptionName)
    (value : Text) :
    (c.withFrame k trailing).give option value =
      (c.give option value).map (withFrame k trailing) := by
  have hg : (c.withFrame k trailing).isGiven option = c.isGiven option := by
    cases option <;> rfl
  have hs : (c.withFrame k trailing).set? option value =
      (c.set? option value).map (withFrame k trailing) := by
    cases option with
    | template => rfl
    | config | series =>
      by_cases hv : value = []
      · simp only [set?, hv, if_true, Option.map_none]
      · simp only [set?, hv, if_false, Option.map_some]
        rfl
    | format =>
      simp only [set?, Option.map_map]
      rfl
  unfold give
  rw [hg, hs]
  split
  · rfl
  · cases c.set? option value <;> rfl

theorem settle_withFrame (k : Option Text) (trailing : Bool) (c : CommandLine) :
    (c.withFrame k trailing).settle = c.settle.map (withFrame k trailing) := by
  have hp : (c.withFrame k trailing).pending = c.pending := rfl
  unfold settle
  rw [hp]
  cases c.pending with
  | none => rfl
  | some pending =>
    obtain ⟨option, value⟩ := pending
    cases value with
    | none => rfl
    | some value => exact give_withFrame k trailing { c with pending := none } option value

theorem settleAll_withFrame (k : Option Text) (trailing : Bool) (c : CommandLine)
    (occurrences : List (OptionName × Text)) :
    (c.withFrame k trailing).settleAll occurrences =
      (c.settleAll occurrences).map (withFrame k trailing) := by
  induction occurrences generalizing c with
  | nil => rfl
  | cons occurrence occurrences ih =>
    show ((c.withFrame k trailing).give occurrence.1 occurrence.2 >>= fun d =>
      d.settleAll occurrences) = _
    rw [give_withFrame]
    show _ = (c.give occurrence.1 occurrence.2 >>= fun d =>
      d.settleAll occurrences).map (withFrame k trailing)
    cases c.give occurrence.1 occurrence.2 with
    | error e => rfl
    | ok d => exact ih d

theorem settleAll_append (c : CommandLine) (before after : List (OptionName × Text)) :
    c.settleAll (before ++ after) = c.settleAll before >>= fun d => d.settleAll after :=
  List.foldlM_append

theorem pending_of_settleAll {occurrences : List (OptionName × Text)} (hp : c.pending = none)
    (h : c.settleAll occurrences = .ok d) : d.pending = none := by
  induction occurrences generalizing c with
  | nil =>
    cases h
    exact hp
  | cons occurrence occurrences ih =>
    obtain ⟨e, he, hd⟩ := Except.bind_eq_ok_iff.mp h
    exact ih ((fields_of_give he).1.trans hp) hd

/-- An identifier is read behind what was pending. -/
theorem readIdentifier_eq (hk : c.k = none) (k : Text) :
    c.readIdentifier k = c.settle >>= fun d => .ok (d.withFrame (some k) d.trailing) := by
  unfold readIdentifier
  rw [hk]
  rfl

theorem readPlain_eq (hc : c.IsReady) (k : Text) : c.readPlain k = c.readIdentifier k := by
  unfold readPlain
  split
  · rename_i option hp
    exact absurd hp (hc.2 option)
  · rfl

/-- A settled command line with an identifier is complete. -/
theorem finish_withFrame (hp : c.pending = none) (k : Text) (trailing : Bool) :
    (c.withFrame (some k) trailing).finish = .ok (c.options k) := by
  have hs : (c.withFrame (some k) trailing).settle = .ok (c.withFrame (some k) trailing) :=
    settle_of_settled hp
  unfold finish
  rw [hs]
  rfl

/-- What is pending at the end is settled. -/
theorem finish_eq_settle (hc : c.IsReady) : c.finish = c.settle >>= finish := by
  unfold finish
  cases hd : c.settle with
  | error e => rfl
  | ok d =>
    obtain ⟨hp, -, -⟩ := fields_of_settle hc hd
    show _ = d.settle >>= _
    rw [settle_of_settled hp]

/-- Options behind the identifier. -/
theorem finish_spells {occurrences : List (OptionName × Text)} {arguments : List Text}
    (hp : c.pending = none) (h : Spells occurrences arguments) (k : Text) :
    arguments.foldlM read (c.withFrame (some k) false) >>= finish =
      (c.settleAll occurrences).map (options k) := by
  have hready : (c.withFrame (some k) false).IsReady := isReady_of_settled hp rfl
  calc arguments.foldlM read (c.withFrame (some k) false) >>= finish
      = arguments.foldlM read (c.withFrame (some k) false) >>= fun d => d.settle >>= finish := by
        cases hd : arguments.foldlM read (c.withFrame (some k) false) with
        | error e => rfl
        | ok d => exact finish_eq_settle (isReady_of_spells hready h hd).1
    _ = (c.withFrame (some k) false).settleAll occurrences >>= finish := by
        rw [← bind_assoc, foldlM_read_spells hready h, settle_of_settled (by exact hp)]
        rfl
    _ = (c.settleAll occurrences).map (options k) := by
        rw [settleAll_withFrame]
        cases hd : c.settleAll occurrences with
        | error e => rfl
        | ok d => exact finish_withFrame (pending_of_settleAll hp hd) k false

end CommandLine

/-- The identifier stands between options. -/
theorem Options.ofArguments_between {k : Text} {before after : List (OptionName × Text)}
    {front back : List Text} (hk : IsPlainArgument k) (hb : Spells before front)
    (ha : Spells after back) : Options.ofArguments (front ++ k :: back) =
      (CommandLine.settleAll {} (before ++ after)).map (CommandLine.options k) := by
  have hready : CommandLine.IsReady {} := ⟨rfl, nofun⟩
  calc (front ++ k :: back).foldlM CommandLine.read {} >>= CommandLine.finish
      = front.foldlM CommandLine.read {} >>= fun d =>
          (d.read k >>= fun d => back.foldlM CommandLine.read d) >>= CommandLine.finish := by
        rw [List.foldlM_append, bind_assoc]
        rfl
    _ = front.foldlM CommandLine.read {} >>= fun d => d.settle >>= fun d =>
          (d.settleAll after).map (CommandLine.options k) := by
        cases hd : front.foldlM CommandLine.read {} with
        | error e => rfl
        | ok d =>
          obtain ⟨hr, hk'⟩ := CommandLine.isReady_of_spells hready hb hd
          show (d.read k >>= _) >>= _ = d.settle >>= _
          rw [CommandLine.read_plain hr.1 hk, CommandLine.readPlain_eq hr,
            CommandLine.readIdentifier_eq hk']
          cases hs : d.settle with
          | error e => rfl
          | ok s =>
            obtain ⟨hp, ht, -⟩ := CommandLine.fields_of_settle hr hs
            show back.foldlM CommandLine.read (s.withFrame (some k) s.trailing) >>= _ = _
            rw [ht]
            exact CommandLine.finish_spells hp ha k
    _ = (CommandLine.settleAll {} (before ++ after)).map (CommandLine.options k) := by
        rw [← bind_assoc, CommandLine.foldlM_read_spells hready hb, CommandLine.settleAll_append]
        show CommandLine.settleAll {} before >>= _ = _
        cases CommandLine.settleAll {} before <;> rfl

/-- The identifier stands at the end, behind two hyphens. -/
theorem Options.ofArguments_last {k : Text} {occurrences : List (OptionName × Text)}
    {front : List Text} (ha : Spells occurrences front) :
    Options.ofArguments (front ++ [['-', '-'], k]) =
      (CommandLine.settleAll {} occurrences).map (CommandLine.options k) := by
  have hready : CommandLine.IsReady {} := ⟨rfl, nofun⟩
  calc (front ++ [['-', '-'], k]).foldlM CommandLine.read {} >>= CommandLine.finish
      = front.foldlM CommandLine.read {} >>= fun d =>
          (d.read ['-', '-'] >>= fun d => d.read k >>= fun d => pure d) >>=
            CommandLine.finish := by
        rw [List.foldlM_append, bind_assoc]
        rfl
    _ = front.foldlM CommandLine.read {} >>= fun d => d.settle >>= fun d => .ok (d.options k) := by
        cases hd : front.foldlM CommandLine.read {} with
        | error e => rfl
        | ok d =>
          obtain ⟨hr, hk'⟩ := CommandLine.isReady_of_spells hready ha hd
          have hnone : none = d.k := hk'.symm
          have hmark : d.read ['-', '-'] = .ok (d.withFrame none true) := by
            unfold CommandLine.read CommandLine.withFrame
            rw [hr.1, hnone]
            rfl
          have hread : (d.withFrame none true).read k =
              (d.withFrame none true).readIdentifier k := rfl
          show (d.read ['-', '-'] >>= _) >>= _ = d.settle >>= _
          rw [hmark]
          show ((d.withFrame none true).read k >>= _) >>= _ = _
          rw [hread, CommandLine.readIdentifier_eq rfl, CommandLine.settle_withFrame]
          cases hs : d.settle with
          | error e => rfl
          | ok s =>
            obtain ⟨hp, -, -⟩ := CommandLine.fields_of_settle hr hs
            exact CommandLine.finish_withFrame (c := s) hp k true
    _ = (CommandLine.settleAll {} occurrences).map (CommandLine.options k) := by
        rw [← bind_assoc, CommandLine.foldlM_read_spells hready ha]
        show CommandLine.settleAll {} occurrences >>= _ = _
        cases CommandLine.settleAll {} occurrences <;> rfl

/-- **Only the identifier and the options count**, and not how they are written. -/
theorem Options.ofArguments_eq {k : Text} {occurrences : List (OptionName × Text)}
    {arguments : List Text} (h : IsCommandLine k occurrences arguments) :
    Options.ofArguments arguments =
      (CommandLine.settleAll {} occurrences).map (CommandLine.options k) := by
  cases h with
  | between hk hb ha => exact Options.ofArguments_between hk hb ha
  | last ha => exact Options.ofArguments_last ha

end LookupLog
