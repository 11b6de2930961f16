import LookupLog.Config.Reading
import Mathlib.Data.List.Induction

/-!
# What the entries of a config file set

The entries are taken one after another. The first wrong one decides the error
(`ofEntries_of_isWrong`); if there is none, the configuration holds what the entries say
(`exists_ofEntries`).
-/

namespace LookupLog.Config

open Toml (Value Entries)

/-! ## 1. Right and wrong entries -/

/-- An array or a table without anything in it. -/
inductive IsNothing : Value → Prop where
  | array : IsNothing (.array [])
  | table {kind : Toml.TableKind} : IsNothing (.table kind [])

/-- The value names a format: by its name, or by a table that has this name as its only key and
    nothing below it. -/
inductive NamesFormat : Value → ReportFormat → Prop where
  | string {format : ReportFormat} : NamesFormat (.string format.name) format
  | table {kind : Toml.TableKind} {format : ReportFormat} {body : Value} (hb : IsNothing body) :
      NamesFormat (.table kind [(format.name, body)]) format

/-- Sets something. -/
inductive IsRight : Text × Value → Prop where
  | template {template : Text} : IsRight (templateKey, .string template)
  | format {value : Value} {format : ReportFormat} (h : NamesFormat value format) :
      IsRight (formatKey, value)

/-- Is wrong, and in which way. -/
inductive IsWrong : Text × Value → ConfigFault → Prop where
  | key {key : Text} {value : Value} (ht : key ≠ templateKey) (hf : key ≠ formatKey) :
      IsWrong (key, value) (.unknownKey key)
  | template {value : Value} (hs : ∀ template, value ≠ .string template) :
      IsWrong (templateKey, value) (.wrongType value.describe)
  | string {name : Text} (hn : ∀ format : ReportFormat, name ≠ format.name) :
      IsWrong (formatKey, .string name) (.unknownFormat name)
  | table {kind : Toml.TableKind} {name : Text} {body : Value}
      (hn : ∀ format : ReportFormat, name ≠ format.name) :
      IsWrong (formatKey, .table kind [(name, body)]) (.unknownFormat name)
  | body {kind : Toml.TableKind} {format : ReportFormat} {body : Value} (hb : ¬IsNothing body) :
      IsWrong (formatKey, .table kind [(format.name, body)]) .noFormatName
  | format {value : Value} (hs : ∀ name, value ≠ .string name)
      (ht : ∀ kind name body, value ≠ .table kind [(name, body)]) :
      IsWrong (formatKey, value) .noFormatName

/-- What the entries say is what the configuration holds, and nothing else is. -/
structure Holds (entries : Entries) (config : Config) : Prop where
  template : ∀ template, config.template = some template ↔ (templateKey, .string template) ∈ entries
  format : ∀ format, config.format = some format ↔
    ∃ value, (formatKey, value) ∈ entries ∧ NamesFormat value format

/-! ## 2. One entry -/

theorem isEmptyContainer_iff {value : Value} : isEmptyContainer value = true ↔ IsNothing value := by
  refine ⟨fun h => ?_, fun h => ?_⟩
  · unfold isEmptyContainer at h
    split at h
    · exact .array
    · exact .table
    · cases h
  · cases h
    all_goals rfl

theorem formatNamed_name (format : ReportFormat) : formatNamed format.name = .ok format := by
  unfold formatNamed
  rw [ReportFormat.ofName?_name]

theorem formatNamed_of_ne {name : Text} (h : ∀ format : ReportFormat, name ≠ format.name) :
    formatNamed name = .error (.unknownFormat name) := by
  unfold formatNamed
  cases hn : ReportFormat.ofName? name with
  | none => rfl
  | some format => exact absurd (ReportFormat.ofName?_eq_some_iff.mp hn) (h format)

/-- A name is that of a format, or of none. -/
theorem exists_format_or (name : Text) :
    (∃ format : ReportFormat, name = format.name) ∨
      ∀ format : ReportFormat, name ≠ format.name := by
  by_cases h : ∃ format : ReportFormat, name = format.name
  · exact Or.inl h
  · exact Or.inr fun format hn => h ⟨format, hn⟩

theorem templateKey_ne_formatKey : templateKey ≠ formatKey := by
  decide

section One

variable {config next : Config} {entry : Text × Value} {fault : ConfigFault} {value : Value}

/-- **An entry is right or wrong.** -/
theorem isRight_or (entry : Text × Value) : IsRight entry ∨ ∃ fault, IsWrong entry fault := by
  obtain ⟨key, value⟩ := entry
  by_cases ht : key = templateKey
  · subst ht
    by_cases hs : ∃ template, value = .string template
    · obtain ⟨template, rfl⟩ := hs
      exact Or.inl .template
    · exact Or.inr ⟨_, .template fun template he => hs ⟨template, he⟩⟩
  by_cases hf : key = formatKey
  · subst hf
    by_cases hs : ∃ name, value = .string name
    · obtain ⟨name, rfl⟩ := hs
      rcases exists_format_or name with ⟨format, rfl⟩ | hn
      · exact Or.inl (.format .string)
      · exact Or.inr ⟨_, .string hn⟩
    by_cases hb : ∃ kind name body, value = .table kind [(name, body)]
    · obtain ⟨kind, name, body, rfl⟩ := hb
      rcases exists_format_or name with ⟨format, rfl⟩ | hn
      · by_cases he : IsNothing body
        · exact Or.inl (.format (.table he))
        · exact Or.inr ⟨_, .body he⟩
      · exact Or.inr ⟨_, .table hn⟩
    · exact Or.inr ⟨_, .format (fun name he => hs ⟨name, he⟩)
        fun kind name body he => hb ⟨kind, name, body, he⟩⟩
  · exact Or.inr ⟨_, .key ht hf⟩

theorem set_template (config : Config) (template : Text) :
    config.set (templateKey, .string template) = .ok { config with template := some template } := by
  unfold set
  exact if_pos rfl

theorem formatOf_of_namesFormat {format : ReportFormat} (h : NamesFormat value format) :
    formatOf value = .ok format := by
  cases h with
  | string => exact formatNamed_name format
  | table hb =>
    simp only [formatOf, formatNamed_name, isEmptyContainer_iff.mpr hb]
    rfl

theorem set_format {format : ReportFormat} (config : Config) (h : NamesFormat value format) :
    config.set (formatKey, value) = .ok { config with format := some format } := by
  unfold set
  simp only [if_neg templateKey_ne_formatKey.symm, formatOf_of_namesFormat h]
  rfl

/-- A right entry is taken. -/
theorem exists_set_of_isRight (config : Config) (h : IsRight entry) :
    ∃ next, config.set entry = .ok next := by
  cases h with
  | template => exact ⟨_, set_template config _⟩
  | format h => exact ⟨_, set_format config h⟩

/-- **A wrong entry is refused for what is wrong with it.** -/
theorem set_of_isWrong (config : Config) (h : IsWrong entry fault) :
    config.set entry = .error fault := by
  have hformat : ∀ {value : Value}, formatOf value = .error fault →
      config.set (formatKey, value) = .error fault := by
    intro value he
    unfold set
    simp only [if_neg templateKey_ne_formatKey.symm, he]
    rfl
  cases h with
  | key ht hf =>
    unfold set
    simp only [if_neg ht, if_neg hf]
  | template hs =>
    rename_i value
    have ht : templateOf value = .error (.wrongType value.describe) := by
      unfold templateOf
      split
      · exact absurd rfl (hs _)
      · rfl
    unfold set
    simp only [ht]
    rfl
  | string hn => exact hformat (formatNamed_of_ne hn)
  | table hn =>
    refine hformat ?_
    simp only [formatOf, formatNamed_of_ne hn]
    rfl
  | body hb =>
    refine hformat ?_
    simp only [formatOf, formatNamed_name]
    exact if_neg (mt isEmptyContainer_iff.mp hb)
  | format hs ht =>
    refine hformat ?_
    unfold formatOf
    split
    · exact absurd rfl (hs _)
    · exact absurd rfl (ht _ _ _)
    · rfl

end One

/-! ## 3. All entries -/

section Entries

variable {entries : Entries} {config : Config} {fault : ConfigFault}

/-- Right entries are taken, and what stands behind them is read next. -/
theorem foldlM_set_append {before : Entries} (hb : ∀ e ∈ before, IsRight e) (config : Config)
    (rest : Entries) :
    ∃ next, (before ++ rest).foldlM set config = rest.foldlM set next := by
  induction before generalizing config with
  | nil => exact ⟨config, rfl⟩
  | cons first before ih =>
    obtain ⟨hr, hb⟩ := List.forall_mem_cons.mp hb
    obtain ⟨next, hn⟩ := exists_set_of_isRight config hr
    rw [List.cons_append, List.foldlM_cons, hn]
    exact ih hb next

/-- **The first wrong entry decides the error**, whatever stands behind it. -/
theorem ofEntries_of_isWrong {before after : Entries} {entry : Text × Value}
    (hb : ∀ e ∈ before, IsRight e) (hw : IsWrong entry fault) :
    ofEntries (before ++ entry :: after) = .error fault := by
  unfold ofEntries
  obtain ⟨next, hn⟩ := foldlM_set_append hb {} (entry :: after)
  rw [hn, List.foldlM_cons, set_of_isWrong next hw]
  rfl

/-- Entries are right, or there is a first wrong one. -/
theorem forall_isRight_or (entries : Entries) :
    (∀ e ∈ entries, IsRight e) ∨ ∃ before entry after fault, entries = before ++ entry :: after ∧
      (∀ e ∈ before, IsRight e) ∧ IsWrong entry fault := by
  induction entries with
  | nil => exact Or.inl nofun
  | cons first rest ih =>
    rcases isRight_or first with hr | ⟨fault, hw⟩
    · rcases ih with h | ⟨before, entry, after, fault, rfl, hb, hw⟩
      · exact Or.inl (List.forall_mem_cons.mpr ⟨hr, h⟩)
      · exact Or.inr ⟨first :: before, entry, after, fault, rfl,
          List.forall_mem_cons.mpr ⟨hr, hb⟩, hw⟩
    · exact Or.inr ⟨[], first, rest, fault, rfl, nofun, hw⟩

/-- Nothing is said by no entries. -/
theorem holds_nil : Holds [] {} where
  template _ := ⟨nofun, nofun⟩
  format _ := ⟨nofun, nofun⟩

theorem NamesFormat.unique {value : Value} {format format' : ReportFormat}
    (h : NamesFormat value format) (h' : NamesFormat value format') : format = format' := by
  have he := (formatOf_of_namesFormat h).symm.trans (formatOf_of_namesFormat h')
  cases he
  rfl

/-- One more right entry, with a key of its own, is held as well. -/
theorem Holds.concat {entry : Text × Value} {next : Config} (h : Holds entries config)
    (hn : entry.1 ∉ entries.map Prod.fst) (hr : IsRight entry) (hs : config.set entry = .ok next) :
    Holds (entries ++ [entry]) next := by
  have hmem : ∀ {value : Value}, (entry.1, value) ∉ entries := fun hm =>
    hn (List.mem_map.mpr ⟨_, hm, rfl⟩)
  cases hr with
  | template =>
    rename_i template
    rw [set_template] at hs
    cases hs
    refine ⟨fun t => ?_, fun f => ?_⟩
    · rw [List.mem_append, List.mem_singleton, or_iff_right hmem]
      simp [eq_comm]
    · simp only [List.mem_append, List.mem_singleton, Prod.mk.injEq, templateKey_ne_formatKey.symm,
        false_and, or_false]
      exact h.format f
  | format hf =>
    rw [set_format config hf] at hs
    cases hs
    refine ⟨fun t => ?_, fun f => ?_⟩
    · simp only [List.mem_append, List.mem_singleton, Prod.mk.injEq, templateKey_ne_formatKey,
        false_and, or_false]
      exact h.template t
    · refine ⟨fun he => ?_, fun he => ?_⟩
      · cases he
        exact ⟨_, List.mem_append_right _ List.mem_cons_self, hf⟩
      · obtain ⟨value, hv, hv'⟩ := he
        rw [List.mem_append, List.mem_singleton, or_iff_right hmem] at hv
        cases hv
        rw [hf.unique hv']

/-- **Right entries with different keys are loaded**, each as it stands. -/
theorem exists_ofEntries (hn : (entries.map Prod.fst).Nodup) (hr : ∀ e ∈ entries, IsRight e) :
    ∃ config, ofEntries entries = .ok config ∧ Holds entries config := by
  induction entries using List.reverseRecOn with
  | nil => exact ⟨{}, rfl, holds_nil⟩
  | append_singleton entries entry ih =>
    rw [List.map_append, List.nodup_append] at hn
    obtain ⟨hn, -, hne⟩ := hn
    obtain ⟨config, hc, hh⟩ := ih hn fun e he => hr e (List.mem_append_left _ he)
    have hright := hr entry (List.mem_append_right _ List.mem_cons_self)
    obtain ⟨next, hs⟩ := exists_set_of_isRight config hright
    refine ⟨next, ?_, hh.concat (fun hm => hne _ hm _ (List.mem_singleton_self _) rfl) hright hs⟩
    unfold ofEntries at hc ⊢
    rw [List.foldlM_append, hc]
    show List.foldlM set config [entry] = .ok next
    rw [List.foldlM_cons, hs]
    rfl

/-- What entries say is one configuration. -/
theorem Holds.unique {config' : Config} (h : Holds entries config) (h' : Holds entries config') :
    config = config' := by
  have ht : config.template = config'.template :=
    Option.ext fun t => (h.template t).trans (h'.template t).symm
  have hf : config.format = config'.format :=
    Option.ext fun f => (h.format f).trans (h'.format f).symm
  cases config
  cases config'
  cases ht
  cases hf
  rfl

end Entries

end LookupLog.Config
