import LookupLog.Proofs.Config.Entries
import LookupLog.Proofs.Run.Configuration
import LookupLog.Proofs.Template.Pieces
import LookupLog.Proofs.Toml.Limits

/-!
# Every file as a configuration

What a file is loaded as, for every content (`Loads`): first it has to be a text, then the text has
to be a document, then no entry may be wrong, and last a template has to have its placeholder.

Documents are those of the grammar, of any depth. One that is beyond the limits of the reader is
loaded like a text that is no document; it has a wrong entry, so it could not be loaded anyway.

* `loads_classified`: a file is loaded as one thing, and as which;
* `emptyArray_loads`: below the name of a format there may be an empty array, too;
* `ofOpened_of_names`: the unknown name that is reported is the first one in the order of the
  document;
* `takenOver_loads`: so a table that gets its own header late is looked at late, too.
-/

namespace LookupLog.Config

open Toml (Entries EntriesWithin HasEntries Statement maxDepth maxKeyParts)
open TomlGrammar (IsDocument Makes)

/-! ## 1. What a file is loaded as -/

/-- What the entries of a document are loaded as. -/
inductive Sets (entries : Entries) : Except ConfigError Config → Prop where
  | wrong {before after : Entries} {entry : Text × Toml.Value} {fault : ConfigFault}
      (he : entries = before ++ entry :: after) (hb : ∀ e ∈ before, IsRight e)
      (hw : IsWrong entry fault) : Sets entries (.error (.malformed fault))
  | noPlaceholder {template : Text} (hr : ∀ e ∈ entries, IsRight e)
      (ht : (templateKey, .string template) ∈ entries) (hp : ¬Template.placeholder <:+: template) :
      Sets entries (.error (.noPlaceholder template))
  | config {config : Config} (hr : ∀ e ∈ entries, IsRight e)
      (hp : ∀ template, (templateKey, .string template) ∈ entries →
        Template.placeholder <:+: template)
      (hc : Holds entries config) : Sets entries (.ok config)

/-- **What the content of a file at a path is loaded as.** -/
inductive Loads (path : Text) : Bytes → Except ConfigError Config → Prop where
  | noText {content : Bytes} (h : ∀ text, content ≠ Utf8.encode text) :
      Loads path content (.error (.unreadable path .notUtf8))
  | noDocument {text : Text} (h : ∀ parts depth entries, ¬HasEntries parts depth text entries) :
      Loads path (Utf8.encode text) (.error (.malformed .noDocument))
  | beyond {text : Text} {parts depth : Nat} {entries : Entries} {entry : Text × Toml.Value}
      {fault : ConfigFault} (hd : HasEntries parts depth text entries)
      (hl : ∀ entries, ¬HasEntries maxKeyParts maxDepth text entries) (he : entry ∈ entries)
      (hw : IsWrong entry fault) : Loads path (Utf8.encode text) (.error (.malformed .noDocument))
  | document {text : Text} {entries : Entries} {outcome : Except ConfigError Config}
      (hd : HasEntries maxKeyParts maxDepth text entries) (ho : Sets entries outcome) :
      Loads path (Utf8.encode text) outcome

/-! ## 2. Documents -/

section Documents

variable {entries : Entries} {config : Config} {outcome : Except ConfigError Config}
  {text template : Text}

/-- Right entries of different names set a configuration, or a template that is refused. -/
theorem exists_sets (hn : (entries.map Prod.fst).Nodup) : ∃ outcome, Sets entries outcome := by
  rcases forall_isRight_or entries with hr | ⟨before, entry, after, fault, he, hb, hw⟩
  · by_cases hp : ∀ template, (templateKey, .string template) ∈ entries →
        Template.placeholder <:+: template
    · obtain ⟨config, -, hc⟩ := exists_ofEntries hn hr
      exact ⟨_, .config hr hp hc⟩
    · obtain ⟨template, hp⟩ := not_forall.mp hp
      obtain ⟨ht, hp⟩ := Classical.not_imp.mp hp
      exact ⟨_, .noPlaceholder hr ht hp⟩
  · exact ⟨_, .wrong he hb hw⟩

theorem ofText_of_template (hd : Toml.document? text = some entries)
    (he : ofEntries entries = .ok config) (ht : config.template = some template) :
    ofText text = (Settings.checkTemplate template).map fun _ => config := by
  unfold ofText
  simp only [hd, he, ht]

theorem ofText_of_no_template (hd : Toml.document? text = some entries)
    (he : ofEntries entries = .ok config) (ht : config.template = none) :
    ofText text = .ok config := by
  unfold ofText
  simp only [hd, he, ht]

/-- **A document is loaded as what its entries are loaded as.** -/
theorem ofText_of_sets (hd : Toml.document? text = some entries)
    (hn : (entries.map Prod.fst).Nodup) (ho : Sets entries outcome) : ofText text = outcome := by
  cases ho with
  | wrong he hb hw =>
    subst he
    unfold ofText
    simp only [hd, ofEntries_of_isWrong hb hw]
  | noPlaceholder hr ht hp =>
    obtain ⟨config, hc, hh⟩ := exists_ofEntries hn hr
    rw [ofText_of_template hd hc ((hh.template _).mpr ht), Settings.checkTemplate_of_no_placeholder
      (mt (Template.hasPlaceholder_iff_isInfix _).mp hp)]
    rfl
  | config hr hp hh =>
    rename_i config
    obtain ⟨config', hc, hh'⟩ := exists_ofEntries hn hr
    obtain rfl := hh.unique hh'
    cases ht : config.template with
    | none => exact ofText_of_no_template hd hc ht
    | some template =>
      have hp := hp template ((hh.template template).mp ht)
      rw [ofText_of_template hd hc ht, Settings.checkTemplate_of_placeholder
        ((Template.hasPlaceholder_iff_isInfix _).mpr hp)]
      rfl

/-- What statements make has the names that they mention. -/
theorem names_of_makes {statements : List Statement} (hm : Makes statements entries) :
    entries.map Prod.fst = Toml.names statements :=
  Toml.names_of_entries? (Toml.entries?_eq_some_iff.mpr hm)

/-- No name occurs twice in a document. -/
theorem nodup_of_hasEntries {parts depth : Nat} (hd : HasEntries parts depth text entries) :
    (entries.map Prod.fst).Nodup := by
  obtain ⟨statements, -, hm⟩ := hd
  rw [names_of_makes hm]
  exact Toml.nodup_names statements

/-- Right entries have little below them. -/
theorem entriesWithin_of_isRight (hr : ∀ e ∈ entries, IsRight e) : EntriesWithin 2 entries := by
  intro name value hl
  obtain ⟨before, after, rfl, -⟩ := List.lookup_eq_some_iff.mp hl
  cases hr (name, value) (List.mem_append_right _ List.mem_cons_self) with
  | template => trivial
  | format h =>
    cases h with
    | string => trivial
    | @table kind format body hb =>
      intro name value hl
      have hv : value = body := by
        rw [List.lookup_cons] at hl
        split at hl
        · exact (Option.some.inj hl).symm
        · cases hl
      subst hv
      cases hb with
      | array => exact fun _ hi => absurd hi List.not_mem_nil
      | table => exact fun _ _ hl => (Option.some_ne_none _ hl.symm).elim

/-- **A document that is beyond the limits of the reader has a wrong entry.** -/
theorem exists_isWrong_of_beyond {parts depth : Nat} (hd : HasEntries parts depth text entries)
    (hl : ∀ entries, ¬HasEntries maxKeyParts maxDepth text entries) :
    ∃ entry ∈ entries, ∃ fault, IsWrong entry fault := by
  rcases forall_isRight_or entries with hr | ⟨before, entry, after, fault, rfl, -, hw⟩
  · refine absurd (hd.of_within (entriesWithin_of_isRight hr) ?_ ?_ ?_) (hl entries)
    all_goals decide
  · exact ⟨entry, List.mem_append_right _ List.mem_cons_self, fault, hw⟩

end Documents

/-! ## 3. Files -/

theorem ofOpened_encode (path text : Text) :
    ofOpened path (.ok (.file (Utf8.encode text))) = ofText text := by
  have ht : (Except.ok (.file (Utf8.encode text)) : Except FileError Node).bind Node.text? =
      .ok text := by
    simp only [Except.bind, Node.text?, Utf8.decode?_encode]
  unfold ofOpened
  rw [ht]

theorem ofOpened_of_ne {content : Bytes} (path : Text) (h : ∀ text, content ≠ Utf8.encode text) :
    ofOpened path (.ok (.file content)) = .error (.unreadable path .notUtf8) := by
  have hd : Utf8.decode? content = none := by
    cases hd : Utf8.decode? content with
    | none => rfl
    | some text => exact absurd (Utf8.decode?_eq_some_iff.mp hd) (h text)
  have ht : (Except.ok (.file content) : Except FileError Node).bind Node.text? =
      .error .notUtf8 := by
    simp only [Except.bind, Node.text?, hd]
  unfold ofOpened
  rw [ht]

/-- Every content is loaded as something. -/
theorem exists_loads (path : Text) (content : Bytes) : ∃ outcome, Loads path content outcome := by
  by_cases h : ∃ text, content = Utf8.encode text
  · obtain ⟨text, rfl⟩ := h
    by_cases hd : ∃ entries, HasEntries maxKeyParts maxDepth text entries
    · obtain ⟨entries, hd⟩ := hd
      obtain ⟨outcome, ho⟩ := exists_sets (nodup_of_hasEntries hd)
      exact ⟨outcome, .document hd ho⟩
    · have hl := not_exists.mp hd
      by_cases hany : ∃ parts depth entries, HasEntries parts depth text entries
      · obtain ⟨parts, depth, entries, hd⟩ := hany
        obtain ⟨entry, he, fault, hw⟩ := exists_isWrong_of_beyond hd hl
        exact ⟨_, .beyond hd hl he hw⟩
      · exact ⟨_, .noDocument fun parts depth entries hd => hany ⟨parts, depth, entries, hd⟩⟩
  · exact ⟨_, .noText fun text ht => h ⟨text, ht⟩⟩

theorem ofOpened_of_forall_not {text : Text} (path : Text)
    (h : ∀ entries, ¬HasEntries maxKeyParts maxDepth text entries) :
    ofOpened path (.ok (.file (Utf8.encode text))) = .error (.malformed .noDocument) := by
  have hnone : Toml.document? text = none :=
    Option.eq_none_iff_forall_ne_some.mpr fun entries hd =>
      h entries (Toml.document?_eq_some_iff.mp hd)
  rw [ofOpened_encode]
  unfold ofText
  simp only [hnone]

/-- It is loaded as nothing else. -/
theorem ofOpened_of_loads {path : Text} {content : Bytes} {outcome : Except ConfigError Config}
    (h : Loads path content outcome) : ofOpened path (.ok (.file content)) = outcome := by
  cases h with
  | noText h => exact ofOpened_of_ne path h
  | noDocument h => exact ofOpened_of_forall_not path (h maxKeyParts maxDepth)
  | beyond _ hl => exact ofOpened_of_forall_not path hl
  | document hd ho =>
    rw [ofOpened_encode]
    exact ofText_of_sets (Toml.document?_eq_some_iff.mpr hd) (nodup_of_hasEntries hd) ho

/-- Nothing but a template without a placeholder is wrong with settings. -/
theorem exists_resolve {config : Config}
    (h : ∀ template, config.template = some template → Template.placeholder <:+: template)
    (format : Option ReportFormat) :
    ∃ settings, Settings.resolve none format config = .ok settings := by
  cases hs : Settings.resolve none format config with
  | ok settings => exact ⟨settings, rfl⟩
  | error e =>
    obtain ⟨template, ht, hp, -⟩ := Settings.eq_noPlaceholder_of_resolve hs
    refine absurd ?_ hp
    rw [Option.none_or] at ht
    cases hc : config.template with
    | none =>
      rw [hc] at ht
      subst ht
      decide
    | some template' =>
      rw [hc] at ht
      subst ht
      exact (Template.hasPlaceholder_iff_isInfix _).mpr (h _ hc)

/-- **What every file is loaded as.** A configuration that is loaded has no template or a usable
    one, and the settings can be taken from it. The entries of a document stand in the order of its
    `names`. -/
theorem loads_classified (path : Text) (content : Bytes) :
    (∀ outcome, ofOpened path (.ok (.file content)) = outcome ↔ Loads path content outcome) ∧
      (∀ config, ofOpened path (.ok (.file content)) = .ok config →
        (∀ template, config.template = some template → Template.placeholder <:+: template) ∧
          ∀ format, ∃ settings, Settings.resolve none format config = .ok settings) ∧
      ∀ statements entries, Makes statements entries →
        entries.map Prod.fst = Toml.names statements ∧ (Toml.names statements).Nodup := by
  refine ⟨fun outcome => ⟨fun h => ?_, ofOpened_of_loads⟩, fun config h => ?_,
    fun statements entries hm => ⟨names_of_makes hm, Toml.nodup_names statements⟩⟩
  · obtain ⟨outcome', ho⟩ := exists_loads path content
    rw [← h, ofOpened_of_loads ho]
    exact ho
  · have hp : ∀ template, config.template = some template → Template.placeholder <:+: template :=
      fun template ht =>
        (Template.hasPlaceholder_iff_isInfix _).mp (hasPlaceholder_of_ofOpened h ht)
    exact ⟨hp, exists_resolve hp⟩

/-- A file that names a format, and says nothing else. -/
theorem loads_classified_json :
    Loads ['c'] (Utf8.encode "format = 'json'".toList) (.ok ⟨none, some .json⟩) ∧
      ∃ settings, Settings.resolve none none ⟨none, some .json⟩ = .ok settings := by
  have h : ofOpened ['c'] (.ok (.file (Utf8.encode "format = 'json'".toList))) =
      .ok ⟨none, some .json⟩ := by
    decide +kernel
  obtain ⟨hl, hc⟩ := loads_classified ['c'] (Utf8.encode "format = 'json'".toList)
  exact ⟨(hl _).mp h, (hc.1 _ h).2 none⟩

/-- Below the name of a format there may be an empty array. -/
theorem emptyArray_loads :
    Toml.document? "format=\x7b'json'=[]\x7d".toList =
        some [(formatKey, .table .inline [(ReportFormat.json.name, .array [])])] ∧
      ofOpened ['c'] (.ok (.file (Utf8.encode "format=\x7b'json'=[]\x7d".toList))) =
        .ok ⟨none, some .json⟩ := by
  refine ⟨rfl, ?_⟩
  decide +kernel

/-- **The first unknown name in the order of a document is reported**, if nothing before it is
    wrong. -/
theorem ofOpened_of_names (path : Text) {text name : Text} {statements : List Statement}
    {entries : Entries} {before after : List Text}
    (hd : IsDocument maxKeyParts maxDepth text statements) (hm : Makes statements entries)
    (hn : Toml.names statements = before ++ name :: after)
    (hb : ∀ e ∈ entries, e.1 ∈ before → IsRight e) (ht : name ≠ templateKey)
    (hf : name ≠ formatKey) :
    ofOpened path (.ok (.file (Utf8.encode text))) = .error (.malformed (.unknownKey name)) := by
  have hkeys := names_of_makes hm
  rw [hn] at hkeys
  obtain ⟨first, last, rfl, hfirst, hlast⟩ := List.map_eq_append_iff.mp hkeys
  obtain ⟨⟨key, value⟩, rest, rfl, rfl, -⟩ := List.map_eq_cons_iff.mp hlast
  refine ofOpened_of_loads (.document ⟨statements, hd, hm⟩ (.wrong rfl ?_ (.key ht hf)))
  intro e he
  exact hb e (List.mem_append_left _ he) (hfirst ▸ List.mem_map_of_mem he)

/-- A table that is implied first, and gets its own header behind another table. -/
def lateHeader : List Statement :=
  [.header (.table ⟨[['a']], ['b']⟩), .header (.table ⟨[], ['b']⟩), .header (.table ⟨[], ['a']⟩)]

/-- So the other table is looked at first. -/
theorem takenOver_loads :
    IsDocument maxKeyParts maxDepth "[a.b]\n[b]\n[a]".toList lateHeader ∧
      Toml.names lateHeader = [['b'], ['a']] ∧
      ofOpened ['c'] (.ok (.file (Utf8.encode "[a.b]\n[b]\n[a]".toList))) =
        .error (.malformed (.unknownKey ['b'])) := by
  have hd : IsDocument maxKeyParts maxDepth "[a.b]\n[b]\n[a]".toList lateHeader :=
    Toml.isBody_iff.mpr rfl
  have hm : Makes lateHeader
      [(['b'], .table .headed []), (['a'], .table .headed [(['b'], .table .headed [])])] :=
    Toml.entries?_eq_some_iff.mp rfl
  have hnames : Toml.names lateHeader = [] ++ ['b'] :: [['a']] :=
    Toml.names_lateHeader [.header (.table ⟨[['a']], ['b']⟩), .header (.table ⟨[], ['b']⟩)] ['a'] []
  refine ⟨hd, hnames, ofOpened_of_names ['c'] hd hm hnames ?_ ?_ ?_⟩
  · exact fun e _ he => absurd he List.not_mem_nil
  · decide
  · decide

end LookupLog.Config
