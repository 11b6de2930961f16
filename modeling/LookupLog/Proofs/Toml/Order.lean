import LookupLog.Proofs.Toml.Rules
import Mathlib.Data.List.Basic
import Mathlib.Data.List.Nodup

/-!
# The order of the top-level entries

A name stands where the document mentions it first. Only a table that was implied before, and then
gets a header of its own, moves to where this header stands.

* `names_of_entries?`: the names of the entries of a document, in their order;
* `nodup_names`: no name occurs twice;
* `names_lateHeader`: a table whose own header stands last comes last.
-/

namespace LookupLog.Toml

/-! ## 1. Names that statements mention -/

/-- The top-level name that a key begins with. -/
def Key.root (key : Key) : Text :=
  key.way.headD key.name

/-- The names when one more is mentioned. -/
def mention (names : List Text) (name : Text) : List Text :=
  if name ∈ names then names else names ++ [name]

/-- The names after a header: the table that it opens at the top level stands last. -/
def mentionHeader (names : List Text) : Header → List Text
  | .table ⟨[], name⟩ => names.filter (· ≠ name) ++ [name]
  | .table key => mention names key.root
  | .element key => mention names key.root

/-- The names that some statements mention behind others, with a header among those or with none. -/
def namesFrom : (belowHeader : Bool) → List Text → List Statement → List Text
  | _, names, [] => names
  | false, names, .assign key _ :: rest => namesFrom false (mention names key.root) rest
  | true, names, .assign _ _ :: rest => namesFrom true names rest
  | _, names, .header header :: rest => namesFrom true (mentionHeader names header) rest

/-- **The top-level names of a document, in order.** -/
def names (statements : List Statement) : List Text :=
  namesFrom false [] statements

theorem nodup_mention {names : List Text} (h : names.Nodup) (name : Text) :
    (mention names name).Nodup := by
  unfold mention
  split
  · exact h
  · rename_i hn
    rw [← List.concat_eq_append]
    exact h.concat hn

theorem nodup_mentionHeader {names : List Text} (h : names.Nodup) (header : Header) :
    (mentionHeader names header).Nodup := by
  unfold mentionHeader
  split
  · rename_i name
    have hn : name ∉ names.filter (· ≠ name) := by
      intro hm
      have hne := List.of_mem_filter hm
      rw [decide_eq_true_eq] at hne
      exact hne rfl
    rw [← List.concat_eq_append]
    exact (h.filter _).concat hn
  · exact nodup_mention h _
  · exact nodup_mention h _

theorem nodup_namesFrom {belowHeader : Bool} {before : List Text} (h : before.Nodup)
    (statements : List Statement) : (namesFrom belowHeader before statements).Nodup := by
  induction statements generalizing belowHeader before with
  | nil =>
    cases belowHeader
    all_goals exact h
  | cons statement rest ih =>
    cases statement with
    | assign key value =>
      cases belowHeader with
      | false => exact ih (nodup_mention h _)
      | true => exact ih h
    | header header =>
      cases belowHeader
      all_goals exact ih (nodup_mentionHeader h header)

/-- **Each name is mentioned once.** -/
theorem nodup_names (statements : List Statement) : (names statements).Nodup :=
  nodup_namesFrom List.nodup_nil statements

/-- Nothing below a header is mentioned at the top level. -/
theorem namesFrom_lines (assignments : List (Key × Value)) (before : List Text) :
    namesFrom true before (TomlGrammar.lines assignments) = before := by
  induction assignments with
  | nil => rfl
  | cons assignment rest ih => exact ih

theorem namesFrom_section (statements : List Statement) (header : Header)
    (assignments : List (Key × Value)) (belowHeader : Bool) (before : List Text) :
    namesFrom belowHeader before (statements ++ .header header :: TomlGrammar.lines assignments) =
      mentionHeader (namesFrom belowHeader before statements) header := by
  induction statements generalizing belowHeader before with
  | nil =>
    cases belowHeader
    all_goals exact namesFrom_lines assignments _
  | cons statement rest ih =>
    cases statement with
    | assign key value =>
      cases belowHeader
      all_goals exact ih _ _
    | header header =>
      cases belowHeader
      all_goals exact ih _ _

/-- **A table that gets its own header last comes last**, wherever it was implied before. -/
theorem names_lateHeader (statements : List Statement) (name : Text)
    (assignments : List (Key × Value)) :
    names (statements ++ .header (.table ⟨[], name⟩) :: TomlGrammar.lines assignments) =
      (names statements).filter (· ≠ name) ++ [name] :=
  namesFrom_section statements _ assignments false []

/-! ## 2. Names of entries -/

section Entries

variable {entries new : Entries} {name : Text} {value : Value}

theorem keys_replaceEntry (name : Text) (value : Value) (entries : Entries) :
    (replaceEntry name value entries).map Prod.fst = entries.map Prod.fst := by
  induction entries with
  | nil => rfl
  | cons entry rest ih =>
    unfold replaceEntry
    split
    · rfl
    · rw [List.map_cons, List.map_cons, ih]

theorem keys_removeEntry (name : Text) (entries : Entries) :
    (removeEntry name entries).map Prod.fst = (entries.map Prod.fst).filter (· ≠ name) := by
  unfold removeEntry
  rw [List.filter_map]
  rfl

theorem not_mem_keys_of_lookup (h : entries.lookup name = none) : name ∉ entries.map Prod.fst := by
  intro hm
  obtain ⟨entry, he, rfl⟩ := List.mem_map.mp hm
  exact bne_iff_ne.mp (List.lookup_eq_none_iff.mp h entry he) rfl

theorem mem_keys_of_lookup (h : entries.lookup name = some value) :
    name ∈ entries.map Prod.fst := by
  obtain ⟨before, after, rfl, -⟩ := List.lookup_eq_some_iff.mp h
  exact List.mem_map.mpr ⟨(name, value), List.mem_append_right _ List.mem_cons_self, rfl⟩

/-- An entry that is added behind others whose names differ is one more mention. -/
theorem keys_append (h : entries.lookup name = none) (value : Value) :
    (entries ++ [(name, value)]).map Prod.fst = mention (entries.map Prod.fst) name := by
  rw [List.map_append, mention, if_neg (not_mem_keys_of_lookup h)]
  rfl

/-- An entry that gets another value is one more mention of its name. -/
theorem keys_replace {old : Value} (h : entries.lookup name = some old) (value : Value) :
    (replaceEntry name value entries).map Prod.fst = mention (entries.map Prod.fst) name := by
  rw [keys_replaceEntry, mention, if_pos (mem_keys_of_lookup h)]

/-- **A way into a table mentions its first name.** -/
theorem keys_alter_cons {byDottedKey : Bool} {change : TableKind → Entries → Option Entries}
    {way : List Text} {kind : TableKind}
    (h : alter byDottedKey change (name :: way) kind entries = some new) :
    new.map Prod.fst = mention (entries.map Prod.fst) name := by
  unfold alter at h
  split at h
  · rename_i hl
    obtain ⟨inner, -, rfl⟩ := Option.map_eq_some_iff.mp h
    exact keys_append hl _
  · rename_i hl
    split at h
    · obtain ⟨inner, -, rfl⟩ := Option.map_eq_some_iff.mp h
      exact keys_replace hl _
    · cases h
  · rename_i hl
    split at h
    · cases h
    · obtain ⟨inner, -, rfl⟩ := Option.map_eq_some_iff.mp h
      exact keys_replace hl _
  · cases h

/-- An assignment mentions the first name of its key. -/
theorem keys_assign {key : Key} (h : assign entries key value = some new) :
    new.map Prod.fst = mention (entries.map Prod.fst) key.root := by
  obtain ⟨way, last⟩ := key
  cases way with
  | nil =>
    simp only [assign, alter, ne_eq, not_true_eq_false, false_and, if_false] at h
    split at h
    · cases h
    · rename_i hl
      cases h
      exact keys_append (Option.not_isSome_iff_eq_none.mp hl) value
  | cons first way => exact keys_alter_cons h

/-- A header mentions the first name of its key, and puts a table of its own last. -/
theorem keys_addSection {header : Header} {assignments : List (Key × Value)}
    (h : addSection entries header assignments = some new) :
    new.map Prod.fst = mentionHeader (entries.map Prod.fst) header := by
  rcases header with ⟨way, last⟩ | ⟨way, last⟩
  · cases way with
    | nil =>
      simp only [addSection, alter] at h
      split at h
      · rename_i hl
        obtain ⟨inner, -, rfl⟩ := Option.map_eq_some_iff.mp h
        have hf : (entries.map Prod.fst).filter (· ≠ last) = entries.map Prod.fst :=
          List.filter_eq_self.mpr fun name hn =>
            decide_eq_true fun he => not_mem_keys_of_lookup hl (he ▸ hn)
        rw [mentionHeader, hf, List.map_append]
        rfl
      · obtain ⟨inner, -, rfl⟩ := Option.map_eq_some_iff.mp h
        rw [mentionHeader, ← keys_removeEntry, List.map_append]
        rfl
      · cases h
    | cons first way =>
      simp only [addSection] at h
      exact keys_alter_cons h
  · cases way with
    | nil =>
      simp only [addSection, alter] at h
      split at h
      · rename_i hl
        obtain ⟨inner, -, rfl⟩ := Option.map_eq_some_iff.mp h
        exact keys_append hl _
      · rename_i hl
        obtain ⟨inner, -, rfl⟩ := Option.map_eq_some_iff.mp h
        exact keys_replace hl _
      · cases h
    | cons first way =>
      simp only [addSection] at h
      exact keys_alter_cons h

end Entries

/-! ## 3. A document -/

/-- The assignments before the first header, then the headers. -/
theorem namesFrom_eq (statements : List Statement) (before : List Text) :
    namesFrom false before statements =
        (sections statements).2.foldl (fun names below => mentionHeader names below.1)
          ((sections statements).1.foldl (fun names entry => mention names entry.1.root) before) ∧
      namesFrom true before statements =
        (sections statements).2.foldl (fun names below => mentionHeader names below.1) before := by
  induction statements generalizing before with
  | nil => exact ⟨rfl, rfl⟩
  | cons statement rest ih =>
    cases statement with
    | assign key value => exact ⟨(ih _).1, (ih _).2⟩
    | header header => exact ⟨(ih _).2, (ih _).2⟩

theorem keys_assignAll {assignments : List (Key × Value)} {entries new : Entries}
    (h : assignAll entries assignments = some new) :
    new.map Prod.fst =
      assignments.foldl (fun names entry => mention names entry.1.root) (entries.map Prod.fst) := by
  unfold assignAll at h
  induction assignments generalizing entries with
  | nil =>
    cases h
    rfl
  | cons assignment rest ih =>
    rw [List.foldlM_cons] at h
    obtain ⟨between, ha, h⟩ := Option.bind_eq_some_iff.mp h
    rw [List.foldl_cons, ← keys_assign ha]
    exact ih h

theorem keys_addSections {below : List (Header × List (Key × Value))} {entries new : Entries}
    (h : below.foldlM (fun entries next => addSection entries next.1 next.2) entries =
      some new) :
    new.map Prod.fst =
      below.foldl (fun names below => mentionHeader names below.1) (entries.map Prod.fst) := by
  induction below generalizing entries with
  | nil =>
    cases h
    rfl
  | cons first rest ih =>
    rw [List.foldlM_cons] at h
    obtain ⟨between, ha, h⟩ := Option.bind_eq_some_iff.mp h
    rw [List.foldl_cons, ← keys_addSection ha]
    exact ih h

/-- **The entries of a document stand in the order in which it mentions their names.** -/
theorem names_of_entries? {statements : List Statement} {entries : Entries}
    (h : entries? statements = some entries) : entries.map Prod.fst = names statements := by
  simp only [entries?] at h
  split at h
  · cases h
  · rename_i start hstart
    rw [keys_addSections h, keys_assignAll hstart]
    exact (namesFrom_eq statements []).1.symm

end LookupLog.Toml
