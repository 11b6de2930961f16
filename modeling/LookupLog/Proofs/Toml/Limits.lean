import LookupLog.Proofs.Toml.Documents
import LookupLog.Proofs.Toml.Order

/-!
# Documents beyond limits

Nothing is ever taken out of a table again. So if the entries of a document are nested no deeper
than `depth`, then no statement was (`forall_within_of_entries?`), and the document stays one under
all limits above `depth` (`HasEntries.of_within`).
-/

namespace LookupLog.Toml

open Text TomlGrammar

/-! ## 1. How deep values are nested -/

/-- Nested no deeper than that. -/
def Value.Within : (depth : Nat) → Value → Prop
  | _, .string _ | _, .integer _ | _, .float _ | _, .boolean _ | _, .moment => True
  | 0, _ => False
  | depth + 1, .array items => ∀ item ∈ items, item.Within depth
  | depth + 1, .table _ entries =>
    ∀ name value, entries.lookup name = some value → value.Within depth
  | depth + 1, .tables elements =>
    ∀ entries ∈ elements, ∀ name value, entries.lookup name = some value → value.Within depth

/-- What stands below these names is nested no deeper than that. -/
def EntriesWithin (depth : Nat) (entries : Entries) : Prop :=
  ∀ name value, entries.lookup name = some value → value.Within depth

section Depth

variable {depth more : Nat} {value old : Value} {kind : TableKind} {entries inner new : Entries}
  {elements : List Entries} {name other : Text}

theorem exists_of_within_table (h : (Value.table kind entries).Within depth) :
    ∃ below, depth = below + 1 ∧ EntriesWithin below entries := by
  cases depth with
  | zero => exact h.elim
  | succ below => exact ⟨below, rfl, h⟩

theorem exists_of_within_tables (h : (Value.tables elements).Within depth) :
    ∃ below, depth = below + 1 ∧ ∀ entries ∈ elements, EntriesWithin below entries := by
  cases depth with
  | zero => exact h.elim
  | succ below => exact ⟨below, rfl, h⟩

theorem Value.Within.mono (h : value.Within depth) (hle : depth ≤ more) : value.Within more := by
  induction depth generalizing value more with
  | zero =>
    cases value with
    | array => exact h.elim
    | table => exact h.elim
    | tables => exact h.elim
    | _ => cases more <;> trivial
  | succ depth ih =>
    obtain ⟨more, rfl⟩ := Nat.exists_eq_succ_of_ne_zero (Nat.ne_zero_of_lt hle)
    have hle := Nat.le_of_succ_le_succ hle
    cases value with
    | array items => exact fun item hi => ih (h item hi) hle
    | table kind entries => exact fun name value hl => ih (h name value hl) hle
    | tables elements => exact fun entries he name value hl => ih (h entries he name value hl) hle
    | _ => trivial

theorem lookup_replaceEntry_self (h : entries.lookup name = some old) (value : Value) :
    (replaceEntry name value entries).lookup name = some value := by
  induction entries with
  | nil => cases h
  | cons entry rest ih =>
    obtain ⟨n, v⟩ := entry
    unfold replaceEntry
    by_cases hn : n = name
    · rw [if_pos hn, hn]
      exact List.lookup_cons_self
    · rw [List.lookup_cons, beq_false_of_ne (Ne.symm hn)] at h
      rw [if_neg hn, List.lookup_cons, beq_false_of_ne (Ne.symm hn)]
      exact ih h

theorem lookup_replaceEntry_of_ne (hne : other ≠ name) (value : Value) (entries : Entries) :
    (replaceEntry name value entries).lookup other = entries.lookup other := by
  induction entries with
  | nil => rfl
  | cons entry rest ih =>
    obtain ⟨n, v⟩ := entry
    unfold replaceEntry
    by_cases hn : n = name
    · rw [if_pos hn, List.lookup_cons, List.lookup_cons, hn, beq_false_of_ne hne]
    · rw [if_neg hn, List.lookup_cons, List.lookup_cons, ih]

theorem lookup_removeEntry_of_ne (hne : other ≠ name) (entries : Entries) :
    (removeEntry name entries).lookup other = entries.lookup other := by
  induction entries with
  | nil => rfl
  | cons entry rest ih =>
    obtain ⟨n, v⟩ := entry
    by_cases hn : n = name
    · have hdrop : removeEntry name ((n, v) :: rest) = removeEntry name rest :=
        List.filter_cons_of_neg (by simp [hn])
      rw [hdrop, ih, List.lookup_cons, hn, beq_false_of_ne hne]
    · have hkeep : removeEntry name ((n, v) :: rest) = (n, v) :: removeEntry name rest :=
        List.filter_cons_of_pos (by simp [hn])
      rw [hkeep, List.lookup_cons, List.lookup_cons, ih]

/-- One more entry. -/
theorem EntriesWithin.of_append (hl : entries.lookup name = none)
    (h : EntriesWithin depth (entries ++ [(name, value)])) :
    EntriesWithin depth entries ∧ value.Within depth := by
  refine ⟨fun n v hv => h n v ?_, h name value ?_⟩
  · rw [List.lookup_append, hv]
    rfl
  · rw [List.lookup_append, hl, Option.none_or]
    exact List.lookup_cons_self

/-- Another value for an entry. -/
theorem EntriesWithin.of_replace (hl : entries.lookup name = some old)
    (h : EntriesWithin depth (replaceEntry name value entries)) :
    value.Within depth ∧ (old.Within depth → EntriesWithin depth entries) := by
  refine ⟨h name value (lookup_replaceEntry_self hl value), fun ho n v hv => ?_⟩
  by_cases hn : n = name
  · rw [hn, hl] at hv
    exact Option.some.inj hv ▸ ho
  · exact h n v (by rw [lookup_replaceEntry_of_ne hn, hv])

/-- Another value, which stands last. -/
theorem EntriesWithin.of_remove (hl : entries.lookup name = some old)
    (h : EntriesWithin depth (removeEntry name entries ++ [(name, value)])) :
    value.Within depth ∧ (old.Within depth → EntriesWithin depth entries) := by
  have hnone : (removeEntry name entries).lookup name = none := by
    refine List.lookup_eq_none_iff.mpr fun entry he => ?_
    have hne : decide (entry.1 ≠ name) = true := (List.mem_filter.mp he).2
    exact bne_iff_ne.mpr (Ne.symm (of_decide_eq_true hne))
  obtain ⟨hrest, hv⟩ := h.of_append hnone
  refine ⟨hv, fun ho n v hv => ?_⟩
  by_cases hn : n = name
  · rw [hn, hl] at hv
    exact Option.some.inj hv ▸ ho
  · exact hrest n v (by rw [lookup_removeEntry_of_ne hn, hv])

/-! ## 2. Tables that grow -/

/-- **At the end of a way there is as much depth less as the way is long**, and a change there is
    one of the whole table. -/
theorem within_alter {byDottedKey : Bool} {change : TableKind → Entries → Option Entries}
    {way : List Text} (h : alter byDottedKey change way kind entries = some new)
    (hn : EntriesWithin depth new) : ∃ below kind inner changed, depth = way.length + below ∧
      change kind inner = some changed ∧ EntriesWithin below changed ∧
      (EntriesWithin below inner → EntriesWithin depth entries) := by
  -- along the way: `below` is the depth that is left at its end, whatever is made or gone through
  induction way generalizing kind entries new depth with
  | nil => exact ⟨depth, kind, entries, new, (Nat.zero_add _).symm, h, hn, id⟩
  | cons name way ih =>
    unfold alter at h
    split at h
    · rename_i hl
      obtain ⟨inner, ha, rfl⟩ := Option.map_eq_some_iff.mp h
      obtain ⟨hentries, ht⟩ := hn.of_append hl
      obtain ⟨below, rfl, hinner⟩ := exists_of_within_table ht
      obtain ⟨end', kind', inner', changed, rfl, hc, hw, -⟩ := ih ha hinner
      exact ⟨end', kind', inner', changed, by rw [List.length_cons]; omega, hc, hw,
        fun _ => hentries⟩
    · rename_i hl
      split at h
      · obtain ⟨inner, ha, rfl⟩ := Option.map_eq_some_iff.mp h
        obtain ⟨ht, hback⟩ := hn.of_replace hl
        obtain ⟨below, rfl, hinner⟩ := exists_of_within_table ht
        obtain ⟨end', kind', inner', changed, rfl, hc, hw, hold⟩ := ih ha hinner
        exact ⟨end', kind', inner', changed, by rw [List.length_cons]; omega, hc, hw,
          fun hi => hback (hold hi)⟩
      · cases h
    · rename_i elements hl
      split at h
      · cases h
      · rename_i last hlast
        obtain ⟨inner, ha, rfl⟩ := Option.map_eq_some_iff.mp h
        obtain ⟨ht, hback⟩ := hn.of_replace hl
        obtain ⟨below, rfl, helements⟩ := exists_of_within_tables ht
        obtain ⟨hbefore, hinner⟩ := List.forall_mem_append.mp helements
        obtain ⟨end', kind', inner', changed, rfl, hc, hw, hold⟩ :=
          ih ha (List.forall_mem_singleton.mp hinner)
        refine ⟨end', kind', inner', changed, by rw [List.length_cons]; omega, hc, hw,
          fun hi => hback fun element he => ?_⟩
        rw [← List.dropLast_append_getLast? last hlast] at he
        rcases List.mem_append.mp he with he | he
        · exact hbefore element he
        · exact List.mem_singleton.mp he ▸ hold hi
    · cases h

/-- The key leads no deeper than that, and the value is nested no deeper. -/
def AssignmentWithin (depth : Nat) (assignment : Key × Value) : Prop :=
  assignment.1.way.length ≤ depth ∧ assignment.2.Within depth

/-- Leads no deeper than that. -/
def StatementWithin (depth : Nat) : Statement → Prop
  | .assign key value => AssignmentWithin depth (key, value)
  | .header (.table key) => key.way.length ≤ depth
  | .header (.element key) => key.way.length ≤ depth

theorem AssignmentWithin.mono {assignment : Key × Value} (h : AssignmentWithin depth assignment)
    (hle : depth ≤ more) : AssignmentWithin more assignment :=
  ⟨h.1.trans hle, h.2.mono hle⟩

theorem within_assign {key : Key} (h : assign entries key value = some new)
    (hn : EntriesWithin depth new) :
    EntriesWithin depth entries ∧ AssignmentWithin depth (key, value) := by
  obtain ⟨below, kind, inner, changed, rfl, hc, hw, hback⟩ := within_alter h hn
  split at hc
  · cases hc
  · split at hc
    · cases hc
    · rename_i hl
      cases hc
      obtain ⟨hinner, hv⟩ := hw.of_append (Option.not_isSome_iff_eq_none.mp hl)
      exact ⟨hback hinner, Nat.le_add_right _ _, hv.mono (Nat.le_add_left _ _)⟩

theorem within_assignAll {assignments : List (Key × Value)}
    (h : assignAll entries assignments = some new) (hn : EntriesWithin depth new) :
    EntriesWithin depth entries ∧ ∀ a ∈ assignments, AssignmentWithin depth a := by
  unfold assignAll at h
  induction assignments generalizing entries with
  | nil =>
    cases h
    exact ⟨hn, fun _ ha => absurd ha List.not_mem_nil⟩
  | cons assignment rest ih =>
    rw [List.foldlM_cons] at h
    obtain ⟨between, ha, h⟩ := Option.bind_eq_some_iff.mp h
    obtain ⟨hbetween, hrest⟩ := ih h
    obtain ⟨hentries, hfirst⟩ := within_assign ha hbetween
    exact ⟨hentries, List.forall_mem_cons.mpr ⟨hfirst, hrest⟩⟩

/-- A header leads no deeper than the entries are nested, and nothing below it does. -/
theorem within_addSection {header : Header} {assignments : List (Key × Value)}
    (h : addSection entries header assignments = some new) (hn : EntriesWithin depth new) :
    EntriesWithin depth entries ∧ StatementWithin depth (.header header) ∧
      ∀ a ∈ assignments, AssignmentWithin depth a := by
  -- What is assigned below a header stands in a table one deeper than the way of the header.
  have hbelow : ∀ {n way : Nat} {old made : Entries}, assignAll old assignments = some made →
      EntriesWithin n made → EntriesWithin n old ∧ ∀ a ∈ assignments,
        AssignmentWithin (way + (n + 1)) a := by
    intro n way old made ha hm
    obtain ⟨hold, hall⟩ := within_assignAll ha hm
    exact ⟨hold, fun a hmem => (hall a hmem).mono (by omega)⟩
  cases header with
  | table key =>
    obtain ⟨below, kind, inner, changed, rfl, hc, hw, hback⟩ := within_alter h hn
    have hway : StatementWithin (key.way.length + below) (.header (.table key)) :=
      Nat.le_add_right _ _
    split at hc
    · rename_i hl
      obtain ⟨made, ha, rfl⟩ := Option.map_eq_some_iff.mp hc
      obtain ⟨hinner, ht⟩ := hw.of_append hl
      obtain ⟨n, rfl, hmade⟩ := exists_of_within_table ht
      exact ⟨hback hinner, hway, (hbelow ha hmade).2⟩
    · rename_i hl
      obtain ⟨made, ha, rfl⟩ := Option.map_eq_some_iff.mp hc
      obtain ⟨ht, hinner⟩ := hw.of_remove hl
      obtain ⟨n, rfl, hmade⟩ := exists_of_within_table ht
      obtain ⟨hold, hall⟩ := hbelow ha hmade
      exact ⟨hback (hinner hold), hway, hall⟩
    · cases hc
  | element key =>
    obtain ⟨below, kind, inner, changed, rfl, hc, hw, hback⟩ := within_alter h hn
    have hway : StatementWithin (key.way.length + below) (.header (.element key)) :=
      Nat.le_add_right _ _
    split at hc
    · rename_i hl
      obtain ⟨made, ha, rfl⟩ := Option.map_eq_some_iff.mp hc
      obtain ⟨hinner, ht⟩ := hw.of_append hl
      obtain ⟨n, rfl, hmade⟩ := exists_of_within_tables ht
      exact ⟨hback hinner, hway, (hbelow ha (hmade made List.mem_cons_self)).2⟩
    · rename_i hl
      obtain ⟨made, ha, rfl⟩ := Option.map_eq_some_iff.mp hc
      obtain ⟨ht, hinner⟩ := hw.of_replace hl
      obtain ⟨n, rfl, hall⟩ := exists_of_within_tables ht
      obtain ⟨hold, hmade⟩ := List.forall_mem_append.mp hall
      exact ⟨hback (hinner hold), hway, (hbelow ha (List.forall_mem_singleton.mp hmade)).2⟩
    · cases hc

theorem within_addSections {below : List (Header × List (Key × Value))}
    (h : below.foldlM (fun entries next => addSection entries next.1 next.2) entries = some new)
    (hn : EntriesWithin depth new) : EntriesWithin depth entries ∧ ∀ next ∈ below,
      StatementWithin depth (.header next.1) ∧ ∀ a ∈ next.2, AssignmentWithin depth a := by
  induction below generalizing entries with
  | nil =>
    cases h
    exact ⟨hn, fun _ hb => absurd hb List.not_mem_nil⟩
  | cons first rest ih =>
    rw [List.foldlM_cons] at h
    obtain ⟨between, ha, h⟩ := Option.bind_eq_some_iff.mp h
    obtain ⟨hbetween, hrest⟩ := ih h
    obtain ⟨hentries, hfirst⟩ := within_addSection ha hbetween
    exact ⟨hentries, List.forall_mem_cons.mpr ⟨hfirst, hrest⟩⟩

theorem forall_within_of_sections {statements : List Statement}
    (hassign : ∀ a ∈ (sections statements).1, AssignmentWithin depth a)
    (hbelow : ∀ next ∈ (sections statements).2, StatementWithin depth (.header next.1) ∧
      ∀ a ∈ next.2, AssignmentWithin depth a) : ∀ s ∈ statements, StatementWithin depth s := by
  induction statements with
  | nil => exact fun _ hs => absurd hs List.not_mem_nil
  | cons statement rest ih =>
    cases statement with
    | assign key value =>
      obtain ⟨hfirst, hrest⟩ := List.forall_mem_cons.mp hassign
      exact List.forall_mem_cons.mpr ⟨hfirst, ih hrest hbelow⟩
    | header header =>
      obtain ⟨hfirst, hrest⟩ := List.forall_mem_cons.mp hbelow
      exact List.forall_mem_cons.mpr ⟨hfirst.1, ih hfirst.2 hrest⟩

/-- **No statement leads deeper than the entries of its document are nested.** -/
theorem forall_within_of_entries? {statements : List Statement}
    (h : entries? statements = some entries) (hn : EntriesWithin depth entries) :
    ∀ s ∈ statements, StatementWithin depth s := by
  simp only [entries?] at h
  split at h
  · cases h
  · rename_i start hstart
    obtain ⟨hstart', hbelow⟩ := within_addSections h hn
    exact forall_within_of_sections (within_assignAll hstart hstart').2 hbelow

end Depth

/-! ## 3. Other limits -/

section Limits

variable {depth parts maxParts limit maxDepth : Nat} {t text : Text} {key : Key} {value : Value}
  {IsItem IsOther : Text → Value → Prop}

theorem isWholeKey_of_le (h : IsWholeKey parts t key) (hle : key.way.length < maxParts) :
    IsWholeKey maxParts t key := by
  cases h with
  | mk ht _ hk ha =>
    obtain ⟨name, hlast, rfl⟩ := Option.map_eq_some_iff.mp hk
    refine .mk ht ?_ hk ha
    have hlen := congrArg List.length (List.dropLast_append_getLast? name hlast)
    rw [List.length_append, List.length_singleton] at hlen
    exact hlen ▸ hle

theorem isAssignment_of_le (h : IsAssignment parts IsItem t (key, value))
    (hle : key.way.length < maxParts) (hv : ∀ u, IsItem u value → IsOther u value) :
    IsAssignment maxParts IsOther t (key, value) := by
  cases h with
  | mk hk hb hi => exact .mk (isWholeKey_of_le hk hle) hb (hv _ hi)

theorem isItems_of_forall {items : List Value} (h : IsItems IsItem t items)
    (hi : ∀ item ∈ items, ∀ u, IsItem u item → IsOther u item) : IsItems IsOther t items := by
  induction h with
  | last h hg => exact .last (hi _ List.mem_cons_self _ h) hg
  | comma h hg ha => exact .comma (hi _ List.mem_cons_self _ h) hg ha
  | cons h hg ha _ ih =>
    obtain ⟨hfirst, hrest⟩ := List.forall_mem_cons.mp hi
    exact .cons (hfirst _ h) hg ha (ih hrest)

theorem isMembers_of_forall {members : List (Key × Value)} (h : IsMembers parts IsItem t members)
    (hm : ∀ member ∈ members, member.1.way.length < maxParts ∧
      ∀ u, IsItem u member.2 → IsOther u member.2) : IsMembers maxParts IsOther t members := by
  induction h with
  | last h hb =>
    obtain ⟨hle, hv⟩ := hm _ List.mem_cons_self
    exact .last (isAssignment_of_le h hle hv) hb
  | cons h hb ha _ ih =>
    obtain ⟨⟨hle, hv⟩, hrest⟩ := List.forall_mem_cons.mp hm
    exact .cons (isAssignment_of_le h hle hv) hb ha (ih hrest)

/-- **A value that is nested no deeper is a value of a smaller depth.** -/
theorem isValue_of_within (h : IsValue parts limit t value) (hw : value.Within depth)
    (hle : depth ≤ maxParts) : IsValue maxParts depth t value := by
  induction depth generalizing limit t value with
  | zero =>
    cases limit with
    | zero => exact h
    | succ limit =>
      cases h with
      | scalar h => exact h
      | emptyArray => exact hw.elim
      | array => exact hw.elim
      | emptyTable => exact hw.elim
      | table => exact hw.elim
  | succ depth ih =>
    have hle' : depth ≤ maxParts := Nat.le_of_succ_le hle
    cases limit with
    | zero => exact .scalar h
    | succ limit =>
      cases h with
      | scalar h => exact .scalar h
      | emptyArray hg => exact .emptyArray hg
      | array hg hi =>
        exact .array hg (isItems_of_forall hi fun item hm u hu => ih hu (hw item hm) hle')
      | emptyTable hb => exact .emptyTable hb
      | table hb hm ha =>
        have hall := (within_assignAll (assignAll_eq_some_iff.mpr ha) hw).2
        refine .table hb (isMembers_of_forall hm fun member hmem => ?_) ha
        exact ⟨(hall member hmem).1.trans_lt hle, fun u hu => ih hu (hall member hmem).2 hle'⟩

theorem isStatement_of_within {s : Statement} (h : IsStatement parts limit t s)
    (hw : StatementWithin depth s) (hp : depth < maxParts) (hd : depth ≤ maxDepth)
    (hle : maxDepth ≤ maxParts) : IsStatement maxParts maxDepth t s := by
  cases h with
  | assign h =>
    exact .assign (isAssignment_of_le h (hw.1.trans_lt hp) fun u hu =>
      isValue_of_within hu (hw.2.mono hd) hle)
  | table hb hk => exact .table hb (isWholeKey_of_le hk (Nat.lt_of_le_of_lt hw hp))
  | element hb hk => exact .element hb (isWholeKey_of_le hk (Nat.lt_of_le_of_lt hw hp))

theorem isBody_of_forall {statements : List Statement} (h : IsBody parts limit t statements)
    (hs : ∀ s ∈ statements, ∀ u, IsStatement parts limit u s → IsStatement maxParts maxDepth u s) :
    IsBody maxParts maxDepth t statements := by
  have hline : ∀ {t : Text} {s : Option Statement}, IsLine parts limit t s →
      (∀ st ∈ s.toList, ∀ u, IsStatement parts limit u st → IsStatement maxParts maxDepth u st) →
      IsLine maxParts maxDepth t s := by
    intro t s hl hs
    cases hl with
    | blank hb hr => exact .blank hb hr
    | statement hb hst ha hr => exact .statement hb (hs _ List.mem_cons_self _ hst) ha hr
  induction h with
  | last hl => exact .last (hline hl hs)
  | cons hl _ ih =>
    obtain ⟨hfirst, hrest⟩ := List.forall_mem_append.mp hs
    exact .cons (hline hl hfirst) (ih hrest)

/-- **A document whose entries are nested no deeper than `depth` is one under greater limits**,
    under whichever limits it is one. -/
theorem HasEntries.of_within {entries : Entries} (h : HasEntries parts limit text entries)
    (hw : EntriesWithin depth entries) (hp : depth < maxParts) (hd : depth ≤ maxDepth)
    (hle : maxDepth ≤ maxParts) : HasEntries maxParts maxDepth text entries := by
  obtain ⟨statements, hb, hm⟩ := h
  have hall := forall_within_of_entries? (entries?_eq_some_iff.mpr hm) hw
  refine ⟨statements, isBody_of_forall hb fun s hs u hu => ?_, hm⟩
  exact isStatement_of_within hu (hall s hs) hp hd hle

end Limits

end LookupLog.Toml
