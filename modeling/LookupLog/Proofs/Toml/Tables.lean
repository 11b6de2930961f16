import LookupLog.Proofs.Toml.Rules
import Mathlib.Data.List.Induction

/-!
# Tables that are made by the rules

The reader makes the tables that the rules of TOML allow, and no others.

* `alter_eq_some_iff`: a change at the end of a way;
* `assignAll_eq_some_iff`: the assignments of a table;
* `addSection_eq_some_iff`: a header with the assignments below it;
* `entries?_eq_some_iff`: the statements of a document.
-/

namespace LookupLog.Toml

open Text TomlGrammar

/-! ## 1. Paths -/

section Paths

variable {entries : Entries} {name : Text} {value old : Value} {way : List Text}
  {kinds : List TableKind}

theorem put_of_none (h : entries.lookup name = none) (value : Value) :
    put name value entries = entries ++ [(name, value)] := by
  induction entries with
  | nil => rfl
  | cons entry rest ih =>
    obtain ⟨other, old⟩ := entry
    rw [List.lookup_cons] at h
    split at h
    · cases h
    · rename_i hne
      rw [put, if_neg (Ne.symm (beq_eq_false_iff_ne.mp hne)), ih h]
      rfl

theorem put_of_some (h : entries.lookup name = some old) (value : Value) :
    put name value entries = replaceEntry name value entries := by
  induction entries with
  | nil => cases h
  | cons entry rest ih =>
    obtain ⟨other, first⟩ := entry
    unfold put replaceEntry
    by_cases hn : other = name
    · rw [if_pos hn, if_pos hn, hn]
    · rw [List.lookup_cons, beq_false_of_ne (Ne.symm hn)] at h
      rw [if_neg hn, if_neg hn, ih h]

theorem itemAt?_cons (h : way ≠ []) (name : Text) (entries : Entries) :
    itemAt? (name :: way) entries = itemAt? way (inside name entries) := by
  cases way with
  | nil => exact absurd rfl h
  | cons next way => rfl

theorem isWay_nil : IsWay kinds [] entries := by
  intro path value hp hi
  rw [List.prefix_nil.mp hp] at hi
  cases hi

/-- **The first step of a way, and the way that goes on behind it.** -/
theorem isWay_cons_iff : IsWay kinds (name :: way) entries ↔
    (∀ value, entries.lookup name = some value → CanPass kinds value) ∧
      IsWay kinds way (inside name entries) := by
  refine ⟨fun h => ⟨fun value hl => h [name] value ?_ hl, fun path value hp hi => ?_⟩,
    fun ⟨hfirst, hrest⟩ path value hp hi => ?_⟩
  · exact List.cons_prefix_cons.mpr ⟨rfl, List.nil_prefix⟩
  · have hne : path ≠ [] := by
      intro he
      rw [he] at hi
      cases hi
    rw [← itemAt?_cons hne] at hi
    exact h (name :: path) value (List.cons_prefix_cons.mpr ⟨rfl, hp⟩) hi
  · cases path with
    | nil => cases hi
    | cons first path =>
      obtain ⟨rfl, hpath⟩ := List.cons_prefix_cons.mp hp
      by_cases hne : path = []
      · subst hne
        exact hfirst value hi
      · rw [itemAt?_cons hne] at hi
        exact hrest path value hpath hi

end Paths

/-! ## 2. Changes at the end of a way -/

/-- The kind of the table that a way goes on in. -/
def kindOf (made : TableKind) : Option Value → TableKind
  | some (.table kind _) => kind
  | some (.tables _) => .headed
  | _ => made

/-- The kind and the entries of the table at the end of a way, which is made if it is not there. -/
def endOf (made : TableKind) : (way : List Text) → TableKind → Entries → TableKind × Entries
  | [], kind, entries => (kind, entries)
  | name :: way, _, entries =>
    endOf made way (kindOf made (entries.lookup name)) (inside name entries)

/-- The tables that are gone through. -/
def openTo (byDottedKey : Bool) : List TableKind :=
  if byDottedKey then openToKeys else openToHeaders

/-- The kind of the tables that are made on the way. -/
def madeBy (byDottedKey : Bool) : TableKind :=
  if byDottedKey then .dotted else .implied

theorem passable_iff (byDottedKey : Bool) (kind : TableKind) :
    kind.passable byDottedKey = true ↔ kind ∈ openTo byDottedKey := by
  cases byDottedKey <;> cases kind <;> decide

section Changes

variable {made kind : TableKind} {byDottedKey : Bool}
  {change : TableKind → Entries → Option Entries} {way : List Text} {name : Text}
  {entries new : Entries}

/-- What stands in the table at the end of a way. -/
theorem itemAt?_append (made kind : TableKind) (way : List Text) (name : Text) (entries : Entries) :
    itemAt? (way ++ [name]) entries = (endOf made way kind entries).2.lookup name := by
  induction way generalizing kind entries with
  | nil => rfl
  | cons first way ih =>
    have hne : way ++ [name] ≠ [] := List.append_ne_nil_of_right_ne_nil _ (List.cons_ne_nil _ _)
    rw [List.cons_append, itemAt?_cons hne]
    exact ih _ _

theorem itemAt?_pathOf (made : TableKind) (key : Key) (entries : Entries) :
    itemAt? (pathOf key) entries = (endOf made key.way .headed entries).2.lookup key.name :=
  itemAt?_append made .headed key.way key.name entries

/-- A change of the table at the end of a way is what it makes of its entries. -/
theorem changeAt_eq (kind : TableKind) (change : Entries → Entries) (way : List Text)
    (entries : Entries) : changeAt made change way entries =
      changeAt made (fun _ => change (endOf made way kind entries).2) way entries := by
  induction way generalizing kind entries with
  | nil => rfl
  | cons name way ih =>
    rw [changeAt, changeAt, endOf, ih (kindOf made (entries.lookup name))]

/-- **A step of a way that can be passed is a change of one entry.** -/
theorem alter_cons_of_canPass
    (h : ∀ value, entries.lookup name = some value → CanPass (openTo byDottedKey) value) :
    alter byDottedKey change (name :: way) kind entries =
      (alter byDottedKey change way (kindOf (madeBy byDottedKey) (entries.lookup name))
        (inside name entries)).map fun inner =>
          put name (withBelow (madeBy byDottedKey) inner (entries.lookup name)) entries := by
  rw [alter, inside]
  cases hl : entries.lookup name with
  | none =>
    simp only [put_of_none hl]
    rfl
  | some value =>
    have hpass := h value hl
    cases value with
    | table kind inner =>
      simp only [put_of_some hl, if_pos ((passable_iff byDottedKey kind).mpr hpass)]
      rfl
    | tables elements =>
      simp only [put_of_some hl]
      cases hlast : elements.getLast? with
      | none => exact absurd (List.getLast?_eq_none_iff.mp hlast) hpass
      | some last => rfl
    | _ => exact hpass.elim

/-- A step that cannot be passed is refused. -/
theorem alter_cons_of_not_canPass {value : Value} (hl : entries.lookup name = some value)
    (h : ¬CanPass (openTo byDottedKey) value) :
    alter byDottedKey change (name :: way) kind entries = none := by
  unfold alter
  cases value with
  | table kind inner =>
    simp only [hl, if_neg (mt (passable_iff byDottedKey kind).mp h)]
  | tables elements =>
    have hnil : elements = [] := Classical.not_not.mp h
    subst hnil
    simp only [hl]
    rfl
  | _ => simp only [hl]

/-- **A change at the end of a way is one of the whole table**, where the way can be gone. -/
theorem alter_eq_some_iff : alter byDottedKey change way kind entries = some new ↔
    IsWay (openTo byDottedKey) way entries ∧ ∃ changed,
      change (endOf (madeBy byDottedKey) way kind entries).1
        (endOf (madeBy byDottedKey) way kind entries).2 = some changed ∧
      new = changeAt (madeBy byDottedKey) (fun _ => changed) way entries := by
  induction way generalizing kind entries new with
  | nil =>
    refine ⟨fun h => ⟨isWay_nil, new, h, rfl⟩, fun ⟨_, changed, h, he⟩ => ?_⟩
    rw [he]
    exact h
  | cons name way ih =>
    by_cases hpass : ∀ value, entries.lookup name = some value →
        CanPass (openTo byDottedKey) value
    · rw [alter_cons_of_canPass hpass, Option.map_eq_some_iff, isWay_cons_iff]
      refine ⟨fun ⟨inner, ha, he⟩ => ?_, fun ⟨⟨_, hw⟩, changed, hc, he⟩ => ?_⟩
      · obtain ⟨hw, changed, hc, rfl⟩ := ih.mp ha
        exact ⟨⟨hpass, hw⟩, changed, hc, he.symm⟩
      · exact ⟨_, ih.mpr ⟨hw, changed, hc, rfl⟩, he.symm⟩
    · obtain ⟨value, hvalue⟩ := Classical.not_forall.mp hpass
      obtain ⟨hl, hnot⟩ := Classical.not_imp.mp hvalue
      rw [alter_cons_of_not_canPass hl hnot]
      exact ⟨nofun, fun ⟨hw, _⟩ => absurd ((isWay_cons_iff.mp hw).1 value hl) hnot⟩

theorem alter_key_eq_some_iff : alter true change way kind entries = some new ↔
    IsWay openToKeys way entries ∧ ∃ changed,
      change (endOf .dotted way kind entries).1 (endOf .dotted way kind entries).2 = some changed ∧
      new = changeAt .dotted (fun _ => changed) way entries :=
  alter_eq_some_iff

theorem alter_header_eq_some_iff : alter false change way kind entries = some new ↔
    IsWay openToHeaders way entries ∧ ∃ changed,
      change (endOf .implied way kind entries).1 (endOf .implied way kind entries).2 =
        some changed ∧
      new = changeAt .implied (fun _ => changed) way entries :=
  alter_eq_some_iff

/-- A change of the entries is one that is made where the way can be gone. -/
theorem alter_header_of_isWay {f : Entries → Entries} (hw : IsWay openToHeaders way entries)
    (hc : change (endOf .implied way kind entries).1 (endOf .implied way kind entries).2 =
      some (f (endOf .implied way kind entries).2)) :
    alter false change way kind entries = some (changeAt .implied f way entries) :=
  alter_header_eq_some_iff.mpr ⟨hw, _, hc, changeAt_eq kind f way entries⟩

end Changes

/-! ## 3. Assignments -/

section Assignments

variable {kind : TableKind} {way : List Text} {key : Key} {value : Value} {entries new : Entries}

/-- A way that dotted keys may go ends in a table that dotted keys made, or it is made. -/
theorem kind_endOf_iff (hne : way ≠ []) (hw : IsWay openToKeys way entries) :
    (endOf .dotted way kind entries).1 = .dotted ↔
      ∀ value, itemAt? way entries = some value → ∃ inner, value = .table .dotted inner := by
  induction way generalizing kind entries with
  | nil => exact absurd rfl hne
  | cons name way ih =>
    obtain ⟨hfirst, hrest⟩ := isWay_cons_iff.mp hw
    by_cases hnil : way = []
    · subst hnil
      show kindOf .dotted (entries.lookup name) = .dotted ↔
        ∀ value, entries.lookup name = some value → ∃ inner, value = .table .dotted inner
      cases hl : entries.lookup name with
      | none => exact ⟨fun _ _ hv => (Option.some_ne_none _ hv.symm).elim, fun _ => rfl⟩
      | some value =>
        have hpass := hfirst value hl
        cases value with
        | table kind inner =>
          refine ⟨fun hk value hv => ⟨inner, ?_⟩, fun h => ?_⟩
          · cases hv
            exact congrArg (Value.table · inner) hk
          · obtain ⟨_, he⟩ := h _ rfl
            cases he
            rfl
        | tables elements =>
          refine ⟨fun hk => ?_, fun h => ?_⟩
          · cases hk
          · obtain ⟨_, he⟩ := h _ rfl
            cases he
        | _ => exact hpass.elim
    · rw [itemAt?_cons hnil]
      exact ih hnil hrest

/-- **A value is set at a key that is free for it.** -/
theorem assign_eq_some_iff : assign entries key value = some new ↔
    IsFree key entries ∧ new = changeAt .dotted (put key.name value) key.way entries := by
  have hitem := itemAt?_pathOf .dotted key entries
  unfold assign
  rw [alter_key_eq_some_iff, changeAt_eq .headed (put key.name value)]
  refine ⟨fun ⟨hw, changed, hc, he⟩ => ?_, fun ⟨hk, he⟩ => ⟨hk.way, _, ?_, he⟩⟩
  · rw [Option.ite_none_left_eq_some, Option.ite_none_left_eq_some] at hc
    obtain ⟨hkind, hnone, hc⟩ := hc
    have hnone := Option.not_isSome_iff_eq_none.mp hnone
    refine ⟨⟨hw, ?_, hitem.trans hnone⟩, ?_⟩
    · by_cases hway : key.way = []
      · rw [hway]
        exact nofun
      · exact (kind_endOf_iff hway hw).mp (Classical.not_not.mp fun h => hkind ⟨hway, h⟩)
    · rw [he, put_of_none hnone, Option.some.inj hc]
  · have hnone := hitem.symm.trans hk.nothing
    have hkind : ¬(key.way ≠ [] ∧ (endOf .dotted key.way .headed entries).1 ≠ .dotted) :=
      fun ⟨hway, h⟩ => h ((kind_endOf_iff hway hk.way).mpr hk.dotted)
    rw [if_neg hkind, if_neg (Option.not_isSome_iff_eq_none.mpr hnone), put_of_none hnone]

/-- **Assignments are made by the rules.** -/
theorem assignAll_eq_some_iff {assignments : List (Key × Value)} :
    assignAll entries assignments = some new ↔ Assigns assignments entries new := by
  induction assignments generalizing entries with
  | nil =>
    refine ⟨fun h => ?_, fun h => ?_⟩
    · cases h
      exact .nil
    · cases h
      rfl
  | cons assignment rest ih =>
    obtain ⟨key, value⟩ := assignment
    rw [assignAll, List.foldlM_cons, Option.bind_eq_bind, Option.bind_eq_some_iff]
    refine ⟨fun ⟨between, ha, hr⟩ => ?_, fun h => ?_⟩
    · obtain ⟨hk, rfl⟩ := assign_eq_some_iff.mp ha
      exact .cons hk (ih.mp hr)
    · cases h with
      | cons hk hr => exact ⟨_, assign_eq_some_iff.mpr ⟨hk, rfl⟩, ih.mpr hr⟩

end Assignments

/-! ## 4. Statements -/

section Statements

variable {entries new : Entries} {header : Header} {assignments : List (Key × Value)}
  {statements : List Statement}

/-- What a header adds is allowed by the rules. -/
theorem adds_of_addSection (h : addSection entries header assignments = some new) :
    Adds header assignments entries new := by
  cases header with
  | table key =>
    obtain ⟨hw, changed, hc, rfl⟩ := alter_header_eq_some_iff.mp h
    split at hc
    · rename_i hnone
      obtain ⟨made, ha, rfl⟩ := Option.map_eq_some_iff.mp hc
      rw [← put_of_none hnone, ← changeAt_eq .headed (put key.name _)]
      exact .table hw ((itemAt?_pathOf ..).trans hnone) (assignAll_eq_some_iff.mp ha)
    · rename_i inner himplied
      obtain ⟨made, ha, rfl⟩ := Option.map_eq_some_iff.mp hc
      have hadds := Adds.implied hw ((itemAt?_pathOf ..).trans himplied)
        (assignAll_eq_some_iff.mp ha)
      rw [changeAt_eq .headed] at hadds
      exact hadds
    · cases hc
  | element key =>
    obtain ⟨hw, changed, hc, rfl⟩ := alter_header_eq_some_iff.mp h
    split at hc
    · rename_i hnone
      obtain ⟨made, ha, rfl⟩ := Option.map_eq_some_iff.mp hc
      rw [← put_of_none hnone, ← changeAt_eq .headed (put key.name _)]
      exact .first hw ((itemAt?_pathOf ..).trans hnone) (assignAll_eq_some_iff.mp ha)
    · rename_i elements hlist
      obtain ⟨made, ha, rfl⟩ := Option.map_eq_some_iff.mp hc
      rw [← put_of_some hlist, ← changeAt_eq .headed (put key.name _)]
      exact .next hw ((itemAt?_pathOf ..).trans hlist) (assignAll_eq_some_iff.mp ha)
    · cases hc

/-- What the rules allow is added. -/
theorem addSection_of_adds (h : Adds header assignments entries new) :
    addSection entries header assignments = some new := by
  cases h with
  | @table key _ _ made hw hn ha =>
    have hnone := (itemAt?_pathOf .implied key entries).symm.trans hn
    refine alter_header_of_isWay hw ?_
    simp only [hnone, put_of_none hnone, assignAll_eq_some_iff.mpr ha]
    rfl
  | @implied key _ _ inner made hw hi ha =>
    have himplied := (itemAt?_pathOf .implied key entries).symm.trans hi
    refine alter_header_of_isWay hw ?_
    simp only [himplied, assignAll_eq_some_iff.mpr ha]
    rfl
  | @first key _ _ made hw hn ha =>
    have hnone := (itemAt?_pathOf .implied key entries).symm.trans hn
    refine alter_header_of_isWay hw ?_
    simp only [hnone, put_of_none hnone, assignAll_eq_some_iff.mpr ha]
    rfl
  | @next key _ _ made elements hw hl ha =>
    have hlist := (itemAt?_pathOf .implied key entries).symm.trans hl
    refine alter_header_of_isWay hw ?_
    simp only [hlist, put_of_some hlist, assignAll_eq_some_iff.mpr ha]
    rfl

/-- **A header and what is below it are added by the rules.** -/
theorem addSection_eq_some_iff :
    addSection entries header assignments = some new ↔ Adds header assignments entries new :=
  ⟨adds_of_addSection, addSection_of_adds⟩

/-- The statements of some sections. -/
def ofSections (start : List (Key × Value)) (below : List (Header × List (Key × Value))) :
    List Statement :=
  lines start ++ below.flatMap fun next => .header next.1 :: lines next.2

theorem sections_lines (assignments : List (Key × Value)) (rest : List Statement) :
    sections (lines assignments ++ rest) =
      (assignments ++ (sections rest).1, (sections rest).2) := by
  induction assignments with
  | nil => rfl
  | cons assignment assignments ih =>
    show sections (.assign assignment.1 assignment.2 :: (lines assignments ++ rest)) = _
    rw [sections, ih]
    rfl

theorem sections_ofSections (start : List (Key × Value))
    (below : List (Header × List (Key × Value))) :
    sections (ofSections start below) = (start, below) := by
  induction below generalizing start with
  | nil =>
    rw [ofSections, sections_lines]
    show (start ++ [], []) = _
    rw [List.append_nil]
  | cons next below ih =>
    rw [ofSections, sections_lines, List.flatMap_cons, List.cons_append, sections]
    have hnext : sections (lines next.2 ++
        below.flatMap fun next => .header next.1 :: lines next.2) = (next.2, below) := ih next.2
    rw [hnext]
    show (start ++ [], _) = _
    rw [List.append_nil]

/-- **Statements are those of their sections.** -/
theorem ofSections_sections (statements : List Statement) :
    ofSections (sections statements).1 (sections statements).2 = statements := by
  induction statements with
  | nil => rfl
  | cons statement rest ih =>
    cases statement with
    | assign key value => exact congrArg (Statement.assign key value :: ·) ih
    | header header => exact congrArg (Statement.header header :: ·) ih

theorem ofSections_concat (start : List (Key × Value))
    (below : List (Header × List (Key × Value))) (header : Header)
    (assignments : List (Key × Value)) : ofSections start (below ++ [(header, assignments)]) =
      ofSections start below ++ .header header :: lines assignments := by
  simp only [ofSections, List.flatMap_append, List.flatMap_singleton, List.append_assoc]

theorem foldlM_concat {α β : Type} (step : β → α → Option β) (start : β) (items : List α)
    (last : α) :
    (items ++ [last]).foldlM step start = (items.foldlM step start).bind (step · last) := by
  rw [List.foldlM_append]
  exact congrArg _ (funext fun between => Option.bind_fun_some (step between last))

/-- The sections of a document are added one after another. -/
theorem makes_ofSections {start : List (Key × Value)} {below : List (Header × List (Key × Value))}
    (hs : assignAll [] start = some entries)
    (hb : below.foldlM (fun entries next => addSection entries next.1 next.2) entries = some new) :
    Makes (ofSections start below) new := by
  induction below using List.reverseRecOn generalizing new with
  | nil =>
    cases hb
    rw [ofSections, List.flatMap_nil, List.append_nil]
    exact .assignments (assignAll_eq_some_iff.mp hs)
  | append_singleton below next ih =>
    rw [foldlM_concat] at hb
    obtain ⟨between, hb, hn⟩ := Option.bind_eq_some_iff.mp hb
    rw [ofSections_concat]
    exact .header (ih hb) (addSection_eq_some_iff.mp hn)

theorem exists_sections_of_makes (h : Makes statements new) :
    ∃ start below entries, statements = ofSections start below ∧
      assignAll [] start = some entries ∧
      below.foldlM (fun entries next => addSection entries next.1 next.2) entries = some new := by
  induction h with
  | @assignments start new ha =>
    refine ⟨start, [], new, ?_, assignAll_eq_some_iff.mpr ha, rfl⟩
    rw [ofSections, List.flatMap_nil, List.append_nil]
  | @header before header assignments old new _ ha ih =>
    obtain ⟨start, below, entries, rfl, hs, hb⟩ := ih
    refine ⟨start, below ++ [(header, assignments)], entries, ?_, hs, ?_⟩
    · exact (ofSections_concat start below header assignments).symm
    · rw [foldlM_concat, hb]
      exact addSection_eq_some_iff.mpr ha

/-- **The entries of a document are made by the rules.** -/
theorem entries?_eq_some_iff : entries? statements = some new ↔ Makes statements new := by
  refine ⟨fun h => ?_, fun h => ?_⟩
  · simp only [entries?] at h
    split at h
    · cases h
    · rename_i entries hs
      rw [← ofSections_sections statements]
      exact makes_ofSections hs h
  · obtain ⟨start, below, entries, rfl, hs, hb⟩ := exists_sections_of_makes h
    simp only [entries?, sections_ofSections, hs]
    exact hb

end Statements

end LookupLog.Toml
