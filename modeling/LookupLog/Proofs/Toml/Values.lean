import LookupLog.Proofs.Toml.Keys
import LookupLog.Proofs.Toml.LongStrings
import LookupLog.Proofs.Toml.Tables
import LookupLog.Proofs.Toml.Words

/-!
# Values of TOML

A reader of values reads exactly those of a grammar, as long as a value ends where it can end
(`ReadsValues`). If a reader does so, then one that reads arrays and tables of such values does so,
too; so this holds for each depth (`readsValues_value?`).
-/

namespace LookupLog.Toml

open Text TomlGrammar

/-! ## 1. Where values begin and end -/

/-- What stands behind a value, after blanks. -/
def valueEnds : List Char :=
  ['\n', '#', ',', ']', '\x7d']

/-- A value can end in front of it. -/
def EndsValue (rest : Text) : Prop :=
  ∀ c ∈ (skipBlank rest).head?, c ∈ valueEnds

/-- Begins a value without brackets or braces. -/
def StartsScalar (c : Char) : Prop :=
  isWordChar c = true ∨ c = '"' ∨ c = '\''

/-- Begins a value. -/
def StartsValue (c : Char) : Prop :=
  StartsScalar c ∨ c = '[' ∨ c = '\x7b'

section Ends

variable {blanks gap rest : Text} {c : Char}

theorem endsValue_blanks (hb : IsBlanks blanks) (hc : c ∈ valueEnds) (hs : isBlank c = false)
    (rest : Text) : EndsValue (blanks ++ c :: rest) := by
  unfold EndsValue
  rw [skipBlank_append hb, skipBlank_of_head (forall_head_cons hs)]
  exact forall_head_cons hc

/-- A value can end in front of a gap. -/
theorem endsValue_gap (hg : IsGap gap) (hc : c ∈ valueEnds) (hs : isBlank c = false) (rest : Text) :
    EndsValue (gap ++ c :: rest) := by
  cases hg with
  | blanks hb => exact endsValue_blanks hb hc hs rest
  | line hb hr hg =>
    rw [List.append_assoc]
    cases hr with
    | none => exact endsValue_blanks hb List.mem_cons_self rfl _
    | some h => exact endsValue_blanks hb (List.mem_cons_of_mem _ List.mem_cons_self) rfl _

theorem not_isWordChar_of_isBlank (h : isBlank c = true) : isWordChar c = false := by
  rcases of_decide_eq_true h with rfl | rfl
  · rfl
  · rfl

theorem not_isWordChar_of_mem_valueEnds (h : c ∈ valueEnds) : isWordChar c = false := by
  have hall : valueEnds.all (fun c => !isWordChar c) = true := rfl
  have := List.all_eq_true.mp hall c h
  simpa using this

/-- A word can end there, too. -/
theorem EndsValue.endsWord (h : EndsValue rest) : EndsWord rest := by
  have hhead : ∀ {rest : Text}, EndsValue rest → ∀ c ∈ rest.head?, isWordChar c = false := by
    intro rest h c hc
    by_cases hb : isBlank c = true
    · exact not_isWordChar_of_isBlank hb
    · have hs : ∀ d ∈ rest.head?, isBlank d = false := by
        intro d hd
        cases hc.symm.trans hd
        exact Bool.not_eq_true _ ▸ hb
      unfold EndsValue at h
      rw [skipBlank_of_head hs] at h
      exact not_isWordChar_of_mem_valueEnds (h c hc)
  refine ⟨hhead h, fun c u hr => ?_⟩
  subst hr
  have hrest : EndsValue (c :: u) := h
  have hc := hhead hrest c rfl
  by_contra hd
  rw [Bool.not_eq_false] at hd
  rw [isWordChar_of_isDigit hd] at hc
  cases hc

theorem EndsValue.ne_quote (h : EndsValue rest) :
    rest.head? ≠ some '"' ∧ rest.head? ≠ some '\'' := by
  have hne : ∀ {d : Char}, isBlank d = false → d ∉ valueEnds → rest.head? ≠ some d := by
    intro d hb hd hr
    have hs : ∀ e ∈ rest.head?, isBlank e = false := by
      intro e he
      cases hr.symm.trans he
      exact hb
    unfold EndsValue at h
    rw [skipBlank_of_head hs] at h
    exact hd (h d hr)
  exact ⟨hne rfl (by decide), hne rfl (by decide)⟩

theorem StartsValue.ne {d : Char} (hc : StartsValue c) (hw : isWordChar d = false)
    (hd : d ∉ ['"', '\'', '[', '\x7b']) : c ≠ d := by
  simp only [List.mem_cons, List.not_mem_nil, or_false, not_or] at hd
  rcases hc with (hc | rfl | rfl) | rfl | rfl
  · exact ne_of_class hc hw
  · exact Ne.symm hd.1
  · exact Ne.symm hd.2.1
  · exact Ne.symm hd.2.2.1
  · exact Ne.symm hd.2.2.2

/-- A value begins neither with a gap nor with a mark behind a value. -/
theorem StartsValue.isSolid (hc : StartsValue c) : IsSolid c :=
  ⟨isBlank_of_ne (hc.ne rfl (by decide)) (hc.ne rfl (by decide)), hc.ne rfl (by decide),
    hc.ne rfl (by decide)⟩

theorem isPlain_of_isWordChar (h : isWordChar c = true) : isPlain c = true := by
  have halnum : c.isAlphanum = true → isPlain c = true := by
    intro h
    have h : (decide (c.val ≥ 'A'.val ∧ c.val ≤ 'Z'.val) ||
        decide (c.val ≥ 'a'.val) && decide (c.val ≤ 'z'.val) ||
        decide (c.val ≥ '0'.val) && decide (c.val ≤ '9'.val)) = true := h
    simp only [Bool.or_eq_true, Bool.and_eq_true, decide_eq_true_eq, ge_iff_le,
      UInt32.le_iff_toNat_le] at h
    have hn : c.val.toNat = c.toNat := rfl
    have hZ : 'Z'.val.toNat = 90 := rfl
    have hz : 'z'.val.toNat = 122 := rfl
    have h9 : '9'.val.toNat = 57 := rfl
    have hA : 'A'.val.toNat = 65 := rfl
    have ha : 'a'.val.toNat = 97 := rfl
    have h0 : '0'.val.toNat = 48 := rfl
    unfold isPlain
    rw [decide_eq_true_eq]
    omega
  unfold isWordChar at h
  simp only [Bool.or_eq_true, decide_eq_true_eq] at h
  rcases h with ((((h | rfl) | rfl) | rfl) | rfl) | rfl
  · exact halnum h
  all_goals rfl

theorem StartsValue.isPlain_eq (hc : StartsValue c) : isPlain c = true := by
  rcases hc with (hc | rfl | rfl) | rfl | rfl
  · exact isPlain_of_isWordChar hc
  all_goals rfl

end Ends

/-! ## 2. Readers of values -/

/-- **A reader reads exactly the values of a grammar**, each as far as it goes. -/
structure ReadsValues (value : Text → Option (Value × Text))
    (IsItem : Text → Value → Prop) : Prop where
  append : ∀ {s : Text} {v : Value}, IsItem s v →
    ∀ {rest : Text}, EndsValue rest → value (s ++ rest) = some (v, rest)
  exists_of : ∀ {t : Text} {v : Value} {rest : Text}, value t = some (v, rest) →
    ∃ s, t = s ++ rest ∧ IsItem s v
  starts : ∀ {s : Text} {v : Value}, IsItem s v → ∃ c u, s = c :: u ∧ StartsValue c

/-! ## 3. Values without brackets or braces -/

/-- A string or a word. -/
def scalar? (text : Text) : Option (Value × Text) :=
  match string? text with
  | some (string, rest) => some (.string string, rest)
  | none => (Value.ofWord? (splitWord text).1).map fun value => (value, (splitWord text).2)

section Scalars

variable {s t text rest : Text} {v : Value} {depth : Nat}

theorem string?_of_head (hq : t.head? ≠ some '"') (ha : t.head? ≠ some '\'') :
    string? t = none := by
  unfold string?
  split
  · exact absurd rfl hq
  · exact absurd rfl ha
  · exact absurd rfl hq
  · exact absurd rfl ha
  · rfl

theorem startsScalar_of_isString (h : IsString s text) : ∃ c u, s = c :: u ∧ StartsScalar c := by
  cases h with
  | basic => exact ⟨_, _, rfl, Or.inr (Or.inl rfl)⟩
  | literal => exact ⟨_, _, rfl, Or.inr (Or.inr rfl)⟩
  | basicText => exact ⟨_, _, rfl, Or.inr (Or.inl rfl)⟩
  | literalText => exact ⟨_, _, rfl, Or.inr (Or.inr rfl)⟩

theorem startsScalar_of_isScalar (h : IsScalar s v) : ∃ c u, s = c :: u ∧ StartsScalar c := by
  cases h with
  | string h => exact startsScalar_of_isString h
  | word h =>
    obtain ⟨c, u, rfl, hc⟩ := exists_wordChar_of_isWord h
    exact ⟨c, u, rfl, Or.inl hc⟩

theorem readsValues_scalar? : ReadsValues scalar? IsScalar where
  append {s v} h rest hr := by
    obtain ⟨hq, ha⟩ := hr.ne_quote
    cases h with
    | string h =>
      unfold scalar?
      rw [string?_append h hq ha]
    | word h =>
      obtain ⟨c, u, rfl, hc⟩ := exists_wordChar_of_isWord h
      have hq : (c :: u ++ rest).head? ≠ some '"' := fun h => ne_of_class hc rfl (Option.some.inj h)
      have ha : (c :: u ++ rest).head? ≠ some '\'' :=
        fun h => ne_of_class hc rfl (Option.some.inj h)
      unfold scalar?
      rw [string?_of_head hq ha, splitWord_append h hr.endsWord]
      simp only [ofWord?_eq_some_iff.mpr h, Option.map_some]
  exists_of {t v rest} h := by
    unfold scalar? at h
    split at h
    · rename_i text rest' hs
      cases h
      obtain ⟨s, ht, hstring⟩ := exists_of_string? hs
      exact ⟨s, ht, .string hstring⟩
    · obtain ⟨v', hw, he⟩ := Option.map_eq_some_iff.mp h
      cases he
      exact ⟨_, (splitWord_fst_append_snd t).symm, .word (ofWord?_eq_some_iff.mp hw)⟩
  starts h := by
    obtain ⟨c, u, rfl, hc⟩ := startsScalar_of_isScalar h
    exact ⟨c, u, rfl, Or.inl hc⟩

theorem value?_eq_scalar? (hb : depth = 0 ∨ t.head? ≠ some '[')
    (hbr : depth = 0 ∨ t.head? ≠ some '\x7b') : value? depth t = scalar? t := by
  unfold value?
  split
  · exact absurd rfl (hb.resolve_left (Nat.succ_ne_zero _))
  · exact absurd rfl (hbr.resolve_left (Nat.succ_ne_zero _))
  · rfl

end Scalars

/-! ## 4. Arrays -/

section Items

variable {value : Text → Option (Value × Text)} {IsItem : Text → Value → Prop} {count : Nat}
  {s t u gap rest : Text} {items more : List Value} {item : Value}

theorem items?_end (h : skipGap false t = ']' :: rest) :
    items? value (count + 1) t = some ([], rest) := by
  unfold items?
  simp only [h]

theorem items?_close (hi : value (skipGap false t) = some (item, u))
    (hne : (skipGap false t).head? ≠ some ']') (hu : skipGap false u = ']' :: rest) :
    items? value (count + 1) t = some ([item], rest) := by
  unfold items?
  split
  · rename_i h
    rw [h] at hne
    exact absurd rfl hne
  · simp only [hi, hu]

theorem items?_comma (hi : value (skipGap false t) = some (item, u))
    (hne : (skipGap false t).head? ≠ some ']') (hu : skipGap false u = ',' :: rest) :
    items? value (count + 1) t = (items? value count rest).map fun x => (item :: x.1, x.2) := by
  rw [items?]
  split
  · rename_i h
    rw [h] at hne
    exact absurd rfl hne
  · simp only [hi, hu]

/-- What is read as items. -/
theorem items?_cases (h : items? value (count + 1) t = some (items, rest)) :
    (skipGap false t = ']' :: rest ∧ items = []) ∨
      ∃ item u, value (skipGap false t) = some (item, u) ∧
        ((skipGap false u = ']' :: rest ∧ items = [item]) ∨
          ∃ w more, skipGap false u = ',' :: w ∧ items? value count w = some (more, rest) ∧
            items = item :: more) := by
  rw [items?] at h
  split at h
  · rename_i hd
    cases h
    exact Or.inl ⟨hd, rfl⟩
  · split at h
    · cases h
    · rename_i item u hi
      refine Or.inr ⟨item, u, hi, ?_⟩
      split at h
      · rename_i w hw
        obtain ⟨⟨more, rest'⟩, hm, he⟩ := Option.map_eq_some_iff.mp h
        cases he
        exact Or.inr ⟨w, more, hw, hm, rfl⟩
      · rename_i w hw
        cases h
        exact Or.inl ⟨hw, rfl⟩
      · cases h

/-- A gap in front of a value is skipped. -/
theorem ReadsValues.gap_append (hv : ReadsValues value IsItem) (hi : IsItem s item) (hg : IsGap gap)
    (hr : EndsValue rest) :
    value (skipGap false (gap ++ (s ++ rest))) = some (item, rest) ∧
      (skipGap false (gap ++ (s ++ rest))).head? ≠ some ']' := by
  obtain ⟨c, u, rfl, hc⟩ := hv.starts hi
  have hskip : skipGap false (gap ++ (c :: u ++ rest)) = c :: u ++ rest := by
    rw [skipGap_append hg]
    exact skipGap_of_isSolid hc.isSolid _
  rw [hskip]
  refine ⟨hv.append hi hr, fun h => ?_⟩
  exact hc.ne rfl (by decide) (Option.some.inj h)

/-- What is read behind skipped characters stands behind a gap. -/
theorem ReadsValues.exists_gap (hv : ReadsValues value IsItem)
    (h : value (skipGap false t) = some (item, rest)) :
    ∃ gap s, t = gap ++ (s ++ rest) ∧ IsGap gap ∧ IsItem s item := by
  obtain ⟨s, hs, hitem⟩ := hv.exists_of h
  obtain ⟨c, w, hcw, hc⟩ := hv.starts hitem
  have hskip : skipGap false t = c :: (w ++ rest) := by
    rw [hs, hcw]
    rfl
  obtain ⟨-, gap, hg, ht⟩ := Toml.exists_gap hskip hc.isPlain_eq
  refine ⟨gap, s, ?_, hg, hitem⟩
  rw [ht, hcw]
  rfl

/-- **The items of an array are read**, in front of its bracket. -/
theorem items?_append (hv : ReadsValues value IsItem) (h : IsItems IsItem s items) (hg : IsGap gap)
    (hcount : s.length < count) :
    items? value count (gap ++ (s ++ ']' :: rest)) = some (items, rest) := by
  have hbracket : IsSolid ']' := ⟨rfl, by decide, by decide⟩
  have hcomma : IsSolid ',' := ⟨rfl, by decide, by decide⟩
  have hbrackets : ']' ∈ valueEnds := by decide
  have hcommas : ',' ∈ valueEnds := by decide
  induction h generalizing gap count with
  | @last s gap' item hi hg' =>
    obtain ⟨count, rfl⟩ := Nat.exists_eq_succ_of_ne_zero (Nat.ne_zero_of_lt hcount)
    obtain ⟨hread, hne⟩ := hv.gap_append hi hg (endsValue_gap hg' hbrackets rfl rest)
    rw [List.append_assoc, items?_close hread hne]
    rw [skipGap_append hg', skipGap_of_isSolid hbracket]
  | @comma s gap' after item hi hg' ha =>
    -- behind the last comma the bracket is found in a step of its own
    obtain ⟨count, rfl⟩ : ∃ n, count = n + 2 := by
      obtain ⟨c, u, rfl, -⟩ := hv.starts hi
      exact ⟨count - 2, by simp only [List.length_append, List.length_cons] at hcount; omega⟩
    have htext : gap ++ (s ++ (gap' ++ ',' :: after) ++ ']' :: rest) =
        gap ++ (s ++ (gap' ++ ',' :: (after ++ ']' :: rest))) := by
      simp only [List.append_assoc, List.cons_append]
    obtain ⟨hread, hne⟩ :=
      hv.gap_append hi hg (endsValue_gap hg' hcommas rfl (after ++ ']' :: rest))
    have hend : skipGap false (after ++ ']' :: rest) = ']' :: rest := by
      rw [skipGap_append ha, skipGap_of_isSolid hbracket]
    rw [htext, items?_comma hread hne (by rw [skipGap_append hg', skipGap_of_isSolid hcomma]),
      items?_end hend]
    rfl
  | @cons s gap' after more item items hi hg' ha hr ih =>
    obtain ⟨count, rfl⟩ := Nat.exists_eq_succ_of_ne_zero (Nat.ne_zero_of_lt hcount)
    have htext : gap ++ (s ++ (gap' ++ ',' :: (after ++ more)) ++ ']' :: rest) =
        gap ++ (s ++ (gap' ++ ',' :: (after ++ (more ++ ']' :: rest)))) := by
      simp only [List.append_assoc, List.cons_append]
    obtain ⟨hread, hne⟩ := hv.gap_append hi hg
      (endsValue_gap hg' hcommas rfl (after ++ (more ++ ']' :: rest)))
    have hlt : more.length < count := by
      simp only [List.length_append, List.length_cons] at hcount
      omega
    rw [htext, items?_comma hread hne (by rw [skipGap_append hg', skipGap_of_isSolid hcomma]),
      ih ha hlt]
    rfl

/-- **And nothing else is read as items.** -/
theorem exists_of_items? (hv : ReadsValues value IsItem)
    (h : items? value count t = some (items, rest)) :
    ∃ gap s, t = gap ++ (s ++ ']' :: rest) ∧ IsGap gap ∧
      (s = [] ∧ items = [] ∨ IsItems IsItem s items) := by
  induction count generalizing t items with
  | zero => cases h
  | succ count ih =>
    rcases items?_cases h with ⟨hend, rfl⟩ | ⟨item, u, hi, hu⟩
    · obtain ⟨-, gap, hg, rfl⟩ := exists_gap hend rfl
      exact ⟨gap, [], rfl, hg, Or.inl ⟨rfl, rfl⟩⟩
    · obtain ⟨gap, s, rfl, hg, hitem⟩ := hv.exists_gap hi
      rcases hu with ⟨hclose, rfl⟩ | ⟨w, more, hcomma, hm, rfl⟩
      · obtain ⟨-, gap', hg', rfl⟩ := exists_gap hclose rfl
        refine ⟨gap, s ++ gap', ?_, hg, Or.inr (.last hitem hg')⟩
        rw [List.append_assoc]
      · obtain ⟨-, gap', hg', rfl⟩ := exists_gap hcomma rfl
        obtain ⟨after, tail, rfl, ha, htail⟩ := ih hm
        rcases htail with ⟨rfl, rfl⟩ | htail
        · refine ⟨gap, s ++ (gap' ++ ',' :: after), ?_, hg, Or.inr (.comma hitem hg' ha)⟩
          simp only [List.append_assoc, List.cons_append, List.nil_append]
        · refine ⟨gap, s ++ (gap' ++ ',' :: (after ++ tail)), ?_, hg,
            Or.inr (.cons hitem hg' ha htail)⟩
          simp only [List.append_assoc, List.cons_append]

end Items

/-! ## 5. Tables between braces -/

section Members

variable {value : Text → Option (Value × Text)} {IsItem : Text → Value → Prop} {count : Nat}
  {s t u blanks rest : Text} {members : List (Key × Value)} {member : Key × Value}

theorem endsKey_cons {c : Char} (hb : isBlank c = false) (hd : c ≠ '.') (hk : isKeyChar c = false)
    (rest : Text) : EndsKey (c :: rest) :=
  forall_head_cons ⟨hb, hd, hk⟩

/-- An assignment is read. -/
theorem assignment?_append (hv : ReadsValues value IsItem)
    (h : IsAssignment maxKeyParts IsItem s member) (hb : IsBlanks blanks) (hr : EndsValue rest) :
    assignment? value (blanks ++ (s ++ rest)) = some (member, rest) := by
  cases h with
  | @mk t between u key v hk hb' hi =>
    obtain ⟨c, w, hcw, hc⟩ := hv.starts hi
    have htext : blanks ++ (t ++ '=' :: (between ++ u) ++ rest) =
        blanks ++ (t ++ '=' :: (between ++ (u ++ rest))) := by
      simp only [List.append_assoc, List.cons_append]
    have hkey : key? (blanks ++ (t ++ '=' :: (between ++ (u ++ rest)))) = some (key, _) :=
      key?_append hk hb (endsKey_cons rfl (by decide) rfl _)
    have hskip : skipBlank (between ++ (u ++ rest)) = u ++ rest := by
      rw [skipBlank_append hb', skipBlank_of_head]
      rw [hcw]
      exact forall_head_cons hc.isSolid.1
    unfold assignment?
    rw [htext, hkey]
    show (value (skipBlank (between ++ (u ++ rest)))).map _ = _
    rw [hskip, hv.append hi hr]
    rfl

/-- And nothing else is read as one. -/
theorem exists_of_assignment? (hv : ReadsValues value IsItem)
    (h : assignment? value t = some (member, rest)) :
    ∃ blanks s, t = blanks ++ (s ++ rest) ∧ IsBlanks blanks ∧
      IsAssignment maxKeyParts IsItem s member := by
  unfold assignment? at h
  split at h
  · rename_i key u hk
    obtain ⟨⟨v, rest'⟩, hread, he⟩ := Option.map_eq_some_iff.mp h
    cases he
    obtain ⟨blanks, s, rfl, hb, hs⟩ := exists_of_key? hk
    obtain ⟨between, hu, hb', -⟩ := exists_blanks u
    obtain ⟨w, hw, hi⟩ := hv.exists_of hread
    refine ⟨blanks, s ++ '=' :: (between ++ w), ?_, hb, .mk hs hb' hi⟩
    rw [hu, hw]
    simp only [List.append_assoc, List.cons_append]
  · cases h

theorem members?_close (hm : assignment? value t = some (member, u))
    (hu : skipBlank u = '\x7d' :: rest) :
    members? value (count + 1) t = some ([member], rest) := by
  rw [members?]
  simp only [hm, hu]

theorem members?_comma (hm : assignment? value t = some (member, u))
    (hu : skipBlank u = ',' :: rest) :
    members? value (count + 1) t =
      (members? value count rest).map fun x => (member :: x.1, x.2) := by
  rw [members?]
  simp only [hm, hu]

theorem members?_cases (h : members? value (count + 1) t = some (members, rest)) :
    ∃ member u, assignment? value t = some (member, u) ∧
      ((skipBlank u = '\x7d' :: rest ∧ members = [member]) ∨
        ∃ w more, skipBlank u = ',' :: w ∧ members? value count w = some (more, rest) ∧
          members = member :: more) := by
  rw [members?] at h
  split at h
  · cases h
  · rename_i member u hm
    refine ⟨member, u, hm, ?_⟩
    split at h
    · rename_i w hw
      obtain ⟨⟨more, rest'⟩, hmore, he⟩ := Option.map_eq_some_iff.mp h
      cases he
      exact Or.inr ⟨w, more, hw, hmore, rfl⟩
    · rename_i w hw
      cases h
      exact Or.inl ⟨hw, rfl⟩
    · cases h

/-- **The members of a table are read**, in front of its brace. -/
theorem members?_append (hv : ReadsValues value IsItem) (h : IsMembers maxKeyParts IsItem s members)
    (hb : IsBlanks blanks) (hcount : s.length < count) :
    members? value count (blanks ++ (s ++ '\x7d' :: rest)) = some (members, rest) := by
  have hbrace : '\x7d' ∈ valueEnds := by decide
  have hcomma : ',' ∈ valueEnds := by decide
  induction h generalizing blanks count with
  | @last s after member hm ha =>
    obtain ⟨count, rfl⟩ := Nat.exists_eq_succ_of_ne_zero (Nat.ne_zero_of_lt hcount)
    rw [List.append_assoc,
      members?_close (assignment?_append hv hm hb (endsValue_blanks ha hbrace rfl rest))]
    rw [skipBlank_append ha, skipBlank_of_head (forall_head_cons rfl)]
  | @cons s before after more member members hm hb' ha hr ih =>
    obtain ⟨count, rfl⟩ := Nat.exists_eq_succ_of_ne_zero (Nat.ne_zero_of_lt hcount)
    have htext : blanks ++ (s ++ (before ++ ',' :: (after ++ more)) ++ '\x7d' :: rest) =
        blanks ++ (s ++ (before ++ ',' :: (after ++ (more ++ '\x7d' :: rest)))) := by
      simp only [List.append_assoc, List.cons_append]
    have hend := endsValue_blanks hb' hcomma rfl (after ++ (more ++ '\x7d' :: rest))
    have hlt : more.length < count := by
      simp only [List.length_append, List.length_cons] at hcount
      omega
    rw [htext, members?_comma (assignment?_append hv hm hb hend), ih ha hlt]
    · rfl
    · rw [skipBlank_append hb', skipBlank_of_head (forall_head_cons rfl)]

/-- **And nothing else is read as members.** -/
theorem exists_of_members? (hv : ReadsValues value IsItem)
    (h : members? value count t = some (members, rest)) :
    ∃ blanks s, t = blanks ++ (s ++ '\x7d' :: rest) ∧ IsBlanks blanks ∧
      IsMembers maxKeyParts IsItem s members := by
  induction count generalizing t members with
  | zero => cases h
  | succ count ih =>
    obtain ⟨member, u, hm, hu⟩ := members?_cases h
    obtain ⟨blanks, s, rfl, hb, hs⟩ := exists_of_assignment? hv hm
    obtain ⟨before, hbefore, hb', -⟩ := exists_blanks u
    rcases hu with ⟨hclose, rfl⟩ | ⟨w, more, hcomma, hmore, rfl⟩
    · refine ⟨blanks, s ++ before, ?_, hb, .last hs hb'⟩
      rw [hbefore, hclose, List.append_assoc]
    · obtain ⟨after, tail, rfl, ha, htail⟩ := ih hmore
      refine ⟨blanks, s ++ (before ++ ',' :: (after ++ tail)), ?_, hb, .cons hs hb' ha htail⟩
      rw [hbefore, hcomma]
      simp only [List.append_assoc, List.cons_append]

theorem startsKey_of_isMembers (h : IsMembers maxKeyParts IsItem s members) :
    ∃ c u, s = c :: u ∧ StartsKey c := by
  have hstarts : ∀ {s : Text} {member}, IsAssignment maxKeyParts IsItem s member →
      ∃ c u, s = c :: u ∧ StartsKey c := by
    intro s member h
    cases h with
    | mk hk =>
      obtain ⟨c, u, rfl, hc⟩ := startsKey_of_isWholeKey hk
      exact ⟨c, _, rfl, hc⟩
  cases h with
  | last h =>
    obtain ⟨c, u, rfl, hc⟩ := hstarts h
    exact ⟨c, _, rfl, hc⟩
  | cons h =>
    obtain ⟨c, u, rfl, hc⟩ := hstarts h
    exact ⟨c, _, rfl, hc⟩

theorem inlineTable?_empty (hb : IsBlanks blanks) :
    inlineTable? value (blanks ++ '\x7d' :: rest) = some (.table .inline [], rest) := by
  unfold inlineTable?
  rw [skipBlank_append hb, skipBlank_of_head (forall_head_cons rfl)]
  rfl

/-- **A table between braces is read.** -/
theorem inlineTable?_append {entries : Entries} (hv : ReadsValues value IsItem)
    (hb : IsBlanks blanks)
    (hm : IsMembers maxKeyParts IsItem s members) (he : assignAll [] members = some entries) :
    inlineTable? value (blanks ++ (s ++ '\x7d' :: rest)) = some (.table .inline entries, rest) := by
  obtain ⟨c, u, hcu, hc⟩ := startsKey_of_isMembers hm
  have hskip : skipBlank (blanks ++ (s ++ '\x7d' :: rest)) = s ++ '\x7d' :: rest := by
    rw [skipBlank_append hb, skipBlank_of_head]
    rw [hcu]
    exact forall_head_cons hc.isBlank_eq
  have hread : members? value ((s ++ '\x7d' :: rest).length + 1) (s ++ '\x7d' :: rest) =
      some (members, rest) := by
    refine members?_append hv hm isBlanks_nil ?_
    rw [List.length_append]
    omega
  unfold inlineTable?
  rw [hskip]
  split
  · rename_i h
    rw [hcu] at h
    exact absurd (List.cons.inj h).1 (hc.ne rfl (by decide) (by decide))
  · rw [hread]
    simp only [he, Option.map_some]

end Members

/-! ## 6. Values up to a depth -/

section Nested

variable {depth : Nat} {t s rest : Text} {v : Value} {IsItem : Text → Value → Prop}

theorem value?_bracket (depth : Nat) (t : Text) : value? (depth + 1) ('[' :: t) =
    (items? (value? depth) (t.length + 1) t).map fun x => (.array x.1, x.2) := by
  rw [value?]

theorem value?_brace (depth : Nat) (t : Text) :
    value? (depth + 1) ('\x7b' :: t) = inlineTable? (value? depth) t := by
  rw [value?]

/-- What is read behind a brace is a table of the grammar. -/
theorem exists_of_inlineTable? {value : Text → Option (Value × Text)}
    (hv : ReadsValues value IsItem) (h : inlineTable? value t = some (v, rest)) :
    ∃ s, '\x7b' :: t = s ++ rest ∧ IsNested maxKeyParts IsItem s v := by
  obtain ⟨blanks, ht, hb, -⟩ := exists_blanks t
  unfold inlineTable? at h
  split at h
  · rename_i hskip
    cases h
    refine ⟨'\x7b' :: (blanks ++ ['\x7d']), ?_, .emptyTable hb⟩
    rw [ht, hskip]
    simp only [List.append_assoc, List.cons_append, List.nil_append]
  · split at h
    · cases h
    · rename_i members rest' hm
      obtain ⟨entries, he, heq⟩ := Option.map_eq_some_iff.mp h
      cases heq
      obtain ⟨before, s, hs, hb', hmembers⟩ := exists_of_members? hv hm
      refine ⟨'\x7b' :: ((blanks ++ before) ++ (s ++ ['\x7d'])), ?_,
        .table (isBlanks_append hb hb') hmembers (assignAll_eq_some_iff.mp he)⟩
      rw [ht, hs]
      simp only [List.append_assoc, List.cons_append, List.nil_append]

/-- What is read behind a bracket is an array of the grammar. -/
theorem exists_of_items {value : Text → Option (Value × Text)} {count : Nat} {items : List Value}
    (hv : ReadsValues value IsItem) (h : items? value count t = some (items, rest)) :
    ∃ s, '[' :: t = s ++ rest ∧ IsNested maxKeyParts IsItem s (.array items) := by
  obtain ⟨gap, s, rfl, hg, hs⟩ := exists_of_items? hv h
  rcases hs with ⟨rfl, rfl⟩ | hs
  · refine ⟨'[' :: (gap ++ [']']), ?_, .emptyArray hg⟩
    simp only [List.append_assoc, List.cons_append, List.nil_append]
  · refine ⟨'[' :: (gap ++ (s ++ [']'])), ?_, .array hg hs⟩
    simp only [List.append_assoc, List.cons_append, List.nil_append]

theorem value?_append_of_isNested
    (hv : ReadsValues (value? depth) IsItem) (h : IsNested maxKeyParts IsItem s v)
    (hr : EndsValue rest) : value? (depth + 1) (s ++ rest) = some (v, rest) := by
  have hbracket : IsSolid ']' := ⟨rfl, by decide, by decide⟩
  cases h with
  | scalar h =>
    obtain ⟨c, u, hcu, hc⟩ := startsScalar_of_isScalar h
    have hne : ∀ {d : Char}, isWordChar d = false → d ≠ '"' → d ≠ '\'' →
        (s ++ rest).head? ≠ some d := by
      intro d hw hq ha hd
      rw [hcu] at hd
      cases hd
      rcases hc with hc | hc | hc
      · rw [hw] at hc
        cases hc
      · exact hq hc
      · exact ha hc
    rw [value?_eq_scalar? (Or.inr (hne rfl (by decide) (by decide)))
      (Or.inr (hne rfl (by decide) (by decide)))]
    exact readsValues_scalar?.append h hr
  | @emptyArray gap hg =>
    have hend : skipGap false (gap ++ ']' :: rest) = ']' :: rest := by
      rw [skipGap_append hg, skipGap_of_isSolid hbracket]
    rw [List.cons_append, List.append_assoc, value?_bracket]
    show (items? _ _ (gap ++ ']' :: rest)).map _ = _
    rw [items?_end hend]
    rfl
  | @array gap t items hg hi =>
    rw [List.cons_append, List.append_assoc, List.append_assoc, value?_bracket]
    show (items? _ _ (gap ++ (t ++ ']' :: rest))).map _ = _
    rw [items?_append hv hi hg]
    · rfl
    · simp only [List.length_append]
      omega
  | emptyTable hb =>
    rw [List.cons_append, List.append_assoc, value?_brace]
    exact inlineTable?_empty hb
  | table hb hm ha =>
    rw [List.cons_append, List.append_assoc, List.append_assoc, value?_brace]
    exact inlineTable?_append hv hb hm (assignAll_eq_some_iff.mpr ha)

theorem exists_isNested_of_value? (hv : ReadsValues (value? depth) IsItem)
    (h : value? (depth + 1) t = some (v, rest)) :
    ∃ s, t = s ++ rest ∧ IsNested maxKeyParts IsItem s v := by
  by_cases hb : t.head? = some '['
  · obtain ⟨u, rfl⟩ := List.head?_eq_some_iff.mp hb
    rw [value?_bracket] at h
    obtain ⟨⟨items, rest'⟩, hi, he⟩ := Option.map_eq_some_iff.mp h
    cases he
    exact exists_of_items hv hi
  by_cases hbr : t.head? = some '\x7b'
  · obtain ⟨u, rfl⟩ := List.head?_eq_some_iff.mp hbr
    rw [value?_brace] at h
    exact exists_of_inlineTable? hv h
  rw [value?_eq_scalar? (Or.inr hb) (Or.inr hbr)] at h
  obtain ⟨s, ht, hs⟩ := readsValues_scalar?.exists_of h
  exact ⟨s, ht, .scalar hs⟩

theorem startsValue_of_isNested (h : IsNested maxKeyParts IsItem s v) :
    ∃ c u, s = c :: u ∧ StartsValue c := by
  cases h with
  | scalar h =>
    obtain ⟨c, u, rfl, hc⟩ := startsScalar_of_isScalar h
    exact ⟨c, u, rfl, Or.inl hc⟩
  | emptyArray => exact ⟨_, _, rfl, Or.inr (Or.inl rfl)⟩
  | array => exact ⟨_, _, rfl, Or.inr (Or.inl rfl)⟩
  | emptyTable => exact ⟨_, _, rfl, Or.inr (Or.inr rfl)⟩
  | table => exact ⟨_, _, rfl, Or.inr (Or.inr rfl)⟩

/-- **Each value of the grammar is read, and nothing else is read as a value**, for each depth. -/
theorem readsValues_value? (depth : Nat) :
    ReadsValues (value? depth) (IsValue maxKeyParts depth) := by
  induction depth with
  | zero =>
    have hscalar : value? 0 = scalar? := funext fun _ => value?_eq_scalar? (Or.inl rfl) (Or.inl rfl)
    rw [hscalar]
    exact readsValues_scalar?
  | succ depth ih =>
    exact ⟨fun h _ hr => value?_append_of_isNested ih h hr, fun h => exists_isNested_of_value? ih h,
      fun h => startsValue_of_isNested h⟩

end Nested

end LookupLog.Toml
