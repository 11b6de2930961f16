import LookupLog.Proofs.Toml.Values

/-!
# Documents of TOML

The statements of each document of the grammar are read, and nothing else is read as statements.

* `isBody_iff`: bodies and their statements;
* `document?_eq_some_iff`: documents and their top-level entries.
-/

namespace LookupLog.Toml

open Text TomlGrammar

/-! ## 1. Statements -/

/-- Begins a statement. -/
def StartsStatement (c : Char) : Prop :=
  StartsKey c ∨ c = '['

section Statements

variable {s t u before rest : Text} {st : Statement} {c : Char}

theorem StartsStatement.ne {d : Char} (hc : StartsStatement c) (hk : isKeyChar d = false)
    (hd : d ∉ ['"', '\'', '[']) : c ≠ d := by
  simp only [List.mem_cons, List.not_mem_nil, or_false, not_or] at hd
  rcases hc with hc | rfl
  · exact hc.ne hk hd.1 hd.2.1
  · exact Ne.symm hd.2.2

theorem StartsStatement.isSolid (hc : StartsStatement c) : IsSolid c := by
  refine ⟨?_, hc.ne rfl (by decide), hc.ne rfl (by decide)⟩
  rcases hc with hc | rfl
  · exact hc.isBlank_eq
  · rfl

theorem startsStatement_of_isStatement (h : IsStatement maxKeyParts maxDepth s st) :
    ∃ c u, s = c :: u ∧ StartsStatement c := by
  cases h with
  | assign h =>
    cases h with
    | mk hk =>
      obtain ⟨c, u, rfl, hc⟩ := startsKey_of_isWholeKey hk
      exact ⟨c, _, rfl, Or.inl hc⟩
  | table => exact ⟨_, _, rfl, Or.inr rfl⟩
  | element => exact ⟨_, _, rfl, Or.inr rfl⟩

theorem isWordChar_of_isKeyChar (h : isKeyChar c = true) : isWordChar c = true := by
  unfold isKeyChar at h
  unfold isWordChar
  rw [Bool.or_eq_true, Bool.or_eq_true] at h
  simp only [Bool.or_eq_true]
  tauto

theorem StartsStatement.isPlain_eq (hc : StartsStatement c) : isPlain c = true := by
  rcases hc with (hc | rfl | rfl) | rfl
  · exact isPlain_of_isWordChar (isWordChar_of_isKeyChar hc)
  all_goals rfl

theorem isPlain_of_isBlank (h : isBlank c = true) : isPlain c = true := by
  rcases of_decide_eq_true h with rfl | rfl
  · rfl
  · rfl

theorem statement?_of_head (h : t.head? ≠ some '[') : statement? t =
    (assignment? (value? maxDepth) t).map fun x => (.assign x.1.1 x.1.2, x.2) := by
  unfold statement?
  split
  · exact absurd rfl h
  · exact absurd rfl h
  · rfl

theorem statement?_element {key : Key} (h : key? t = some (key, ']' :: ']' :: rest)) :
    statement? ('[' :: '[' :: t) = some (.header (.element key), rest) := by
  unfold statement?
  simp only [h]

theorem statement?_table {key : Key} (hhead : t.head? ≠ some '[')
    (h : key? t = some (key, ']' :: rest)) :
    statement? ('[' :: t) = some (.header (.table key), rest) := by
  unfold statement?
  split
  · rename_i u hu
    obtain ⟨-, rfl⟩ := List.cons.inj hu
    exact absurd rfl hhead
  · rename_i u _ hu
    obtain ⟨-, rfl⟩ := List.cons.inj hu
    simp only [h]
  · rename_i _ hne
    exact absurd rfl (hne t)

/-- What is read as a header. -/
theorem statement?_cases (h : statement? ('[' :: t) = some (st, rest)) :
    (∃ u key, t = '[' :: u ∧ key? u = some (key, ']' :: ']' :: rest) ∧
        st = .header (.element key)) ∨
      ∃ key, key? t = some (key, ']' :: rest) ∧ st = .header (.table key) := by
  unfold statement? at h
  split at h
  · rename_i u hu
    obtain ⟨-, rfl⟩ := List.cons.inj hu
    split at h
    · rename_i key rest' hk
      cases h
      exact Or.inl ⟨u, key, rfl, hk, rfl⟩
    · cases h
  · rename_i u _ hu
    obtain ⟨-, rfl⟩ := List.cons.inj hu
    split at h
    · rename_i key rest' hk
      cases h
      exact Or.inr ⟨key, hk, rfl⟩
    · cases h
  · rename_i _ hne
    exact absurd rfl (hne t)

/-- **A statement is read**, where its value can end. -/
theorem statement?_append (h : IsStatement maxKeyParts maxDepth s st) (hr : EndsValue rest) :
    statement? (s ++ rest) = some (st, rest) := by
  have hend : ∀ t, EndsKey (']' :: t) := endsKey_cons rfl (by decide) rfl
  cases h with
  | @assign _ key value h =>
    have hhead : (s ++ rest).head? ≠ some '[' := by
      cases h with
      | mk hk =>
        obtain ⟨c, u, rfl, hc⟩ := startsKey_of_isWholeKey hk
        exact fun h => hc.ne rfl (by decide) (by decide) (Option.some.inj h)
    have hread := assignment?_append (readsValues_value? maxDepth) h isBlanks_nil hr
    rw [statement?_of_head hhead]
    rw [List.nil_append] at hread
    rw [hread]
    rfl
  | @table blanks t key hb hk =>
    have htext : '[' :: (blanks ++ (t ++ [']'])) ++ rest =
        '[' :: (blanks ++ (t ++ ']' :: rest)) := by
      simp only [List.cons_append, List.append_assoc, List.nil_append]
    have hhead : (blanks ++ (t ++ ']' :: rest)).head? ≠ some '[' := by
      obtain ⟨c, u, rfl, hc⟩ := startsKey_of_isWholeKey hk
      intro h
      refine forall_head_append (P := (· ≠ '[')) hb ?_ ?_ _ h rfl
      · intro d hd he
        subst he
        cases hd
      · exact forall_head_cons (hc.ne rfl (by decide) (by decide))
    rw [htext, statement?_table hhead (key?_append hk hb (hend rest))]
  | @element blanks t key hb hk =>
    have htext : '[' :: '[' :: (blanks ++ (t ++ [']', ']'])) ++ rest =
        '[' :: '[' :: (blanks ++ (t ++ ']' :: ']' :: rest)) := by
      simp only [List.cons_append, List.append_assoc, List.nil_append]
    rw [htext, statement?_element (key?_append hk hb (hend (']' :: rest)))]

/-- **And nothing else is read as one.** -/
theorem exists_of_statement? (h : statement? t = some (st, rest)) :
    ∃ blanks s, t = blanks ++ (s ++ rest) ∧ IsBlanks blanks ∧
      IsStatement maxKeyParts maxDepth s st := by
  by_cases hb : t.head? = some '['
  · obtain ⟨u, rfl⟩ := List.head?_eq_some_iff.mp hb
    rcases statement?_cases h with ⟨v, key, rfl, hk, rfl⟩ | ⟨key, hk, rfl⟩
    · obtain ⟨blanks, s, rfl, hb, hs⟩ := exists_of_key? hk
      refine ⟨[], _, ?_, isBlanks_nil, .element hb hs⟩
      simp only [List.cons_append, List.append_assoc, List.nil_append]
    · obtain ⟨blanks, s, rfl, hb, hs⟩ := exists_of_key? hk
      refine ⟨[], _, ?_, isBlanks_nil, .table hb hs⟩
      simp only [List.cons_append, List.append_assoc, List.nil_append]
  · rw [statement?_of_head hb] at h
    obtain ⟨⟨⟨key, value⟩, rest'⟩, ha, he⟩ := Option.map_eq_some_iff.mp h
    cases he
    obtain ⟨blanks, s, ht, hb, hs⟩ := exists_of_assignment? (readsValues_value? maxDepth) ha
    exact ⟨blanks, s, ht, hb, .assign hs⟩

end Statements

/-! ## 2. Bodies -/

section Bodies

variable {s t u gap blanks before after remark rest : Text} {st : Statement} {count : Nat}
  {statements : List Statement}

theorem statements?_gap (hg : IsGap gap) (t : Text) :
    statements? count (gap ++ t) = statements? count t := by
  cases count with
  | zero => rfl
  | succ count =>
    unfold statements?
    rw [skipGap_append hg]

theorem statements?_nil (h : skipGap false t = []) : statements? (count + 1) t = some [] := by
  unfold statements?
  rw [h]

theorem endsValue_of_endsLine (h : endsLine (skipBlank u) = true) : EndsValue u := by
  intro c hc
  cases hs : skipBlank u with
  | nil =>
    rw [hs] at hc
    cases hc
  | cons d v =>
    rw [hs] at hc h
    cases hc
    rcases of_decide_eq_true h with rfl | rfl
    · exact List.mem_cons_self
    · exact List.mem_cons_of_mem _ List.mem_cons_self

theorem endsLine_remark (hr : IsRemark remark) : endsLine remark = true := by
  cases hr with
  | none => rfl
  | some => rfl

theorem endsLine_remark_lineFeed (hr : IsRemark remark) (t : Text) :
    endsLine (remark ++ '\n' :: t) = true := by
  cases hr with
  | none => rfl
  | some => rfl

theorem skipBlank_of_endsLine (h : endsLine t = true) : skipBlank t = t := by
  cases t with
  | nil => rfl
  | cons c t =>
    refine skipBlank_of_head (forall_head_cons ?_)
    rcases of_decide_eq_true h with rfl | rfl
    · rfl
    · rfl

/-- A statement is the first one of what it stands in front of. -/
theorem statements?_statement (hb : IsBlanks before) (hs : IsStatement maxKeyParts maxDepth s st)
    (hu : endsLine (skipBlank u) = true) :
    statements? (count + 1) (before ++ (s ++ u)) = (statements? count u).map (st :: ·) := by
  obtain ⟨c, w, hcw, hc⟩ := startsStatement_of_isStatement hs
  have hread := statement?_append hs (endsValue_of_endsLine hu)
  have hskip : skipGap false (before ++ (s ++ u)) = c :: (w ++ u) := by
    rw [skipGap_blanks hb, hcw]
    exact skipGap_of_isSolid hc.isSolid _
  have hcs : c :: (w ++ u) = s ++ u := by
    rw [hcw]
    rfl
  rw [statements?, hskip]
  simp only [hcs, hread, hu, if_true]

/-- **The statements of a body are read.** -/
theorem statements?_of_isBody (h : IsBody maxKeyParts maxDepth t statements)
    (hcount : t.length < count) : statements? count t = some statements := by
  -- a blank line is a gap and takes no step; a statement takes one and at least one character
  induction h generalizing count with
  | @last t s hl =>
    cases hl with
    | blank hb hr =>
      obtain ⟨count, rfl⟩ := Nat.exists_eq_succ_of_ne_zero (Nat.ne_zero_of_lt hcount)
      refine statements?_nil ?_
      rw [skipGap_blanks hb, skipGap_remark_end hr]
    | @statement before t after remark st hb hs ha hr =>
      obtain ⟨c, w, hcw, -⟩ := startsStatement_of_isStatement hs
      obtain ⟨count, rfl⟩ : ∃ n, count = n + 2 := by
        rw [hcw] at hcount
        refine ⟨count - 2, ?_⟩
        simp only [List.length_append, List.length_cons] at hcount
        omega
      have hend : endsLine (skipBlank (after ++ remark)) = true := by
        have hl := endsLine_remark hr
        rw [skipBlank_append ha, skipBlank_of_endsLine hl, hl]
      have hrest : skipGap false (after ++ remark) = [] := by
        rw [skipGap_blanks ha, skipGap_remark_end hr]
      rw [statements?_statement hb hs hend, statements?_nil hrest]
      rfl
  | @cons t rest s statements hl hbody ih =>
    cases hl with
    | @blank blanks remark hb hr =>
      have hgap : IsGap (blanks ++ (remark ++ ['\n'])) := .line hb hr isGap_nil
      have htext : blanks ++ remark ++ '\n' :: rest = (blanks ++ (remark ++ ['\n'])) ++ rest := by
        simp only [List.append_assoc, List.cons_append, List.nil_append]
      rw [htext, statements?_gap hgap]
      refine ih ?_
      simp only [List.length_append, List.length_cons] at hcount
      omega
    | @statement before t after remark st hb hs ha hr =>
      obtain ⟨count, rfl⟩ := Nat.exists_eq_succ_of_ne_zero (Nat.ne_zero_of_lt hcount)
      have hgap : IsGap (after ++ (remark ++ ['\n'])) := .line ha hr isGap_nil
      have hend : endsLine (skipBlank (after ++ (remark ++ '\n' :: rest))) = true := by
        have hl := endsLine_remark_lineFeed hr rest
        rw [skipBlank_append ha, skipBlank_of_endsLine hl, hl]
      have htext : before ++ (t ++ (after ++ remark)) ++ '\n' :: rest =
          before ++ (t ++ (after ++ (remark ++ '\n' :: rest))) := by
        simp only [List.append_assoc]
      have hrest : after ++ (remark ++ '\n' :: rest) = (after ++ (remark ++ ['\n'])) ++ rest := by
        simp only [List.append_assoc, List.cons_append, List.nil_append]
      have hlt : rest.length < count := by
        simp only [List.length_append, List.length_cons] at hcount
        omega
      rw [htext, statements?_statement hb hs hend, hrest, statements?_gap hgap, ih hlt]
      rfl

/-- Blanks may stand in front of a body. -/
theorem isBody_blanks (hb : IsBlanks blanks) (h : IsBody maxKeyParts maxDepth t statements) :
    IsBody maxKeyParts maxDepth (blanks ++ t) statements := by
  have hline : ∀ {t s}, IsLine maxKeyParts maxDepth t s →
      IsLine maxKeyParts maxDepth (blanks ++ t) s := by
    intro t s hl
    cases hl with
    | blank hb' hr =>
      rw [← List.append_assoc]
      exact .blank (isBlanks_append hb hb') hr
    | statement hb' hs ha hr =>
      rw [← List.append_assoc]
      exact .statement (isBlanks_append hb hb') hs ha hr
  cases h with
  | last hl => exact .last (hline hl)
  | cons hl hr =>
    rw [← List.append_assoc]
    exact .cons (hline hl) hr

/-- A gap, too. -/
theorem isBody_gap (hg : IsGap gap) (h : IsBody maxKeyParts maxDepth t statements) :
    IsBody maxKeyParts maxDepth (gap ++ t) statements := by
  induction hg with
  | blanks hb => exact isBody_blanks hb h
  | @line blanks remark gap hb hr _ ih =>
    have htext : blanks ++ (remark ++ '\n' :: gap) ++ t =
        (blanks ++ remark) ++ '\n' :: (gap ++ t) := by
      simp only [List.append_assoc, List.cons_append]
    rw [htext]
    exact .cons (.blank hb hr) ih

/-- What is skipped to the end is a body without statements, behind the beginning of a comment, too.
    -/
theorem isBody_of_skipGap (t : Text) :
    (skipGap false t = [] → IsBody maxKeyParts maxDepth t []) ∧
      (skipGap true t = [] → ∀ comment : Text, (∀ c ∈ comment, isPlain c = true) →
        IsBody maxKeyParts maxDepth ('#' :: (comment ++ t)) []) := by
  have hremark : ∀ {remark t}, IsRemark remark → IsBody maxKeyParts maxDepth t [] →
      IsBody maxKeyParts maxDepth (remark ++ '\n' :: t) [] :=
    fun hr h => .cons (.blank isBlanks_nil hr) h
  have hlast : ∀ {remark}, IsRemark remark → IsBody maxKeyParts maxDepth remark [] :=
    fun hr => .last (.blank isBlanks_nil hr)
  induction t with
  | nil =>
    refine ⟨fun _ => hlast .none, fun _ comment hc => ?_⟩
    rw [List.append_nil]
    exact hlast (.some hc)
  | cons c t ih =>
    obtain ⟨ihGap, ihComment⟩ := ih
    by_cases hn : c = '\n'
    · subst hn
      rw [skipGap_lineFeed, skipGap_lineFeed]
      exact ⟨fun h => hremark .none (ihGap h), fun h _ hc => hremark (.some hc) (ihGap h)⟩
    · refine ⟨fun h => ?_, fun h comment hc => ?_⟩
      · by_cases hb : isBlank c = true
        · rw [skipGap_blank hb] at h
          exact isBody_blanks (List.forall_mem_singleton.mpr hb) (ihGap h)
        · by_cases hh : c = '#'
          · subst hh
            rw [skipGap_hash] at h
            exact ihComment h [] nofun
          · rw [skipGap_of_isSolid ⟨Bool.not_eq_true _ ▸ hb, hn, hh⟩] at h
            cases h
      · rw [skipGap, if_neg hn, if_pos rfl] at h
        by_cases hp : isPlain c = true
        · rw [if_pos hp] at h
          have hmore := ihComment h (comment ++ [c])
            (List.forall_mem_append.mpr ⟨hc, List.forall_mem_singleton.mpr hp⟩)
          rw [List.append_assoc] at hmore
          exact hmore
        · rw [if_neg hp] at h
          cases h

/-- A body of which the first line is blank. -/
theorem isBody_cases (h : IsBody maxKeyParts maxDepth u statements)
    (hu : endsLine (skipBlank u) = true) : ∃ blanks remark, IsBlanks blanks ∧ IsRemark remark ∧
      ((u = blanks ++ remark ∧ statements = []) ∨ ∃ rest, u = blanks ++ (remark ++ '\n' :: rest) ∧
        IsBody maxKeyParts maxDepth rest statements) := by
  have hstatement : ∀ {before t st rest}, IsBlanks before → IsStatement maxKeyParts maxDepth t st →
      endsLine (skipBlank (before ++ (t ++ rest))) ≠ true := by
    intro before t st rest hb hs hend
    obtain ⟨c, w, rfl, hc⟩ := startsStatement_of_isStatement hs
    have hskip : skipBlank (before ++ (c :: w ++ rest)) = c :: (w ++ rest) := by
      rw [skipBlank_append hb]
      exact skipBlank_of_head (forall_head_cons hc.isSolid.1)
    rw [hskip] at hend
    rcases of_decide_eq_true hend with h | h
    · exact hc.isSolid.2.1 h
    · exact hc.isSolid.2.2 h
  cases h with
  | last hl =>
    cases hl with
    | blank hb hr => exact ⟨_, _, hb, hr, Or.inl ⟨rfl, rfl⟩⟩
    | statement hb hs => exact absurd hu (hstatement hb hs)
  | @cons t rest s more hl hr =>
    cases hl with
    | @blank blanks remark hb hr' =>
      refine ⟨blanks, remark, hb, hr', Or.inr ⟨rest, ?_, hr⟩⟩
      rw [List.append_assoc]
    | statement hb hs =>
      rw [List.append_assoc, List.append_assoc] at hu
      exact absurd hu (hstatement hb hs)

/-- A statement in front of a body, with nothing behind it on its line. -/
theorem isBody_statement (hb : IsBlanks before) (hs : IsStatement maxKeyParts maxDepth s st)
    (h : IsBody maxKeyParts maxDepth u statements) (hu : endsLine (skipBlank u) = true) :
    IsBody maxKeyParts maxDepth (before ++ (s ++ u)) (st :: statements) := by
  obtain ⟨after, remark, ha, hr, hu⟩ := isBody_cases h hu
  rcases hu with ⟨rfl, rfl⟩ | ⟨rest, rfl, hrest⟩
  · exact .last (.statement hb hs ha hr)
  · have htext : before ++ (s ++ (after ++ (remark ++ '\n' :: rest))) =
        (before ++ (s ++ (after ++ remark))) ++ '\n' :: rest := by
      simp only [List.append_assoc]
    rw [htext]
    exact .cons (.statement hb hs ha hr) hrest

/-- **And nothing else is read as statements.** -/
theorem isBody_of_statements? (h : statements? count t = some statements) :
    IsBody maxKeyParts maxDepth t statements := by
  induction count generalizing t statements with
  | zero => cases h
  | succ count ih =>
    rw [statements?] at h
    split at h
    · rename_i hskip
      cases h
      exact (isBody_of_skipGap t).1 hskip
    · split at h
      · cases h
      · rename_i st rest hs
        rw [Option.ite_none_right_eq_some] at h
        obtain ⟨hend, h⟩ := h
        obtain ⟨more, hm, he⟩ := Option.map_eq_some_iff.mp h
        subst he
        -- what is left behind the statement is a body, too: the rest of its line is the first line
        obtain ⟨blanks, s, ht, hb, hst⟩ := exists_of_statement? hs
        have hbody := isBody_statement hb hst (ih hm) hend
        rw [← ht] at hbody
        obtain ⟨c, u, hcu, hc⟩ : ∃ c u, skipGap false t = c :: u ∧ isPlain c = true := by
          obtain ⟨d, w, rfl, hd⟩ := startsStatement_of_isStatement hst
          cases blanks with
          | nil => exact ⟨d, _, ht, hd.isPlain_eq⟩
          | cons b blanks => exact ⟨b, _, ht, isPlain_of_isBlank (hb b List.mem_cons_self)⟩
        obtain ⟨-, gap, hg, htext⟩ := exists_gap hcu hc
        rw [htext, ← hcu]
        exact isBody_gap hg hbody

/-- **A body and its statements.** -/
theorem isBody_iff : IsBody maxKeyParts maxDepth t statements ↔
    statements? (t.length + 1) t = some statements :=
  ⟨fun h => statements?_of_isBody h (Nat.lt_succ_self _), isBody_of_statements?⟩

end Bodies

/-! ## 3. Documents -/

/-- A text is a document whose statements make these top-level entries, under limits for its keys
    and its values. -/
def HasEntries (maxParts maxDepth : Nat) (text : Text) (entries : Entries) : Prop :=
  ∃ statements, IsDocument maxParts maxDepth text statements ∧ Makes statements entries

/-- **A text is read as the entries that it has under the limits of the reader.** -/
theorem document?_eq_some_iff {text : Text} {entries : Entries} :
    document? text = some entries ↔ HasEntries maxKeyParts maxDepth text entries := by
  unfold HasEntries IsDocument
  simp only [isBody_iff, document?, ← entries?_eq_some_iff]
  cases statements? ((unifyBreaks (dropByteOrderMark text)).length + 1)
      (unifyBreaks (dropByteOrderMark text)) with
  | none => simp
  | some statements => simp

end LookupLog.Toml
