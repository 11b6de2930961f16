import LookupLog.Proofs.Toml.Strings
import Mathlib.Data.List.Basic

/-!
# Gaps and keys of TOML

* `skipGap_append`, `exists_gap`: gaps are skipped as they are in the grammar, unless a comment
  holds a control character;
* `key?_append`, `exists_of_key?`: each key of the grammar is read, and nothing else is read as one.
-/

namespace LookupLog.Toml

open TomlGrammar

/-! ## 1. Blanks -/

section Blanks

variable {blanks t rest : Text}

theorem skipBlank_append (hb : IsBlanks blanks) (rest : Text) :
    skipBlank (blanks ++ rest) = skipBlank rest :=
  List.dropWhile_append_of_pos hb

theorem skipBlank_of_head (h : ∀ c ∈ t.head?, isBlank c = false) : skipBlank t = t := by
  cases t with
  | nil => rfl
  | cons c t =>
    unfold skipBlank
    rw [List.dropWhile_cons_of_neg (by rw [h c rfl]; decide)]

/-- Blanks are skipped as far as they go. -/
theorem exists_blanks (t : Text) : ∃ blanks, t = blanks ++ skipBlank t ∧ IsBlanks blanks ∧
    ∀ c ∈ (skipBlank t).head?, isBlank c = false := by
  refine ⟨t.takeWhile isBlank, List.takeWhile_append_dropWhile.symm,
    fun c hc => List.mem_takeWhile_imp hc, fun c hc => ?_⟩
  have hd := List.head?_dropWhile_not isBlank t
  have hc : (t.dropWhile isBlank).head? = some c := hc
  rw [hc] at hd
  simpa using hd

theorem isBlank_of_ne {c : Char} (hs : c ≠ ' ') (ht : c ≠ '\t') : isBlank c = false := by
  unfold isBlank
  rw [decide_eq_false_iff_not]
  exact not_or.mpr ⟨hs, ht⟩

theorem isBlanks_nil : IsBlanks [] :=
  nofun

theorem isBlanks_append {more : Text} (hb : IsBlanks blanks) (hm : IsBlanks more) :
    IsBlanks (blanks ++ more) :=
  List.forall_mem_append.mpr ⟨hb, hm⟩

/-- What is true of blanks and of what follows them is true of what they begin with. -/
theorem forall_head_append {P : Char → Prop} (hb : IsBlanks blanks)
    (hP : ∀ c, isBlank c = true → P c)
    (hr : ∀ c ∈ rest.head?, P c) : ∀ c ∈ (blanks ++ rest).head?, P c := by
  cases blanks with
  | nil => exact hr
  | cons b blanks =>
    intro c hc
    cases hc
    exact hP b (hb b List.mem_cons_self)

theorem forall_head_cons {P : Char → Prop} {c : Char} (h : P c) : ∀ d ∈ (c :: t).head?, P d := by
  intro d hd
  cases hd
  exact h

end Blanks

/-! ## 2. Gaps -/

/-- Begins no gap. -/
def IsSolid (c : Char) : Prop :=
  isBlank c = false ∧ c ≠ '\n' ∧ c ≠ '#'

section Gaps

variable {blanks remark gap t rest : Text} {c : Char}

theorem skipGap_blank (h : isBlank c = true) (t : Text) :
    skipGap false (c :: t) = skipGap false t := by
  have hn : c ≠ '\n' := by
    intro hc
    subst hc
    cases h
  simp only [skipGap, hn, h, if_false, if_true, Bool.false_eq_true]

theorem skipGap_lineFeed (inComment : Bool) (t : Text) :
    skipGap inComment ('\n' :: t) = skipGap false t := by
  simp only [skipGap, if_true]

theorem skipGap_hash (t : Text) : skipGap false ('#' :: t) = skipGap true t := by
  have hb : isBlank '#' = false := rfl
  have hn : '#' ≠ '\n' := by decide
  simp only [skipGap, hn, hb, if_false, if_true, Bool.false_eq_true]

theorem skipGap_of_isSolid (h : IsSolid c) (t : Text) : skipGap false (c :: t) = c :: t := by
  obtain ⟨hb, hn, hh⟩ := h
  simp only [skipGap, hn, hb, hh, if_false, Bool.false_eq_true]

theorem skipGap_blanks (hb : IsBlanks blanks) (t : Text) :
    skipGap false (blanks ++ t) = skipGap false t := by
  induction blanks with
  | nil => rfl
  | cons c blanks ih =>
    obtain ⟨hc, hb⟩ := List.forall_mem_cons.mp hb
    rw [List.cons_append, skipGap_blank hc, ih hb]

theorem skipGap_comment (ht : ∀ c ∈ t, isPlain c = true) (rest : Text) :
    skipGap true (t ++ rest) = skipGap true rest := by
  induction t with
  | nil => rfl
  | cons c t ih =>
    obtain ⟨hc, ht⟩ := List.forall_mem_cons.mp ht
    have hn : c ≠ '\n' := by
      intro he
      subst he
      cases hc
    rw [List.cons_append, skipGap]
    simp only [hn, hc, if_false, if_true]
    exact ih ht

theorem skipGap_remark (hr : IsRemark remark) (t : Text) :
    skipGap false (remark ++ '\n' :: t) = skipGap false t := by
  cases hr with
  | none => exact skipGap_lineFeed false t
  | some h => rw [List.cons_append, skipGap_hash, skipGap_comment h, skipGap_lineFeed]

/-- **A gap is skipped.** -/
theorem skipGap_append (hg : IsGap gap) (t : Text) :
    skipGap false (gap ++ t) = skipGap false t := by
  induction hg with
  | blanks hb => exact skipGap_blanks hb t
  | line hb hr _ ih =>
    rw [List.append_assoc, skipGap_blanks hb, List.append_assoc, List.cons_append,
      skipGap_remark hr, ih]

/-- A remark at the end of a text is skipped. -/
theorem skipGap_remark_end (hr : IsRemark remark) : skipGap false remark = [] := by
  cases hr with
  | none => rfl
  | @some t h =>
    have hc := skipGap_comment h []
    rw [List.append_nil] at hc
    rw [skipGap_hash, hc, skipGap]

theorem isGap_nil : IsGap [] :=
  .blanks nofun

theorem isGap_blank (hc : isBlank c = true) (hg : IsGap gap) : IsGap (c :: gap) := by
  cases hg with
  | blanks hb => exact .blanks (List.forall_mem_cons.mpr ⟨hc, hb⟩)
  | @line blanks remark gap hb hr hg =>
    have h : IsGap ((c :: blanks) ++ (remark ++ '\n' :: gap)) :=
      .line (List.forall_mem_cons.mpr ⟨hc, hb⟩) hr hg
    exact h

theorem isGap_remark (hr : IsRemark remark) (hg : IsGap gap) : IsGap (remark ++ '\n' :: gap) :=
  IsGap.line isBlanks_nil hr hg

/-- **In front of a character that is no control character nothing but a gap is skipped.** -/
theorem exists_gap_or_comment {u : Text} (hc : isPlain c = true) (t : Text) :
    (skipGap false t = c :: u → IsSolid c ∧ ∃ gap, IsGap gap ∧ t = gap ++ c :: u) ∧
      (skipGap true t = c :: u → IsSolid c ∧ ∃ comment gap, (∀ d ∈ comment, isPlain d = true) ∧
        IsGap gap ∧ t = comment ++ '\n' :: (gap ++ c :: u)) := by
  -- both at once: a comment goes on as a gap, and a gap may go on as a comment
  induction t with
  | nil => exact ⟨fun h => (nomatch h), fun h => (nomatch h)⟩
  | cons d t ih =>
    obtain ⟨ihGap, ihComment⟩ := ih
    by_cases hn : d = '\n'
    · subst hn
      refine ⟨fun h => ?_, fun h => ?_⟩
      · rw [skipGap_lineFeed] at h
        obtain ⟨hs, gap, hg, rfl⟩ := ihGap h
        exact ⟨hs, _, isGap_remark .none hg, rfl⟩
      · rw [skipGap_lineFeed] at h
        obtain ⟨hs, gap, hg, rfl⟩ := ihGap h
        exact ⟨hs, [], gap, nofun, hg, rfl⟩
    · refine ⟨fun h => ?_, fun h => ?_⟩
      · by_cases hb : isBlank d = true
        · rw [skipGap_blank hb] at h
          obtain ⟨hs, gap, hg, rfl⟩ := ihGap h
          exact ⟨hs, d :: gap, isGap_blank hb hg, rfl⟩
        · by_cases hh : d = '#'
          · subst hh
            rw [skipGap_hash] at h
            obtain ⟨hs, comment, gap, hp, hg, rfl⟩ := ihComment h
            refine ⟨hs, '#' :: comment ++ '\n' :: gap, isGap_remark (.some hp) hg, ?_⟩
            simp only [List.cons_append, List.append_assoc]
          · have hsolid : IsSolid d := ⟨Bool.not_eq_true _ ▸ hb, hn, hh⟩
            rw [skipGap_of_isSolid hsolid] at h
            obtain ⟨rfl, rfl⟩ := List.cons.inj h
            exact ⟨hsolid, [], isGap_nil, rfl⟩
      · rw [skipGap, if_neg hn, if_pos rfl] at h
        by_cases hp : isPlain d = true
        · rw [if_pos hp] at h
          obtain ⟨hs, comment, gap, hall, hg, rfl⟩ := ihComment h
          exact ⟨hs, d :: comment, gap, List.forall_mem_cons.mpr ⟨hp, hall⟩, hg, rfl⟩
        · rw [if_neg hp] at h
          obtain ⟨rfl, -⟩ := List.cons.inj h
          exact absurd hc hp

theorem exists_gap {u : Text} (h : skipGap false t = c :: u) (hc : isPlain c = true) :
    IsSolid c ∧ ∃ gap, IsGap gap ∧ t = gap ++ c :: u :=
  (exists_gap_or_comment hc t).1 h

end Gaps

/-! ## 3. Parts of keys -/

/-- Does not go on with a key that ends in front of it. -/
def EndsKey (rest : Text) : Prop :=
  ∀ c ∈ rest.head?, isBlank c = false ∧ c ≠ '.' ∧ isKeyChar c = false

/-- Begins a key. -/
def StartsKey (c : Char) : Prop :=
  isKeyChar c = true ∨ c = '"' ∨ c = '\''

section Keys

variable {s t part rest : Text} {parts : List Text} {key : Key} {count : Nat}

/-- What begins no quoted part is a bare part, or none. -/
theorem keyPart?_bare (hq : t.head? ≠ some '"') (ha : t.head? ≠ some '\'') :
    keyPart? t = if t.takeWhile isKeyChar = [] then none
      else some (t.takeWhile isKeyChar, t.dropWhile isKeyChar) := by
  unfold keyPart?
  split
  · exact absurd rfl hq
  · exact absurd rfl ha
  · rfl

theorem startsKey_of_isKeyPart (h : IsKeyPart s part) : ∃ c u, s = c :: u ∧ StartsKey c := by
  cases h with
  | bare hk hne =>
    obtain ⟨c, u, rfl⟩ := List.exists_cons_of_ne_nil hne
    exact ⟨c, u, rfl, Or.inl (hk c List.mem_cons_self)⟩
  | basic => exact ⟨_, _, rfl, Or.inr (Or.inl rfl)⟩
  | literal => exact ⟨_, _, rfl, Or.inr (Or.inr rfl)⟩

theorem startsKey_of_isKey (h : IsKey s parts) : ∃ c u, s = c :: u ∧ StartsKey c := by
  cases h with
  | last h => exact startsKey_of_isKeyPart h
  | dotted h =>
    obtain ⟨c, u, rfl, hc⟩ := startsKey_of_isKeyPart h
    exact ⟨c, _, rfl, hc⟩

theorem StartsKey.ne {c d : Char} (hc : StartsKey c) (hk : isKeyChar d = false) (hq : d ≠ '"')
    (ha : d ≠ '\'') : c ≠ d := by
  rcases hc with hc | rfl | rfl
  · exact Text.ne_of_class hc hk
  · exact hq.symm
  · exact ha.symm

theorem StartsKey.isBlank_eq {c : Char} (hc : StartsKey c) : isBlank c = false :=
  isBlank_of_ne (hc.ne rfl (by decide) (by decide)) (hc.ne rfl (by decide) (by decide))

theorem isKeyChar_of_isBlank {c : Char} (h : isBlank c = true) : isKeyChar c = false := by
  by_contra hk
  rw [Bool.not_eq_false] at hk
  have hs : c ≠ ' ' := Text.ne_of_class hk rfl
  have ht : c ≠ '\t' := Text.ne_of_class hk rfl
  rcases of_decide_eq_true h with h | h
  · exact hs h
  · exact ht h

/-- **A part of a key is read**, if it cannot go on. -/
theorem keyPart?_append (h : IsKeyPart s part) (hr : ∀ c ∈ rest.head?, isKeyChar c = false) :
    keyPart? (s ++ rest) = some (part, rest) := by
  cases h with
  | bare hk hne =>
    obtain ⟨c, u, rfl⟩ := List.exists_cons_of_ne_nil hne
    have hc := hk c List.mem_cons_self
    have htake : ((c :: u) ++ rest).takeWhile isKeyChar = c :: u := by
      rw [List.takeWhile_append_of_pos hk]
      cases rest with
      | nil => exact List.append_nil _
      | cons d rest => simp [hr d rfl]
    have hdrop : ((c :: u) ++ rest).dropWhile isKeyChar = rest := by
      rw [List.dropWhile_append_of_pos hk]
      cases rest with
      | nil => rfl
      | cons d rest => simp [hr d rfl]
    have hq : ((c :: u) ++ rest).head? ≠ some '"' := fun h =>
      Text.ne_of_class hc rfl (Option.some.inj h)
    have ha : ((c :: u) ++ rest).head? ≠ some '\'' := fun h =>
      Text.ne_of_class hc rfl (Option.some.inj h)
    rw [keyPart?_bare hq ha, htake, hdrop, if_neg (List.cons_ne_nil _ _)]
  | basic h =>
    rw [List.cons_append, List.append_assoc]
    exact basicString_append h rest
  | literal h =>
    rw [List.cons_append, List.append_assoc]
    exact literalString_eq_some_iff.mpr ⟨rfl, h⟩

/-- Blanks may stand in front of it. -/
theorem keyPart?_blanks {blanks : Text} (h : IsKeyPart s part) (hb : IsBlanks blanks)
    (hr : ∀ c ∈ rest.head?, isKeyChar c = false) :
    keyPart? (skipBlank (blanks ++ (s ++ rest))) = some (part, rest) := by
  obtain ⟨c, u, rfl, hc⟩ := startsKey_of_isKeyPart h
  have hhead : ∀ d ∈ (c :: u ++ rest).head?, isBlank d = false := forall_head_cons hc.isBlank_eq
  rw [skipBlank_append hb, skipBlank_of_head hhead]
  exact keyPart?_append h hr

theorem exists_of_keyPart? (h : keyPart? t = some (part, rest)) :
    ∃ s, t = s ++ rest ∧ IsKeyPart s part := by
  by_cases hq : t.head? = some '"'
  · obtain ⟨u, rfl⟩ := List.head?_eq_some_iff.mp hq
    obtain ⟨content, rfl, hc⟩ := basicString_eq_some_iff.mp h
    exact ⟨_, by simp, .basic hc⟩
  by_cases ha : t.head? = some '\''
  · obtain ⟨u, rfl⟩ := List.head?_eq_some_iff.mp ha
    obtain ⟨rfl, hc⟩ := literalString_eq_some_iff.mp h
    exact ⟨_, by simp, .literal hc⟩
  rw [keyPart?_bare hq ha, Option.ite_none_left_eq_some] at h
  obtain ⟨hne, h⟩ := h
  cases h
  exact ⟨_, List.takeWhile_append_dropWhile.symm, .bare (fun c hc => List.mem_takeWhile_imp hc) hne⟩

/-! ## 4. Keys -/

theorem keyParts?_last (hp : keyPart? (skipBlank t) = some (part, s))
    (hd : (skipBlank s).head? ≠ some '.') :
    keyParts? (count + 1) t = some ([part], skipBlank s) := by
  unfold keyParts?
  simp only [hp]
  split
  · rename_i hs
    rw [hs] at hd
    exact absurd rfl hd
  · rfl

theorem keyParts?_dotted (hp : keyPart? (skipBlank t) = some (part, s))
    (hd : skipBlank s = '.' :: rest) :
    keyParts? (count + 1) t = (keyParts? count rest).map fun x => (part :: x.1, x.2) := by
  rw [keyParts?]
  simp only [hp, hd]

/-- **A key is read as its parts**, if it cannot go on. -/
theorem keyParts?_append {blanks after : Text} (h : IsKey s parts) (hn : parts.length ≤ count)
    (hb : IsBlanks blanks) (ha : IsBlanks after) (hr : EndsKey rest) :
    keyParts? count (blanks ++ (s ++ (after ++ rest))) = some (parts, rest) := by
  induction h generalizing blanks count with
  | @last s part h =>
    obtain ⟨count, rfl⟩ := Nat.exists_eq_succ_of_ne_zero (Nat.ne_zero_of_lt hn)
    have hpart := keyPart?_blanks h hb
      (forall_head_append ha (fun _ => isKeyChar_of_isBlank) fun c hc => (hr c hc).2.2)
    have hrest : skipBlank (after ++ rest) = rest := by
      rw [skipBlank_append ha, skipBlank_of_head fun c hc => (hr c hc).1]
    have hdot : (skipBlank (after ++ rest)).head? ≠ some '.' := by
      rw [hrest]
      exact fun h => (hr _ h).2.1 rfl
    rw [keyParts?_last hpart hdot, hrest]
  | @dotted s part before between more parts h hb' ha' hr' ih =>
    obtain ⟨count, rfl⟩ := Nat.exists_eq_succ_of_ne_zero (Nat.ne_zero_of_lt hn)
    have hfollow : ∀ d ∈ (before ++ '.' :: (between ++ (more ++ (after ++ rest)))).head?,
        isKeyChar d = false :=
      forall_head_append hb' (fun _ => isKeyChar_of_isBlank) (forall_head_cons rfl)
    have hdot : skipBlank (before ++ '.' :: (between ++ (more ++ (after ++ rest)))) =
        '.' :: (between ++ (more ++ (after ++ rest))) := by
      rw [skipBlank_append hb', skipBlank_of_head (forall_head_cons rfl)]
    have htext : blanks ++ (s ++ (before ++ '.' :: (between ++ more)) ++ (after ++ rest)) =
        blanks ++ (s ++ (before ++ '.' :: (between ++ (more ++ (after ++ rest))))) := by
      simp only [List.append_assoc, List.cons_append]
    rw [htext, keyParts?_dotted (keyPart?_blanks h hb hfollow) hdot,
      ih (Nat.le_of_succ_le_succ hn) ha']
    rfl

theorem exists_of_keyParts? (h : keyParts? count t = some (parts, rest)) :
    ∃ blanks s after, t = blanks ++ (s ++ (after ++ rest)) ∧ IsBlanks blanks ∧ IsKey s parts ∧
      parts.length ≤ count ∧ IsBlanks after := by
  induction count generalizing t parts with
  | zero => cases h
  | succ count ih =>
    obtain ⟨blanks, ht, hb, -⟩ := exists_blanks t
    cases hp : keyPart? (skipBlank t) with
    | none =>
      unfold keyParts? at h
      simp only [hp] at h
      cases h
    | some found =>
      obtain ⟨part, u⟩ := found
      obtain ⟨s, hs, hpart⟩ := exists_of_keyPart? hp
      obtain ⟨before, hu, hb', -⟩ := exists_blanks u
      by_cases hd : (skipBlank u).head? = some '.'
      · obtain ⟨v, hv⟩ := List.head?_eq_some_iff.mp hd
        rw [keyParts?_dotted hp hv] at h
        obtain ⟨⟨more, rest'⟩, hm, he⟩ := Option.map_eq_some_iff.mp h
        cases he
        obtain ⟨between, s', after, rfl, hb'', hk, hn, ha⟩ := ih hm
        refine ⟨blanks, s ++ (before ++ '.' :: (between ++ s')), after, ?_, hb,
          .dotted hpart hb' hb'' hk, Nat.succ_le_succ hn, ha⟩
        rw [ht, hs, hu, hv]
        simp only [List.append_assoc, List.cons_append]
      · rw [keyParts?_last hp hd] at h
        cases h
        refine ⟨blanks, s, before, ?_, hb, .last hpart, Nat.succ_le_succ (Nat.zero_le _), hb'⟩
        rw [ht, hs, ← hu]

/-- **A key is read** up to the character behind it. -/
theorem key?_append {blanks : Text} (h : IsWholeKey maxKeyParts s key) (hb : IsBlanks blanks)
    (hr : EndsKey rest) : key? (blanks ++ (s ++ rest)) = some (key, rest) := by
  cases h with
  | mk ht hn hk ha =>
    unfold key?
    rw [List.append_assoc, keyParts?_append ht hn hb ha hr]
    simp only [hk, Option.map_some]

/-- **And nothing else is read as a key.** -/
theorem exists_of_key? (h : key? t = some (key, rest)) :
    ∃ blanks s, t = blanks ++ (s ++ rest) ∧ IsBlanks blanks ∧ IsWholeKey maxKeyParts s key := by
  unfold key? at h
  split at h
  · cases h
  · rename_i parts rest' hp
    obtain ⟨key', hk, he⟩ := Option.map_eq_some_iff.mp h
    cases he
    obtain ⟨blanks, s, after, rfl, hb, hs, hn, ha⟩ := exists_of_keyParts? hp
    exact ⟨blanks, s ++ after, by rw [List.append_assoc], hb, .mk hs hn hk ha⟩

theorem startsKey_of_isWholeKey {maxParts : Nat} (h : IsWholeKey maxParts s key) :
    ∃ c u, s = c :: u ∧ StartsKey c := by
  cases h with
  | mk ht =>
    obtain ⟨c, u, rfl, hc⟩ := startsKey_of_isKey ht
    exact ⟨c, _, rfl, hc⟩

end Keys

end LookupLog.Toml
