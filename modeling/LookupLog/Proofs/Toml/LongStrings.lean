import LookupLog.Proofs.Toml.Strings
import Mathlib.Data.List.Infix

/-!
# Strings over several lines

A string over several lines ends at three marks, before which up to two more belong to the string. A
reader looks for this end in front of each character, so how many marks stand next to each other
decides (`run`).

* `literalText_append`, `basicText_append`: the content is read up to the end, if no mark follows;
* `string?_append`, `exists_of_string?`: each string is read, and nothing else is read as one.
-/

namespace LookupLog.Toml

open TomlGrammar

/-! ## 1. Runs of quotes -/

section Runs

variable {mark : Char} {t rest : Text}

/-- How many marks a text begins with. -/
def run (mark : Char) (t : Text) : Nat :=
  (t.takeWhile (· = mark)).length

theorem run_cons_self : run mark (mark :: t) = run mark t + 1 := by
  simp [run]

theorem run_cons_of_ne {c : Char} (h : c ≠ mark) : run mark (c :: t) = 0 := by
  simp [run, h]

theorem closing?_of_run_lt (h : run mark t < 3) : closing? mark t = none := by
  have hm : min 5 (t.takeWhile (· = mark)).length < 3 := Nat.lt_of_le_of_lt (Nat.min_le_right ..) h
  exact if_pos hm

theorem run_lt_of_closing? (h : closing? mark t = none) : run mark t < 3 := by
  by_contra hr
  have hm : ¬min 5 (t.takeWhile (· = mark)).length < 3 :=
    Nat.not_lt.mpr (Nat.le_min.mpr ⟨by decide, Nat.not_lt.mp hr⟩)
  unfold closing? at h
  simp only [if_neg hm] at h
  cases h

/-- A text begins with its run of marks. -/
theorem exists_run (mark : Char) (t : Text) :
    ∃ rest, t = List.replicate (run mark t) mark ++ rest ∧ rest.head? ≠ some mark := by
  refine ⟨t.dropWhile (· = mark), ?_, ?_⟩
  · have hall : t.takeWhile (· = mark) = List.replicate (run mark t) mark := by
      refine List.eq_replicate_iff.mpr ⟨rfl, fun c hc => ?_⟩
      simpa using List.mem_takeWhile_imp hc
    rw [← hall, List.takeWhile_append_dropWhile]
  · intro h
    have := List.head?_dropWhile_not (· = mark) t
    rw [h] at this
    simp at this

theorem run_replicate_append (count : Nat) (h : rest.head? ≠ some mark) :
    run mark (List.replicate count mark ++ rest) = count := by
  induction count with
  | zero =>
    cases rest with
    | nil => rfl
    | cons c rest => exact run_cons_of_ne fun hc => h (by rw [hc]; rfl)
  | succ count ih => rw [List.replicate_succ, List.cons_append, run_cons_self, ih]

/-- The end of a string is three marks, with up to two before them. -/
theorem exists_of_closing? {marks : Text} (h : closing? mark t = some (marks, rest)) :
    ∃ count, count ≤ 2 ∧ marks = List.replicate count mark ∧
      t = marks ++ (List.replicate 3 mark ++ rest) := by
  have hrun : 3 ≤ run mark t := by
    by_contra hr
    rw [closing?_of_run_lt (Nat.not_le.mp hr)] at h
    cases h
  have hn : closing? mark t =
      some (List.replicate (min 5 (run mark t) - 3) mark, t.drop (min 5 (run mark t))) :=
    if_neg (show ¬min 5 (run mark t) < 3 by omega)
  obtain ⟨u, ht, -⟩ := exists_run mark t
  rw [hn] at h
  cases h
  refine ⟨_, by omega, rfl, ?_⟩
  have htake : t.take (min 5 (run mark t)) = List.replicate (min 5 (run mark t)) mark := by
    generalize run mark t = count at ht hrun
    rw [ht, List.take_append_of_le_length (by rw [List.length_replicate]; omega),
      List.take_replicate]
    congr 1
    omega
  rw [← List.append_assoc, List.replicate_append_replicate, Nat.sub_add_cancel (by omega), ← htake,
    List.take_append_drop]

/-- It is found, as long as no further mark follows. -/
theorem closing?_append {count : Nat} (hc : count ≤ 2) (h : rest.head? ≠ some mark) :
    closing? mark (List.replicate count mark ++ (List.replicate 3 mark ++ rest)) =
      some (List.replicate count mark, rest) := by
  rw [← List.append_assoc, List.replicate_append_replicate]
  have hrun := run_replicate_append (count + 3) h
  have hmin : min 5 (count + 3) = count + 3 := by omega
  have hlength : (List.replicate (count + 3) mark).length = count + 3 := List.length_replicate
  generalize ht : List.replicate (count + 3) mark ++ rest = t at hrun
  have hn : closing? mark t =
      some (List.replicate (min 5 (run mark t) - 3) mark, t.drop (min 5 (run mark t))) :=
    if_neg (show ¬min 5 (run mark t) < 3 by omega)
  rw [hn, hrun, hmin, Nat.add_sub_cancel, ← ht, List.drop_left' hlength]

end Runs

/-! ## 2. Between apostrophes -/

section LiteralText

variable {text rest : Text}

theorem literalText_step (c : Char) (t : Text) : literalText (c :: t) =
    (closing? '\'' (c :: t)).or
      (if c = '\n' ∨ isPlain c = true then prepend c (literalText t) else none) := by
  rw [literalText]
  cases closing? '\'' (c :: t) <;> rfl

theorem literalText_of_closing? {t marks : Text} (h : closing? '\'' t = some (marks, rest)) :
    literalText t = some (marks, rest) := by
  cases t with
  | nil => cases h
  | cons c t => rw [literalText_step, h, Option.some_or]

theorem literalText_cons {c : Char} {t : Text} (hc : c = '\n' ∨ isPlain c = true)
    (h : closing? '\'' (c :: t) = none) : literalText (c :: t) = prepend c (literalText t) := by
  rw [literalText_step, h, Option.none_or, if_pos hc]

/-- Less than three apostrophes begin a text that has no three of them next to each other. -/
theorem run_lt_of_not_infix {mark : Char} {t : Text} (h : ¬[mark, mark, mark] <:+: t) :
    run mark t < 3 := by
  by_contra hr
  obtain ⟨u, ht, -⟩ := exists_run mark t
  refine h ⟨[], List.replicate (run mark t - 3) mark ++ u, ?_⟩
  have hthree : [mark, mark, mark] = List.replicate 3 mark := rfl
  rw [List.nil_append, hthree, ← List.append_assoc, List.replicate_append_replicate,
    Nat.add_sub_cancel' (Nat.not_lt.mp hr), ← ht]

/-- In front of three marks, a text begins with its own run of them, or consists of marks. -/
theorem run_append_of_ne {mark : Char} {t : Text} (h : t ≠ List.replicate (run mark t) mark)
    (u : Text) : run mark (t ++ u) = run mark t := by
  obtain ⟨v, ht, hv⟩ := exists_run mark t
  have hne : v ≠ [] := by
    rintro rfl
    rw [List.append_nil] at ht
    exact h ht
  have hv' : (v ++ u).head? ≠ some mark := by
    rw [List.head?_append_of_ne_nil _ hne]
    exact hv
  conv_lhs => rw [ht, List.append_assoc]
  exact run_replicate_append _ hv'

/-- **A string between three apostrophes is read up to them.** -/
theorem literalText_append (h : IsLiteralText text) (hr : rest.head? ≠ some '\'') :
    literalText (text ++ (['\'', '\'', '\''] ++ rest)) = some (text, rest) := by
  obtain ⟨hplain, hinfix⟩ := h
  induction text with
  | nil => exact literalText_of_closing? (closing?_append (Nat.zero_le 2) hr)
  | cons c text ih =>
    have hlt := run_lt_of_not_infix hinfix
    by_cases hall : c :: text = List.replicate (run '\'' (c :: text)) '\''
    · rw [hall]
      exact literalText_of_closing? (closing?_append (by omega) hr)
    · have hnone : closing? '\'' (c :: (text ++ (['\'', '\'', '\''] ++ rest))) = none :=
        closing?_of_run_lt (lt_of_eq_of_lt (run_append_of_ne hall _) hlt)
      obtain ⟨hc, hplain⟩ := List.forall_mem_cons.mp hplain
      rw [List.cons_append, literalText_cons hc hnone,
        ih hplain fun hi => hinfix (hi.trans (List.suffix_cons c text).isInfix)]
      rfl

/-- And nothing else is read as one. -/
theorem exists_of_literalText {t : Text} (h : literalText t = some (text, rest)) :
    t = text ++ (['\'', '\'', '\''] ++ rest) ∧ IsLiteralText text := by
  induction t generalizing text with
  | nil => cases h
  | cons c t ih =>
    cases hclose : closing? '\'' (c :: t) with
    | some found =>
      rw [literalText_of_closing? hclose] at h
      obtain ⟨marks, rest'⟩ := found
      obtain ⟨count, hcount, rfl, ht⟩ := exists_of_closing? hclose
      cases h
      refine ⟨ht, fun d hd => Or.inr ?_, fun hi => ?_⟩
      · rw [List.eq_of_mem_replicate hd]
        rfl
      · have := hi.length_le
        rw [List.length_replicate] at this
        simp at this
        omega
    | none =>
      by_cases hc : c = '\n' ∨ isPlain c = true
      · rw [literalText_cons hc hclose] at h
        obtain ⟨more, hm, rfl⟩ := prepend_eq_some_iff.mp h
        obtain ⟨rfl, hplain, hinfix⟩ := ih hm
        refine ⟨rfl, List.forall_mem_cons.mpr ⟨hc, hplain⟩, fun hi => ?_⟩
        rcases List.infix_cons_iff.mp hi with ⟨u, hu⟩ | hi
        · have hlt := run_lt_of_closing? hclose
          rw [← List.cons_append, ← hu] at hlt
          simp only [List.cons_append, run_cons_self] at hlt
          omega
        · exact hinfix hi
      · rw [literalText_step, hclose, Option.none_or, if_neg hc] at h
        cases h

end LiteralText

/-! ## 3. Between double quotes -/

section BasicText

variable {quotes : Nat} {t content text rest : Text} {c : Char} {found : Text × Text}

theorem basicText_text (c : Char) (t : Text) : basicText .text (c :: t) =
    if c = '\\' then basicText .escape t
    else (closing? '"' (c :: t)).or
      (if c = '\n' ∨ isPlain c = true then prepend c (basicText .text t) else none) := by
  rw [basicText, if_neg (fun ha => nomatch ha.1)]
  · cases closing? '"' (c :: t) <;> rfl
  all_goals nofun

theorem basicText_escape (c : Char) (t : Text) : basicText .escape (c :: t) =
    if c = 'u' then basicText (.code 4 0) t
    else if c = 'U' then basicText (.code 8 0) t
    else if c = '\n' then basicText .afterBreak t
    else if Toml.isBlank c = true then basicText .beforeBreak t
    else (shortEscape? c).bind fun e => prepend e (basicText .text t) := by
  rw [basicText]
  cases shortEscape? c <;> rfl

theorem basicText_code (missing value : Nat) (c : Char) (t : Text) :
    basicText (.code missing value) (c :: t) = (hexValue? c).bind fun digit =>
      if 1 < missing then basicText (.code (missing - 1) (16 * value + digit)) t
      else (charOfCode? (16 * value + digit)).bind fun e => prepend e (basicText .text t) := by
  rw [basicText]
  cases hexValue? c with
  | none => rfl
  | some digit =>
    simp only [Option.bind_some]
    cases charOfCode? (16 * value + digit) <;> rfl

/-- Behind an escaped line break the text goes on with the first character that is not white. -/
theorem basicText_white (c : Char) (t : Text) : basicText .afterBreak (c :: t) =
    if c = '\n' ∨ Toml.isBlank c = true then basicText .afterBreak t
    else basicText .text (c :: t) := by
  by_cases h : c = '\n' ∨ Toml.isBlank c = true
  · rw [if_pos h]
    exact if_pos ⟨rfl, h⟩
  · rw [if_neg h]
    exact if_neg fun hp => h hp.2

theorem basicText_blank (c : Char) (t : Text) : basicText .beforeBreak (c :: t) =
    if c = '\n' then basicText .afterBreak t
    else if Toml.isBlank c = true then basicText .beforeBreak t
    else none := rfl

theorem basicText_of_closing? (h : closing? '"' t = some found) :
    basicText .text t = some found := by
  cases t with
  | nil => cases h
  | cons c t =>
    have hc : c ≠ '\\' := by
      intro hc
      subst hc
      rw [closing?_of_run_lt (by rw [run_cons_of_ne (by decide)]; decide)] at h
      cases h
    rw [basicText_text, if_neg hc, h, Option.some_or]

theorem basicText_cons (hb : c ≠ '\\') (hc : c = '\n' ∨ isPlain c = true)
    (h : closing? '"' (c :: t) = none) :
    basicText .text (c :: t) = prepend c (basicText .text t) := by
  rw [basicText_text, if_neg hb, h, Option.none_or, if_pos hc]

theorem closing?_of_ne {mark : Char} (h : c ≠ mark) : closing? mark (c :: t) = none :=
  closing?_of_run_lt (by rw [run_cons_of_ne h]; decide)

theorem basicText_backslash (t : Text) : basicText .text ('\\' :: t) = basicText .escape t :=
  (basicText_text '\\' t).trans (if_pos rfl)

theorem readsChars_basicText : ReadsChars basicText where
  nil place := by cases place <;> rfl
  plain hq hb hp t := basicText_cons hb (Or.inr hp) (closing?_of_ne hq)
  backslash := basicText_backslash
  letter {c e} h t := by
    have hall : ∀ p ∈ TomlGrammar.escapes,
        basicText .escape (p.1 :: t) = prepend p.2 (basicText .text t) := by
      simp only [TomlGrammar.escapes, List.forall_mem_cons]
      exact ⟨rfl, rfl, rfl, rfl, rfl, rfl, rfl, fun _ hp => absurd hp List.not_mem_nil⟩
    exact hall _ h
  short t := rfl
  long t := rfl
  code := basicText_code

/-- White space behind an escaped line break is dropped. -/
theorem basicText_afterBreak {white : Text} (hw : ∀ c ∈ white, IsWhite c)
    (hr : ∀ c ∈ rest.head?, ¬IsWhite c) :
    basicText .afterBreak (white ++ rest) = basicText .text rest := by
  induction white with
  | nil =>
    cases rest with
    | nil => rfl
    | cons c rest =>
      have hc : ¬(c = '\n' ∨ Toml.isBlank c = true) := hr c rfl
      rw [List.nil_append, basicText_white, if_neg hc]
  | cons c white ih =>
    obtain ⟨hc, hw⟩ := List.forall_mem_cons.mp hw
    have hc : c = '\n' ∨ Toml.isBlank c = true := hc
    rw [List.cons_append, basicText_white, if_pos hc]
    exact ih hw

/-- It is dropped as far as it goes. -/
theorem exists_of_afterBreak (t : Text) :
    ∃ white rest, t = white ++ rest ∧ (∀ c ∈ white, IsWhite c) ∧ ∀ c ∈ rest.head?, ¬IsWhite c := by
  induction t with
  | nil => exact ⟨[], [], rfl, nofun, nofun⟩
  | cons c t ih =>
    by_cases hc : IsWhite c
    · obtain ⟨white, rest, rfl, hw, hr⟩ := ih
      exact ⟨c :: white, rest, rfl, List.forall_mem_cons.mpr ⟨hc, hw⟩, hr⟩
    · refine ⟨[], c :: t, rfl, nofun, fun d hd => ?_⟩
      cases hd
      exact hc

/-- Blanks in front of an escaped line break are dropped. -/
theorem basicText_beforeBreak {blanks : Text} (hb : IsBlanks blanks) :
    basicText .beforeBreak (blanks ++ '\n' :: rest) = basicText .afterBreak rest := by
  induction blanks with
  | nil => rfl
  | cons c blanks ih =>
    obtain ⟨hc, hb⟩ := List.forall_mem_cons.mp hb
    rw [List.cons_append, basicText_blank, if_neg (Text.ne_of_class hc rfl), if_pos hc]
    exact ih hb

theorem basicText_escape_blanks {blanks : Text} (hb : IsBlanks blanks) :
    basicText .escape (blanks ++ '\n' :: rest) = basicText .afterBreak rest := by
  cases blanks with
  | nil => rfl
  | cons c blanks =>
    obtain ⟨hc, hb⟩ := List.forall_mem_cons.mp hb
    rw [List.cons_append, basicText_escape, if_neg (Text.ne_of_class hc rfl),
      if_neg (Text.ne_of_class hc rfl), if_neg (Text.ne_of_class hc rfl), if_pos hc]
    exact basicText_beforeBreak hb

theorem exists_of_beforeBreak (h : basicText .beforeBreak t = some found) :
    ∃ blanks rest, t = blanks ++ '\n' :: rest ∧ IsBlanks blanks := by
  induction t with
  | nil => cases h
  | cons c t ih =>
    rw [basicText_blank] at h
    split at h
    · rename_i hc
      subst hc
      exact ⟨[], t, rfl, nofun⟩
    · split at h
      · rename_i hc
        obtain ⟨blanks, rest, rfl, hb⟩ := ih h
        exact ⟨c :: blanks, rest, rfl, List.forall_mem_cons.mpr ⟨hc, hb⟩⟩
      · cases h

/-- What is read behind a backslash is an escaped line break if it begins no escape of a character.
    -/
theorem exists_of_escapedBreak (h : basicText .escape (c :: t) = some found)
    (hc : c ≠ 'u' ∧ c ≠ 'U' ∧ shortEscape? c = none) :
    ∃ blanks rest, c :: t = blanks ++ '\n' :: rest ∧ IsBlanks blanks := by
  obtain ⟨hu, hU, hs⟩ := hc
  rw [basicText_escape, if_neg hu, if_neg hU] at h
  split at h
  · rename_i hc
    subst hc
    exact ⟨[], t, rfl, nofun⟩
  · split at h
    · rename_i hc
      obtain ⟨blanks, rest, rfl, hb⟩ := exists_of_beforeBreak h
      exact ⟨c :: blanks, rest, rfl, List.forall_mem_cons.mpr ⟨hc, hb⟩⟩
    · rw [hs] at h
      cases h

/-- Behind so many quotes there are two quotes at most altogether. -/
theorem run_le_of_isBasicText (h : IsBasicText quotes content text) (hq : quotes ≤ 2) :
    quotes + run '"' content ≤ 2 := by
  induction h with
  | nil => exact hq
  | char hc _ _ =>
    have hrun : ∀ {written rest : Text} {c : Char}, IsBasicChar written c →
        run '"' (written ++ rest) = 0 := by
      intro written rest c hc
      cases hc with
      | plain hq => exact run_cons_of_ne hq
      | letter => exact run_cons_of_ne (by decide)
      | short => exact run_cons_of_ne (by decide)
      | long => exact run_cons_of_ne (by decide)
    rw [hrun hc]
    exact hq
  | quote hlt _ ih =>
    have := ih hlt
    rw [run_cons_self]
    omega
  | lineBreak =>
    rw [run_cons_of_ne (by decide)]
    exact hq
  | escapedBreak =>
    rw [run_cons_of_ne (by decide)]
    exact hq

/-- Up to two quotes are content. -/
theorem isBasicText_replicate {count : Nat} (h : quotes + count ≤ 2) :
    IsBasicText quotes (List.replicate count '"') (List.replicate count '"') := by
  induction count generalizing quotes with
  | zero => exact .nil
  | succ count ih => exact .quote (by omega) (ih (by omega))

/-- Quotes denote themselves. -/
theorem eq_of_isBasicText_replicate {count : Nat}
    (h : IsBasicText quotes (List.replicate count '"') text) : text = List.replicate count '"' := by
  induction count generalizing quotes text with
  | zero =>
    generalize hc : List.replicate 0 '"' = content at h
    cases h with
    | nil => rfl
    | char hc' => cases hc' <;> cases hc
    | quote => cases hc
    | lineBreak => cases hc
    | escapedBreak => cases hc
  | succ count ih =>
    generalize hc : List.replicate (count + 1) '"' = content at h
    rw [List.replicate_succ] at hc
    cases h with
    | nil => cases hc
    | char hc' =>
      cases hc' with
      | plain hq =>
        obtain ⟨rfl, -⟩ := List.cons.inj hc
        exact absurd rfl hq
      | letter => cases hc
      | short => cases hc
      | long => cases hc
    | quote hq hr =>
      obtain ⟨-, rfl⟩ := List.cons.inj hc
      rw [ih hr]
    | lineBreak => cases hc
    | escapedBreak => cases hc

/-- **A string between three double quotes is read up to them.** -/
theorem basicText_append (h : IsBasicText quotes content text) (hq : quotes ≤ 2)
    (hr : rest.head? ≠ some '"') :
    basicText .text (content ++ (['"', '"', '"'] ++ rest)) = some (text, rest) := by
  induction h with
  | nil => exact basicText_of_closing? (closing?_append (Nat.zero_le 2) hr)
  | char hc _ ih =>
    rw [List.append_assoc, readsChars_basicText.char_append hc, ih (by decide)]
    rfl
  | quote hlt hc ih =>
    rename_i quotes content text
    have hrun := run_le_of_isBasicText (.quote hlt hc) hq
    by_cases hall : '"' :: content = List.replicate (run '"' ('"' :: content)) '"'
    · have hreplicate := IsBasicText.quote hlt hc
      rw [hall] at hreplicate
      rw [eq_of_isBasicText_replicate hreplicate]
      conv_lhs => rw [hall]
      exact basicText_of_closing? (closing?_append (by omega) hr)
    · have hnone : closing? '"' ('"' :: (content ++ (['"', '"', '"'] ++ rest))) = none := by
        refine closing?_of_run_lt (lt_of_eq_of_lt (run_append_of_ne hall _) ?_)
        omega
      rw [List.cons_append, basicText_cons (by decide) (Or.inr rfl) hnone, ih hlt]
      rfl
  | lineBreak _ ih =>
    rw [List.cons_append, basicText_cons (by decide) (Or.inl rfl) (closing?_of_ne (by decide)),
      ih (by decide)]
    rfl
  | @escapedBreak quotes blanks white rest' text hb hw hn _ ih =>
    have hn' : ∀ c ∈ (rest' ++ (['"', '"', '"'] ++ rest)).head?, ¬IsWhite c := by
      cases rest' with
      | nil =>
        intro c hc
        cases hc
        exact fun h => nomatch h
      | cons c rest' => exact hn
    rw [List.cons_append, readsChars_basicText.backslash, List.append_assoc, List.cons_append,
      basicText_escape_blanks hb, List.append_assoc, basicText_afterBreak hw hn', ih (by decide)]

/-- What is read from a text, in front of a rest, is the content of a string in the grammar, behind
    some quotes that do not make three of those in front of it. -/
def ReadsContent (rest t : Text) : Prop :=
  ∀ quotes text, basicText .text t = some (text, rest) → quotes = 0 ∨ quotes + run '"' t ≤ 2 →
    ∃ content, t = content ++ (['"', '"', '"'] ++ rest) ∧ IsBasicText quotes content text

/-- Behind a backslash there is an escaped character or an escaped line break. -/
theorem readsContent_backslash
    (ih : ∀ u : Text, u.length < ('\\' :: t).length → ReadsContent rest u) :
    ReadsContent rest ('\\' :: t) := by
  intro quotes text h _
  rw [readsChars_basicText.backslash] at h
  cases t with
  | nil => cases h
  | cons c t =>
    rcases escape_cases c with hc | hc
    · obtain ⟨written, e, u, more, ht, hw, hu, rfl⟩ := readsChars_basicText.exists_of_escape hc h
      obtain ⟨content, rfl, hr⟩ := ih u (length_lt_of_isBasicChar hw ht) 0 more hu (Or.inl rfl)
      exact ⟨written ++ content, by rw [ht, List.append_assoc], .char hw hr⟩
    · obtain ⟨blanks, u, ht, hb⟩ := exists_of_escapedBreak h hc
      obtain ⟨white, v, rfl, hw, hv⟩ := exists_of_afterBreak u
      rw [ht, basicText_escape_blanks hb, basicText_afterBreak hw hv] at h
      have hlt : v.length < ('\\' :: c :: t).length := by
        rw [ht]
        simp only [List.length_cons, List.length_append]
        omega
      obtain ⟨content, rfl, hr⟩ := ih v hlt 0 text h (Or.inl rfl)
      refine ⟨'\\' :: (blanks ++ '\n' :: (white ++ content)), ?_,
        .escapedBreak hb hw (fun d hd => hv d ?_) hr⟩
      · rw [ht]
        simp only [List.cons_append, List.append_assoc]
      · rw [List.head?_append, hd]
        rfl

/-- Any other character belongs to the end of the string or stands for itself. -/
theorem readsContent_cons (hb : c ≠ '\\') (ih : ReadsContent rest t) :
    ReadsContent rest (c :: t) := by
  intro quotes text h hq
  cases hclose : closing? '"' (c :: t) with
  | some found =>
    rw [basicText_of_closing? hclose] at h
    cases h
    obtain ⟨count, hcount, rfl, ht⟩ := exists_of_closing? hclose
    have hrun : ¬run '"' (c :: t) < 3 := by
      intro hlt
      rw [closing?_of_run_lt hlt] at hclose
      cases hclose
    exact ⟨_, ht, isBasicText_replicate (by omega)⟩
  | none =>
    have hrun := run_lt_of_closing? hclose
    by_cases hp : c = '\n' ∨ isPlain c = true
    · rw [basicText_cons hb hp hclose] at h
      obtain ⟨more, hu, rfl⟩ := prepend_eq_some_iff.mp h
      by_cases hc : c = '"'
      · subst hc
        rw [run_cons_self] at hq hrun
        have hmore : quotes + 1 + run '"' t ≤ 2 := by omega
        obtain ⟨content, rfl, hr⟩ := ih (quotes + 1) more hu (Or.inr hmore)
        exact ⟨'"' :: content, rfl, .quote (by omega) hr⟩
      · obtain ⟨content, rfl, hr⟩ := ih 0 more hu (Or.inl rfl)
        rcases hp with rfl | hp
        · exact ⟨'\n' :: content, rfl, .lineBreak hr⟩
        · exact ⟨c :: content, rfl, .char (.plain hc hb hp) hr⟩
    · rw [basicText_text, if_neg hb, hclose, Option.none_or, if_neg hp] at h
      cases h

/-- And nothing else is read as one. -/
theorem readsContent (rest t : Text) : ReadsContent rest t := by
  induction hn : t.length using Nat.strong_induction_on generalizing t with
  | _ n ih =>
    subst hn
    cases t with
    | nil => exact fun _ _ h => nomatch h
    | cons c t =>
      by_cases hb : c = '\\'
      · subst hb
        exact readsContent_backslash fun u hu => ih u.length hu u rfl
      · exact readsContent_cons hb (ih t.length (Nat.lt_succ_self _) t rfl)

end BasicText

/-! ## 4. Every string -/

section String

variable {t s text rest : Text} {mark : Char}

/-- A line break at the beginning is no content. -/
theorem exists_opening (t : Text) :
    ∃ lineBreak, t = lineBreak ++ dropBreak t ∧
      (lineBreak = ['\n'] ∨ lineBreak = [] ∧ (dropBreak t).head? ≠ some '\n') := by
  unfold dropBreak
  split
  · exact ⟨['\n'], rfl, Or.inl rfl⟩
  · rename_i hn
    refine ⟨[], rfl, Or.inr ⟨rfl, fun hh => ?_⟩⟩
    cases t with
    | nil => cases hh
    | cons c t =>
      cases hh
      exact hn t rfl

theorem dropBreak_append {lineBreak content : Text} (h : IsOpening lineBreak content)
    (hr : rest.head? ≠ some '\n') :
    dropBreak (lineBreak ++ (content ++ rest)) = content ++ rest := by
  rcases h with rfl | ⟨rfl, hc⟩
  · rfl
  · rw [List.nil_append]
    unfold dropBreak
    split
    · rename_i u hu
      have hh : (content ++ rest).head? = some '\n' := by rw [hu]; rfl
      rw [List.head?_append] at hh
      cases content with
      | nil => exact absurd hh hr
      | cons c content => exact absurd hh hc
    · rfl

theorem isOpening_of_append {lineBreak content : Text}
    (h : lineBreak = ['\n'] ∨ lineBreak = [] ∧ (content ++ rest).head? ≠ some '\n') :
    IsOpening lineBreak content := by
  rcases h with h | ⟨h, hc⟩
  · exact Or.inl h
  · refine Or.inr ⟨h, fun hh => hc ?_⟩
    rw [List.head?_append, hh]
    rfl

/-- One quote alone begins a string on one line. -/
theorem string?_quote (h : ¬['"', '"'] <+: t) : string? ('"' :: t) = basicString .text t := by
  unfold string?
  split
  · rename_i rest he
    cases he
    exact absurd (List.prefix_append _ rest) h
  · rename_i he
    cases he
  · rename_i rest _ he
    cases he
    rfl
  · rename_i he
    cases he
  · rename_i hn _
    exact absurd rfl (hn t)

theorem string?_apostrophe (h : ¬['\'', '\''] <+: t) : string? ('\'' :: t) = literalString t := by
  unfold string?
  split
  · rename_i he
    cases he
  · rename_i rest he
    cases he
    exact absurd (List.prefix_append _ rest) h
  · rename_i he
    cases he
  · rename_i rest _ he
    cases he
    rfl
  · rename_i hn
    exact absurd rfl (hn t)

/-- Two marks in front of what does not begin with one are a string without content. -/
theorem not_prefix_of_content {content : Text} (hc : ∀ c ∈ content.head?, c ≠ mark)
    (hr : rest.head? ≠ some mark) : ¬[mark, mark] <+: content ++ mark :: rest := by
  intro h
  cases content with
  | nil =>
    obtain ⟨u, hu⟩ := h
    obtain ⟨-, hu⟩ := List.cons.inj hu
    exact hr (by rw [← hu]; rfl)
  | cons c content =>
    obtain ⟨u, hu⟩ := h
    obtain ⟨he, -⟩ := List.cons.inj hu
    exact hc c rfl he.symm

theorem head_ne_of_isBasic (h : IsBasic s text) : ∀ c ∈ s.head?, c ≠ '"' := by
  cases h with
  | nil => nofun
  | cons hc hr =>
    intro c hh
    cases hc with
    | plain hq => cases hh; exact hq
    | letter => cases hh; decide
    | short => cases hh; decide
    | long => cases hh; decide

/-- **A string of the grammar is read**, if no further mark follows. -/
theorem string?_append (h : IsString s text) (hq : rest.head? ≠ some '"')
    (ha : rest.head? ≠ some '\'') : string? (s ++ rest) = some (text, rest) := by
  cases h with
  | @basic content _ h =>
    have hn := not_prefix_of_content (head_ne_of_isBasic h) hq
    rw [List.cons_append, List.append_assoc, List.singleton_append, string?_quote hn,
      basicString_append h]
  | literal h =>
    have hn : ¬['\'', '\''] <+: text ++ '\'' :: rest := by
      refine not_prefix_of_content (fun c hc => ?_) ha
      exact (h c (List.mem_of_mem_head? hc)).1
    rw [List.cons_append, List.append_assoc, List.singleton_append, string?_apostrophe hn,
      literalString_eq_some_iff]
    exact ⟨rfl, h⟩
  | basicText ho h =>
    rw [List.cons_append, List.cons_append, List.cons_append, List.append_assoc, List.append_assoc]
    show basicText .text (dropBreak _) = _
    have hn : (['"', '"', '"'] ++ rest).head? ≠ some '\n' := fun h => nomatch h
    rw [dropBreak_append ho hn, basicText_append h (by decide) hq]
  | literalText ho h =>
    rw [List.cons_append, List.cons_append, List.cons_append, List.append_assoc, List.append_assoc]
    show literalText (dropBreak _) = _
    have hn : (['\'', '\'', '\''] ++ rest).head? ≠ some '\n' := fun h => nomatch h
    rw [dropBreak_append ho hn, literalText_append h ha]

/-- **And nothing else is read as a string.** -/
theorem exists_of_string? (h : string? t = some (text, rest)) :
    ∃ s, t = s ++ rest ∧ IsString s text := by
  unfold string? at h
  split at h
  · rename_i u
    obtain ⟨content, hu, hc⟩ := readsContent rest _ 0 text h (Or.inl rfl)
    obtain ⟨lineBreak, hl, ho⟩ := exists_opening u
    rw [hu] at hl ho
    refine ⟨_, ?_, .basicText (isOpening_of_append ho) hc⟩
    rw [hl]
    simp only [List.cons_append, List.append_assoc]
  · rename_i u
    obtain ⟨hu, hc⟩ := exists_of_literalText h
    obtain ⟨lineBreak, hl, ho⟩ := exists_opening u
    rw [hu] at hl ho
    refine ⟨_, ?_, .literalText (isOpening_of_append ho) hc⟩
    rw [hl]
    simp only [List.cons_append, List.append_assoc]
  · obtain ⟨content, rfl, hc⟩ := basicString_eq_some_iff.mp h
    exact ⟨_, by simp, .basic hc⟩
  · obtain ⟨rfl, hc⟩ := literalString_eq_some_iff.mp h
    exact ⟨_, by simp, .literal hc⟩
  · cases h

end String

end LookupLog.Toml
