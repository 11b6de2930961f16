import LookupLog.Proofs.Toml.Grammar

/-!
# Strings on one line

A reader of a string between double quotes reads one character of the grammar after another
(`ReadsChars`), whether there are one or several lines. A string on one line then ends at the next
quote.

* `basicString_eq_some_iff`, `literalString_eq_some_iff`: what is read is what the grammar allows.
-/

namespace LookupLog.Toml

open TomlGrammar JsonReader

/-! ## 1. Escapes -/

/-- Each character has one code point. -/
theorem charOfCode?_eq_some_iff {n : Nat} {c : Char} : charOfCode? n = some c ↔ c.toNat = n := by
  unfold charOfCode?
  rw [Option.ite_none_right_eq_some, Option.some.injEq]
  refine ⟨fun h => ?_, fun h => ?_⟩
  · obtain ⟨hv, rfl⟩ := h
    unfold Char.ofNat
    rw [dif_pos hv]
    rfl
  · subst h
    exact ⟨c.valid, Char.ofNat_toNat c⟩

/-- The letters that are read are those of the grammar. -/
theorem mem_escapes_of_shortEscape? {c e : Char} (h : shortEscape? c = some e) :
    (c, e) ∈ TomlGrammar.escapes := by
  unfold shortEscape? at h
  split at h
  all_goals
    cases h
    try decide

theorem prepend_eq_some_iff {c : Char} {read : Option (Text × Text)} {text rest : Text} :
    prepend c read = some (text, rest) ↔ ∃ more, read = some (more, rest) ∧ text = c :: more := by
  unfold prepend
  rw [Option.map_eq_some_iff]
  refine ⟨fun h => ?_, fun h => ?_⟩
  · obtain ⟨⟨more, rest'⟩, hr, he⟩ := h
    cases he
    exact ⟨more, hr, rfl⟩
  · obtain ⟨more, hr, rfl⟩ := h
    exact ⟨(more, rest), hr, rfl⟩

/-- A character behind a backslash begins an escape, or none. -/
theorem escape_cases (c : Char) :
    (c = 'u' ∨ c = 'U' ∨ ∃ e, (c, e) ∈ TomlGrammar.escapes) ∨
      (c ≠ 'u' ∧ c ≠ 'U' ∧ shortEscape? c = none) := by
  by_cases hu : c = 'u'
  · exact Or.inl (Or.inl hu)
  by_cases hU : c = 'U'
  · exact Or.inl (Or.inr (Or.inl hU))
  cases hs : shortEscape? c with
  | none => exact Or.inr ⟨hu, hU, rfl⟩
  | some e => exact Or.inl (Or.inr (Or.inr ⟨e, mem_escapes_of_shortEscape? hs⟩))

theorem length_lt_of_isBasicChar {written t u : Text} {c : Char} (h : IsBasicChar written c)
    (ht : t = written ++ u) : u.length < t.length := by
  have hpos : 0 < written.length := by
    cases h <;> exact Nat.succ_pos _
  rw [ht, List.length_append]
  omega

/-- Digits are plain characters. -/
theorem isPlain_of_hexValue? {c : Char} {digit : Nat} (h : hexValue? c = some digit) :
    isPlain c = true := by
  have hbounds : 48 ≤ c.toNat ∧ c.toNat ≤ 102 := by
    unfold hexValue? at h
    split at h
    · rename_i hd
      obtain ⟨hl, hu⟩ := Char.isDigit_iff_toNat.mp hd
      exact ⟨hl, le_trans hu (by decide)⟩
    · split at h
      · rename_i hl
        exact ⟨le_trans (by decide) (Char.le_def.mp hl.1), Char.le_def.mp hl.2⟩
      · split at h
        · rename_i hu
          exact ⟨le_trans (by decide) (Char.le_def.mp hu.1),
            le_trans (Char.le_def.mp hu.2) (by decide)⟩
        · cases h
  unfold isPlain
  rw [decide_eq_true_eq]
  omega

/-- So is everything between double quotes on one line. -/
theorem isPlain_of_isBasicChar {written : Text} {c : Char} (h : IsBasicChar written c) :
    ∀ d ∈ written, isPlain d = true := by
  have hdigits : ∀ {missing value code : Nat} {digits : Text},
      Completes missing value digits code → ∀ d ∈ digits, isPlain d = true := by
    intro missing value code digits h
    induction h with
    | last hd => exact List.forall_mem_singleton.mpr (isPlain_of_hexValue? hd)
    | more hd _ ih => exact List.forall_mem_cons.mpr ⟨isPlain_of_hexValue? hd, ih⟩
  cases h with
  | plain _ _ hp => exact List.forall_mem_singleton.mpr hp
  | letter he =>
    have hall : ∀ p ∈ TomlGrammar.escapes, isPlain p.1 = true := by decide
    exact List.forall_mem_cons.mpr ⟨rfl, List.forall_mem_singleton.mpr (hall _ he)⟩
  | short hd => exact List.forall_mem_cons.mpr ⟨rfl, List.forall_mem_cons.mpr ⟨rfl, hdigits hd⟩⟩
  | long hd => exact List.forall_mem_cons.mpr ⟨rfl, List.forall_mem_cons.mpr ⟨rfl, hdigits hd⟩⟩

theorem isPlain_of_isBasic {content text : Text} (h : IsBasic content text) :
    ∀ d ∈ content, isPlain d = true := by
  induction h with
  | nil => nofun
  | cons hc _ ih => exact List.forall_mem_append.mpr ⟨isPlain_of_isBasicChar hc, ih⟩

/-- How a reader of strings between double quotes goes on behind a plain character and inside an
    escape. -/
structure ReadsChars (read : Place → Text → Option (Text × Text)) : Prop where
  nil : ∀ place, read place [] = none
  plain : ∀ {c : Char}, c ≠ '"' → c ≠ '\\' → isPlain c = true →
    ∀ t, read .text (c :: t) = prepend c (read .text t)
  backslash : ∀ t, read .text ('\\' :: t) = read .escape t
  letter : ∀ {c e : Char}, (c, e) ∈ TomlGrammar.escapes →
    ∀ t, read .escape (c :: t) = prepend e (read .text t)
  short : ∀ t, read .escape ('u' :: t) = read (.code 4 0) t
  long : ∀ t, read .escape ('U' :: t) = read (.code 8 0) t
  code : ∀ missing value c t, read (.code missing value) (c :: t) =
    (hexValue? c).bind fun digit =>
      if 1 < missing then read (.code (missing - 1) (16 * value + digit)) t
      else (charOfCode? (16 * value + digit)).bind fun e => prepend e (read .text t)

section ReadsChars

variable {read : Place → Text → Option (Text × Text)} {missing value : Nat} {t text rest : Text}

/-- Digits that complete a code point are read as its character. -/
theorem ReadsChars.code_append (hr : ReadsChars read) {digits : Text} {code : Nat} {e : Char}
    (h : Completes missing value digits code) (he : e.toNat = code) (t : Text) :
    read (.code (missing + 1) value) (digits ++ t) = prepend e (read .text t) := by
  induction h with
  | last hd =>
    rw [List.singleton_append, hr.code, hd, Option.bind_some, if_neg (by decide),
      charOfCode?_eq_some_iff.mpr he, Option.bind_some]
  | more hd ht ih =>
    rw [List.cons_append, hr.code, hd, Option.bind_some, if_pos (by omega)]
    exact ih he

/-- And nothing else is. -/
theorem ReadsChars.exists_of_code (hr : ReadsChars read)
    (h : read (.code (missing + 1) value) t = some (text, rest)) :
    ∃ digits e u more, t = digits ++ u ∧ Completes missing value digits e.toNat ∧
      read .text u = some (more, rest) ∧ text = e :: more := by
  induction missing generalizing value t with
  | zero =>
    cases t with
    | nil =>
      rw [hr.nil] at h
      cases h
    | cons c t =>
      rw [hr.code] at h
      obtain ⟨digit, hd, h⟩ := Option.bind_eq_some_iff.mp h
      rw [if_neg (by decide)] at h
      obtain ⟨e, he, h⟩ := Option.bind_eq_some_iff.mp h
      obtain ⟨more, hu, rfl⟩ := prepend_eq_some_iff.mp h
      refine ⟨[c], e, t, more, rfl, ?_, hu, rfl⟩
      rw [charOfCode?_eq_some_iff.mp he]
      exact .last hd
  | succ missing ih =>
    cases t with
    | nil =>
      rw [hr.nil] at h
      cases h
    | cons c t =>
      rw [hr.code] at h
      obtain ⟨digit, hd, h⟩ := Option.bind_eq_some_iff.mp h
      rw [if_pos (by omega)] at h
      obtain ⟨digits, e, u, more, rfl, hc, hu, rfl⟩ := ih h
      exact ⟨c :: digits, e, u, more, rfl, .more hd hc, hu, rfl⟩

/-- **A character of the grammar is read as it is.** -/
theorem ReadsChars.char_append (hr : ReadsChars read) {written : Text} {c : Char}
    (h : IsBasicChar written c) (t : Text) :
    read .text (written ++ t) = prepend c (read .text t) := by
  cases h with
  | plain hq hb hp => exact hr.plain hq hb hp t
  | letter he => exact (hr.backslash _).trans (hr.letter he t)
  | short hd => exact (hr.backslash _).trans ((hr.short _).trans (hr.code_append hd rfl t))
  | long hd => exact (hr.backslash _).trans ((hr.long _).trans (hr.code_append hd rfl t))

/-- What is read behind a backslash is a character of the grammar if it begins like one. -/
theorem ReadsChars.exists_of_escape (hr : ReadsChars read) {c : Char}
    (hc : c = 'u' ∨ c = 'U' ∨ ∃ e, (c, e) ∈ TomlGrammar.escapes)
    (h : read .escape (c :: t) = some (text, rest)) :
    ∃ written e u more, '\\' :: c :: t = written ++ u ∧ IsBasicChar written e ∧
      read .text u = some (more, rest) ∧ text = e :: more := by
  rcases hc with rfl | rfl | ⟨e, he⟩
  · rw [hr.short] at h
    obtain ⟨digits, e, u, more, rfl, hd, hu, rfl⟩ := hr.exists_of_code h
    exact ⟨_, e, u, more, rfl, .short hd, hu, rfl⟩
  · rw [hr.long] at h
    obtain ⟨digits, e, u, more, rfl, hd, hu, rfl⟩ := hr.exists_of_code h
    exact ⟨_, e, u, more, rfl, .long hd, hu, rfl⟩
  · rw [hr.letter he] at h
    obtain ⟨more, hu, rfl⟩ := prepend_eq_some_iff.mp h
    exact ⟨['\\', c], e, t, more, rfl, .letter he, hu, rfl⟩

end ReadsChars

/-! ## 2. One line -/

theorem readsChars_basicString : ReadsChars basicString where
  nil place := by cases place <;> rfl
  plain hq hb hp t := by simp only [basicString, hq, hb, hp, if_false, if_true]
  backslash t := rfl
  letter {c e} h t := by
    have hall : ∀ p ∈ TomlGrammar.escapes,
        basicString .escape (p.1 :: t) = prepend p.2 (basicString .text t) := by
      simp only [TomlGrammar.escapes, List.forall_mem_cons]
      exact ⟨rfl, rfl, rfl, rfl, rfl, rfl, rfl, fun _ hp => absurd hp List.not_mem_nil⟩
    exact hall _ h
  short t := rfl
  long t := rfl
  code missing value c t := by
    rw [basicString]
    cases hexValue? c with
    | none => rfl
    | some digit =>
      simp only [Option.bind_some]
      split
      · rfl
      · cases charOfCode? (16 * value + digit) <;> rfl

/-- Content of the grammar is read up to the closing quote. -/
theorem basicString_append {content text : Text} (h : IsBasic content text) (rest : Text) :
    basicString .text (content ++ '"' :: rest) = some (text, rest) := by
  induction h with
  | nil => rfl
  | cons hc hr ih =>
    rw [List.append_assoc, readsChars_basicString.char_append hc, ih]
    rfl

/-- **A string between double quotes is read exactly if it is one of the grammar.** -/
theorem basicString_eq_some_iff {t text rest : Text} :
    basicString .text t = some (text, rest) ↔
      ∃ content, t = content ++ '"' :: rest ∧ IsBasic content text := by
  refine ⟨fun h => ?_, fun h => ?_⟩
  · induction hn : t.length using Nat.strong_induction_on generalizing t text with
    | _ n ih =>
      subst hn
      cases t with
      | nil => cases h
      | cons c t =>
        by_cases hq : c = '"'
        · subst hq
          cases h
          exact ⟨[], rfl, .nil⟩
        by_cases hb : c = '\\'
        · subst hb
          rw [readsChars_basicString.backslash] at h
          cases t with
          | nil => cases h
          | cons c t =>
            rcases escape_cases c with hc | ⟨hu, hU, hs⟩
            · obtain ⟨written, e, u, more, ht, hw, hu, rfl⟩ :=
                readsChars_basicString.exists_of_escape hc h
              obtain ⟨content, rfl, hr⟩ := ih _ (length_lt_of_isBasicChar hw ht) hu rfl
              exact ⟨written ++ content, by rw [ht, List.append_assoc], .cons hw hr⟩
            · simp only [basicString, hu, hU, hs, if_false] at h
              cases h
        · by_cases hp : isPlain c = true
          · rw [readsChars_basicString.plain hq hb hp] at h
            obtain ⟨more, hu, rfl⟩ := prepend_eq_some_iff.mp h
            obtain ⟨content, rfl, hr⟩ := ih _ (Nat.lt_succ_self _) hu rfl
            exact ⟨c :: content, rfl, .cons (.plain hq hb hp) hr⟩
          · simp only [basicString, hq, hb, hp, if_false] at h
            cases h
  · obtain ⟨content, rfl, hc⟩ := h
    exact basicString_append hc rest

/-- **A string between apostrophes** is what stands in front of the next apostrophe. -/
theorem literalString_eq_some_iff {t text rest : Text} :
    literalString t = some (text, rest) ↔ t = text ++ '\'' :: rest ∧ IsLiteral text := by
  have hmem : ∀ c, (decide (c ≠ '\'') && isPlain c) = true ↔ c ≠ '\'' ∧ isPlain c = true := by
    intro c
    rw [Bool.and_eq_true, decide_eq_true_eq]
  refine ⟨fun h => ?_, fun h => ?_⟩
  · unfold literalString at h
    split at h
    · rename_i rest' hd
      cases h
      refine ⟨?_, fun c hc => ?_⟩
      swap
      · have hp := List.mem_takeWhile_imp hc
        exact (hmem c).mp hp
      rw [← hd, List.takeWhile_append_dropWhile]
    · cases h
  · obtain ⟨rfl, hl⟩ := h
    have hl : ∀ c ∈ text, (decide (c ≠ '\'') && isPlain c) = true :=
      fun c hc => (hmem c).mpr (hl c hc)
    unfold literalString
    rw [List.dropWhile_append_of_pos hl, List.takeWhile_append_of_pos hl]
    simp

end LookupLog.Toml
