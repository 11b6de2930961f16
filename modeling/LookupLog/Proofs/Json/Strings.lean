import LookupLog.Proofs.Json.Grammar

/-!
# Strings of the grammar

What a reader still demands at a place inside a string (`FromPlace`) is content of the grammar, from
this place on. One character leads to a place where the rest of it is demanded, and to no place if
it may not stand there (`fromPlace_cons_iff`).
-/

namespace LookupLog.JsonReader

open JsonGrammar

/-! ## 1. Letters and code units -/

/-- The letters that are read are those of the grammar. -/
theorem escape?_eq_some_iff {c e : Char} : escape? c = some e ↔ (c, e) ∈ escapes := by
  constructor
  · intro h
    unfold escape? at h
    split at h
    · rename_i hc
      cases hc
      cases h
      decide
    · unfold Toml.shortEscape? at h
      split at h
      all_goals
        cases h
        try decide
  · intro h
    have hall : ∀ p ∈ escapes, escape? p.1 = some p.2 := by decide
    exact hall _ h

/-- The digits that complete a code unit, from the value of those before them: the next one, and
    some that are missing behind it. -/
inductive Completes : (missing value : Nat) → Text → (unit : Nat) → Prop where
  | last {value digit : Nat} {c : Char} (h : Toml.hexValue? c = some digit) :
      Completes 0 value [c] (16 * value + digit)
  | more {missing value digit unit : Nat} {c : Char} {t : Text} (h : Toml.hexValue? c = some digit)
      (ht : Completes missing (16 * value + digit) t unit) :
      Completes (missing + 1) value (c :: t) unit

theorem completes_iff_isUnit {t : Text} {unit : Nat} : Completes 3 0 t unit ↔ IsUnit t unit := by
  constructor
  · rintro (_ | ⟨ha, _ | ⟨hb, _ | ⟨hc, hd | _⟩⟩⟩)
    rw [Nat.mul_zero, Nat.zero_add]
    exact .mk ha hb hc hd
  · rintro ⟨ha, hb, hc, hd⟩
    rename_i w x y z
    have hw : w = 16 * 0 + w := (Nat.zero_add w).symm
    rw [hw]
    exact .more ha (.more hb (.more hc (.last hd)))

/-- Digits that complete a code unit, and what stands behind them. -/
def UnitThen (missing value : Nat) (behind : (unit : Nat) → Text → Prop) (t : Text) : Prop :=
  ∃ digits unit rest, t = digits ++ rest ∧ Completes missing value digits unit ∧ behind unit rest

section UnitThen

variable {missing value : Nat} {behind : Nat → Text → Prop} {c : Char} {t : Text}

theorem not_unitThen_nil : ¬UnitThen missing value behind [] := by
  rintro ⟨digits, unit, rest, ht, hu, -⟩
  obtain ⟨rfl, -⟩ := List.append_eq_nil_iff.mp ht.symm
  cases hu

theorem unitThen_zero_cons_iff : UnitThen 0 value behind (c :: t) ↔
    ∃ digit, Toml.hexValue? c = some digit ∧ behind (16 * value + digit) t := by
  constructor
  · rintro ⟨digits, unit, rest, ht, hu, hb⟩
    cases hu with
    | last h =>
      obtain ⟨rfl, rfl⟩ := List.cons.inj ht
      exact ⟨_, h, hb⟩
  · rintro ⟨digit, h, hb⟩
    exact ⟨[c], _, t, rfl, .last h, hb⟩

theorem unitThen_succ_cons_iff : UnitThen (missing + 1) value behind (c :: t) ↔
    ∃ digit, Toml.hexValue? c = some digit ∧ UnitThen missing (16 * value + digit) behind t := by
  constructor
  · rintro ⟨digits, unit, rest, ht, hu, hb⟩
    cases hu with
    | more h hu =>
      obtain ⟨rfl, rfl⟩ := List.cons.inj ht
      exact ⟨_, h, _, unit, rest, rfl, hu, hb⟩
  · rintro ⟨digit, h, digits, unit, rest, rfl, hu, hb⟩
    exact ⟨c :: digits, unit, rest, rfl, .more h hu, hb⟩

end UnitThen

/-! ## 2. What a place demands -/

/-- A character that is completed, and the text from this character on. -/
def CharThen (next : Option Char) (t text : Text) : Prop :=
  ∃ c more, next = some c ∧ text = c :: more ∧ IsContent t more

/-- What stands behind the second code unit of a pair, and the text from the pair on. -/
def FromSecond (first second : Nat) (t text : Text) : Prop :=
  (0xdc00 ≤ second ∧ second < 0xe000) ∧
    CharThen (Toml.charOfCode? (0x10000 + 0x400 * (first - 0xd800) + (second - 0xdc00))) t text

/-- What stands behind the `u` of a second code unit. -/
def FromMark (first : Nat) (t text : Text) : Prop :=
  UnitThen 3 0 (fun second rest => FromSecond first second rest text) t

/-- What stands behind a first code unit, and the text from this unit on. -/
def FromFirst (first : Nat) (t text : Text) : Prop :=
  CharThen (Toml.charOfCode? first) t text ∨
    (0xd800 ≤ first ∧ first < 0xdc00) ∧ ∃ rest, t = '\\' :: 'u' :: rest ∧ FromMark first rest text

/-- What stands behind a code unit. -/
def FromUnit : (first : Option Nat) → (unit : Nat) → (t text : Text) → Prop
  | none => FromFirst
  | some first => FromSecond first

/-- **What stands between a place in a string and the closing quote**, and the text that is read
    from this place on. -/
def FromPlace : Place → (t text : Text) → Prop
  | .text, t, text => IsContent t text
  | .escape, t, text => IsContent ('\\' :: t) text
  | .code first missing value, t, text =>
    UnitThen (missing - 1) value (fun unit rest => FromUnit first unit rest text) t
  | .pair first, t, text => ∃ rest, t = '\\' :: 'u' :: rest ∧ FromMark first rest text
  | .pairEscape first, t, text => ∃ rest, t = 'u' :: rest ∧ FromMark first rest text

/-! ## 3. How content begins -/

/-- Content begins with a character. -/
theorem isContent_cons_iff {c : Char} {t text : Text} :
    IsContent (c :: t) text ↔
      ∃ written rest e more, c :: t = written ++ rest ∧ IsChar written e ∧ text = e :: more ∧
        IsContent rest more := by
  constructor
  · intro h
    generalize ht : c :: t = u at h
    cases h with
    | nil => cases ht
    | cons hc hr => exact ⟨_, _, _, _, rfl, hc, rfl, hr⟩
  · rintro ⟨written, rest, e, more, ht, hc, rfl, hr⟩
    rw [ht]
    exact .cons hc hr

/-- Only the character itself stands for a character that begins no escape. -/
theorem isContent_plain_iff {c : Char} (hb : c ≠ '\\') {t text : Text} :
    IsContent (c :: t) text ↔
      (c ≠ '"' ∧ 32 ≤ c.toNat) ∧ ∃ more, text = c :: more ∧ IsContent t more := by
  rw [isContent_cons_iff]
  constructor
  · rintro ⟨written, rest, e, more, ht, hc, rfl, hr⟩
    cases hc with
    | plain hq _ hle =>
      obtain ⟨rfl, rfl⟩ := List.cons.inj ht
      exact ⟨⟨hq, hle⟩, more, rfl, hr⟩
    | letter => exact absurd (List.cons.inj ht).1 hb
    | unit => exact absurd (List.cons.inj ht).1 hb
    | pair => exact absurd (List.cons.inj ht).1 hb
  · rintro ⟨⟨hq, hle⟩, more, rfl, hr⟩
    exact ⟨[c], t, c, more, rfl, .plain hq hb hle, rfl, hr⟩

/-- **An escape** is a letter that stands for a character, or code units. -/
theorem isContent_escape_iff {c : Char} {t text : Text} :
    IsContent ('\\' :: c :: t) text ↔
      CharThen (escape? c) t text ∨ c = 'u' ∧ FromPlace (.code none 4 0) t text := by
  rw [isContent_cons_iff]
  constructor
  · rintro ⟨written, rest, e, more, ht, hc, rfl, hr⟩
    cases hc with
    | plain _ hb => exact absurd (List.cons.inj ht).1.symm hb
    | letter he =>
      obtain ⟨rfl, rfl⟩ := List.cons.inj (List.cons.inj ht).2
      exact Or.inl ⟨e, more, escape?_eq_some_iff.mpr he, rfl, hr⟩
    | unit hu he =>
      obtain ⟨rfl, rfl⟩ := List.cons.inj (List.cons.inj ht).2
      exact Or.inr ⟨rfl, _, _, _, rfl, completes_iff_isUnit.mpr hu, Or.inl ⟨e, more, he, rfl, hr⟩⟩
    | pair hu hu' hf hs he =>
      obtain ⟨rfl, rfl⟩ := List.cons.inj (List.cons.inj ht).2
      exact Or.inr ⟨rfl, _, _, _, List.append_assoc .., completes_iff_isUnit.mpr hu,
        Or.inr ⟨hf, _, rfl, _, _, _, rfl, completes_iff_isUnit.mpr hu', hs, e, more, he, rfl, hr⟩⟩
  · rintro (⟨e, more, he, rfl, hr⟩ | ⟨rfl, digits, unit, rest, rfl, hu, hfrom⟩)
    · exact ⟨['\\', c], t, e, more, rfl, .letter (escape?_eq_some_iff.mp he), rfl, hr⟩
    · rw [completes_iff_isUnit] at hu
      rcases hfrom with ⟨e, more, he, rfl, hr⟩ |
        ⟨hf, rest, rfl, digits', second, rest, rfl, hu', hs, e, more, he, rfl, hr⟩
      · exact ⟨_, rest, e, more, rfl, .unit hu he, rfl, hr⟩
      · rw [completes_iff_isUnit] at hu'
        refine ⟨_, rest, e, more, ?_, .pair hu hu' hf hs he, rfl, hr⟩
        simp only [List.cons_append, List.append_assoc]

theorem isContent_nil_iff {text : Text} : IsContent [] text ↔ text = [] := by
  constructor
  · intro h
    generalize ht : ([] : Text) = t at h
    cases h with
    | nil => rfl
    | cons hc =>
      cases hc <;> cases ht
  · rintro rfl
    exact .nil

/-- Only at a place in the text the closing quote may follow. -/
theorem fromPlace_nil_iff {place : Place} {text : Text} :
    FromPlace place [] text ↔ place = .text ∧ text = [] := by
  cases place with
  | text => exact isContent_nil_iff.trans (and_iff_right rfl).symm
  | escape =>
    refine iff_of_false (fun h => ?_) (fun h => nomatch h.1)
    obtain ⟨written, rest, e, more, ht, hc, -⟩ := isContent_cons_iff.mp h
    cases hc with
    | plain _ hb => exact hb (List.cons.inj ht).1.symm
    | letter => cases ht
    | unit => cases ht
    | pair => cases ht
  | code first missing value => exact iff_of_false not_unitThen_nil (fun h => nomatch h.1)
  | pair first =>
    refine iff_of_false ?_ (fun h => nomatch h.1)
    rintro ⟨rest, ht, -⟩
    cases ht
  | pairEscape first =>
    refine iff_of_false ?_ (fun h => nomatch h.1)
    rintro ⟨rest, ht, -⟩
    cases ht

/-! ## 4. One character -/

/-- What is demanded where a character leads to, and the text from this character on. -/
def Onward (next : Option (Place × Text)) (t text : Text) : Prop :=
  ∃ place read more, next = some (place, read) ∧ text = read ++ more ∧ FromPlace place t more

section Onward

variable {place : Place} {t text : Text}

theorem onward_none_iff : Onward none t text ↔ False := by
  refine iff_of_false ?_ id
  rintro ⟨place, read, more, h, -⟩
  cases h

/-- A character with which nothing is read. -/
theorem onward_place_iff : Onward (some (place, [])) t text ↔ FromPlace place t text := by
  constructor
  · rintro ⟨place, read, more, h, rfl, hfrom⟩
    cases h
    exact hfrom
  · intro h
    exact ⟨place, [], text, rfl, rfl, h⟩

/-- A character with which one is read. -/
theorem onward_char_iff {next : Option Char} :
    Onward (next.map fun c => (.text, [c])) t text ↔ CharThen next t text := by
  constructor
  · rintro ⟨place, read, more, h, rfl, hfrom⟩
    obtain ⟨c, rfl, hc⟩ := Option.map_eq_some_iff.mp h
    cases hc
    exact ⟨c, more, rfl, rfl, hfrom⟩
  · rintro ⟨c, more, rfl, rfl, h⟩
    exact ⟨.text, [c], more, rfl, rfl, h⟩

/-- Where a code unit leads to. -/
theorem onward_unit?_iff {first : Option Nat} {unit : Nat} :
    Onward (unit? first unit) t text ↔ FromUnit first unit t text := by
  cases first with
  | none =>
    by_cases hs : 0xd800 ≤ unit ∧ unit < 0xdc00
    · have hunit : unit? none unit = some (.pair unit, []) := if_pos hs
      have hnone : Toml.charOfCode? unit = none := by
        refine if_neg ?_
        rintro (h | h) <;> omega
      rw [hunit, onward_place_iff]
      constructor
      · intro h
        exact Or.inr ⟨hs, h⟩
      · rintro (⟨c, more, hc, -⟩ | ⟨-, h⟩)
        · rw [hnone] at hc
          cases hc
        · exact h
    · have hunit : unit? none unit = (Toml.charOfCode? unit).map fun c => (.text, [c]) := if_neg hs
      rw [hunit, onward_char_iff]
      exact (or_iff_left fun h => hs h.1).symm
  | some first =>
    by_cases hs : 0xdc00 ≤ unit ∧ unit < 0xe000
    · have hunit : unit? (some first) unit = (Toml.charOfCode?
          (0x10000 + 0x400 * (first - 0xd800) + (unit - 0xdc00))).map fun c => (.text, [c]) :=
        if_pos hs
      rw [hunit, onward_char_iff]
      exact (and_iff_right hs).symm
    · have hunit : unit? (some first) unit = none := if_neg hs
      rw [hunit, onward_none_iff]
      exact iff_of_false id fun h => hs h.1

section Places

variable {c : Char}

/-- In the text of a string. -/
theorem fromText_cons_iff (hq : c ≠ '"') :
    FromPlace .text (c :: t) text ↔ Onward (stepInString .text c) t text := by
  by_cases hb : c = '\\'
  · have hstep : stepInString .text c = some (.escape, []) := if_pos hb
    rw [hstep, onward_place_iff, hb]
    exact Iff.rfl
  · have hstep : stepInString .text c =
        (if c.toNat < 32 then none else some c).map fun c => (.text, [c]) := by
      show (if c = '\\' then some (Place.escape, []) else if c.toNat < 32 then none
        else some (Place.text, [c])) = _
      rw [if_neg hb]
      split
      · rfl
      · rfl
    rw [hstep, onward_char_iff]
    refine (isContent_plain_iff hb).trans ?_
    simp only [CharThen, Option.ite_none_left_eq_some, Option.some.injEq]
    constructor
    · rintro ⟨⟨-, hle⟩, more, rfl, h⟩
      exact ⟨c, more, ⟨Nat.not_lt.mpr hle, rfl⟩, rfl, h⟩
    · rintro ⟨c, more, ⟨hle, rfl⟩, rfl, h⟩
      exact ⟨⟨hq, Nat.not_lt.mp hle⟩, more, rfl, h⟩

/-- Behind a backslash. -/
theorem fromEscape_cons_iff :
    FromPlace .escape (c :: t) text ↔ Onward (stepInString .escape c) t text := by
  refine isContent_escape_iff.trans ?_
  by_cases hu : c = 'u'
  · have hstep : stepInString .escape c = some (.code none 4 0, []) := if_pos hu
    have hletter : ¬CharThen (escape? c) t text := by
      rintro ⟨e, more, he, -⟩
      rw [hu] at he
      cases he
    rw [hstep, onward_place_iff, or_iff_right hletter, and_iff_right hu]
  · have hstep : stepInString .escape c = (escape? c).map fun e => (.text, [e]) := if_neg hu
    rw [hstep, onward_char_iff, or_iff_left fun h => hu h.1]

/-- Where a digit of a code unit leads to. -/
theorem onward_code_iff {first : Option Nat} {missing value : Nat} :
    Onward (stepInString (.code first missing value) c) t text ↔
      ∃ digit, Toml.hexValue? c = some digit ∧
        Onward (if 1 < missing then some (.code first (missing - 1) (16 * value + digit), [])
          else unit? first (16 * value + digit)) t text := by
  have hstep : stepInString (.code first missing value) c = (Toml.hexValue? c).bind fun digit =>
      if 1 < missing then some (.code first (missing - 1) (16 * value + digit), [])
      else unit? first (16 * value + digit) := rfl
  rw [hstep]
  cases Toml.hexValue? c with
  | none => simp [onward_none_iff]
  | some digit => simp

/-- Before a digit of a code unit. -/
theorem fromCode_cons_iff {first : Option Nat} {missing value : Nat} :
    FromPlace (.code first missing value) (c :: t) text ↔
      Onward (stepInString (.code first missing value) c) t text := by
  rw [onward_code_iff]
  by_cases hm : 1 < missing
  · obtain ⟨n, rfl⟩ : ∃ n, missing = n + 2 := ⟨missing - 2, by omega⟩
    simp only [if_pos hm, onward_place_iff]
    exact unitThen_succ_cons_iff
  · have hzero : missing - 1 = 0 := Nat.sub_eq_zero_of_le (Nat.not_lt.mp hm)
    simp only [if_neg hm, onward_unit?_iff, FromPlace, hzero]
    exact unitThen_zero_cons_iff

/-- Between the code units of a pair. -/
theorem fromPair_cons_iff {first : Nat} :
    FromPlace (.pair first) (c :: t) text ↔ Onward (stepInString (.pair first) c) t text := by
  by_cases hb : c = '\\'
  · have hstep : stepInString (.pair first) c = some (.pairEscape first, []) := if_pos hb
    rw [hstep, onward_place_iff, hb]
    simp only [FromPlace, List.cons.injEq, true_and]
  · have hstep : stepInString (.pair first) c = none := if_neg hb
    rw [hstep, onward_none_iff]
    simp only [FromPlace, List.cons.injEq, hb, false_and, exists_false]

/-- Behind the backslash between them. -/
theorem fromPairEscape_cons_iff {first : Nat} :
    FromPlace (.pairEscape first) (c :: t) text ↔
      Onward (stepInString (.pairEscape first) c) t text := by
  by_cases hu : c = 'u'
  · have hstep : stepInString (.pairEscape first) c = some (.code (some first) 4 0, []) := if_pos hu
    rw [hstep, onward_place_iff, hu]
    simp only [FromPlace, List.cons.injEq, true_and, exists_eq_left']
    exact Iff.rfl
  · have hstep : stepInString (.pairEscape first) c = none := if_neg hu
    rw [hstep, onward_none_iff]
    simp only [FromPlace, List.cons.injEq, hu, false_and, exists_false]

/-- **What is demanded at a place** is a character with what is demanded where it leads to, unless
    the string ends there. -/
theorem fromPlace_cons_iff (hq : ¬(place = .text ∧ c = '"')) :
    FromPlace place (c :: t) text ↔ Onward (stepInString place c) t text := by
  cases place with
  | text => exact fromText_cons_iff fun hc => hq ⟨rfl, hc⟩
  | escape => exact fromEscape_cons_iff
  | code first missing value => exact fromCode_cons_iff
  | pair first => exact fromPair_cons_iff
  | pairEscape first => exact fromPairEscape_cons_iff

end Places

end Onward

end LookupLog.JsonReader
