import LookupLog.Proofs.Text.Numerals
import LookupLog.Transcript.Record
import Mathlib.Data.List.Basic
import Mathlib.Data.List.TakeWhile

/-!
# The grammar of record lines

The record lines of a kind, written down without a scanner (`IsRecord`), and what reading a line
makes of them:

* `Record.record?_eq_some_iff`: the scanner finds a kind and runs of digits exactly on the record
  lines with that kind and those runs, so a line has at most one decomposition (`IsRecord.unique`);
* `ofLine_eq_record?`: what a line yields depends on its decomposition alone;
* `record?_append_carriageReturn`: a carriage return at the end changes no decomposition;
* `ofLine_eq_ok_iff`, `ofLine_eq_error_iff`: which lines are accepted, and with which findings, and
  which are refused, and for which of their numbers.
-/

namespace LookupLog

namespace Record

/-! ## 1. Record lines -/

/-- A run of ASCII digits. -/
def IsRun (run : Text) : Prop :=
  run ≠ [] ∧ ∀ c ∈ run, '0' ≤ c ∧ c ≤ '9'

/-- Nothing follows, or something that begins with no ASCII digit. -/
def EndsRun (rest : Text) : Prop :=
  ∀ c ∈ rest.head?, ¬('0' ≤ c ∧ c ≤ '9')

/-- The line of a kind with some numbers, and a text behind the last one. -/
def line (kind : RecordKind) (runs : List Text) (rest : Text) : Text :=
  ['[', 'E', ']', ' ', kind.letter] ++ runs.flatMap (' ' :: ·) ++ rest

/-- A text is a record line of a kind with its numbers written as `runs`. -/
structure IsRecord (kind : RecordKind) (runs : List Text) (text : Text) : Prop where
  arity : runs.length = kind.arity
  digits : ∀ run ∈ runs, IsRun run
  shape : ∃ rest, EndsRun rest ∧ text = line kind runs rest

theorem isDigit_iff {c : Char} : c.isDigit = true ↔ '0' ≤ c ∧ c ≤ '9' := by
  simp only [Char.isDigit, Bool.and_eq_true, decide_eq_true_eq, Char.le_def, ge_iff_le]

/-- Before a text that ends it, a run is the longest beginning with digits alone. -/
theorem takeWhile_run {run rest : Text} (hr : IsRun run) (he : EndsRun rest) :
    (run ++ rest).takeWhile Char.isDigit = run ∧ (run ++ rest).dropWhile Char.isDigit = rest := by
  refine Text.span_digits (fun c hc => isDigit_iff.mpr (hr.2 c hc)) fun c hc => ?_
  rw [← Bool.not_eq_true, isDigit_iff]
  exact he c hc

/-- The longest beginning with digits alone is a run, unless it is empty. -/
theorem isRun_takeWhile {text : Text} (hne : text.takeWhile Char.isDigit ≠ []) :
    IsRun (text.takeWhile Char.isDigit) :=
  ⟨hne, fun _ hc => isDigit_iff.mp (List.mem_takeWhile_imp hc)⟩

/-- What follows it begins with no digit. -/
theorem endsRun_dropWhile (text : Text) : EndsRun (text.dropWhile Char.isDigit) := by
  intro c hc hd
  have hf := List.head?_dropWhile_not Char.isDigit text
  rw [Option.mem_def.mp hc] at hf
  have hf : c.isDigit = false := hf
  rw [isDigit_iff.mpr hd] at hf
  cases hf

/-- A blank begins with no digit. -/
theorem endsRun_blank (rest : Text) : EndsRun (' ' :: rest) := by
  intro c hc
  obtain rfl : ' ' = c := by simpa using hc
  decide

/-! ## 2. Scanning -/

/-- The scanner finds the header exactly on the texts that begin with it. -/
theorem header?_eq_some_iff {text body : Text} {kind : RecordKind} :
    header? text = some (kind, body) ↔
      text = '[' :: 'E' :: ']' :: ' ' :: kind.letter :: ' ' :: body := by
  constructor
  · intro h
    unfold header? at h
    split at h
    · obtain ⟨k, hk, he⟩ := Option.map_eq_some_iff.mp h
      obtain ⟨rfl, rfl⟩ := Prod.mk.inj he
      rw [RecordKind.ofLetter?_eq_some_iff.mp hk]
    · cases h
  · rintro rfl
    simp [header?, RecordKind.ofLetter?_eq_some_iff.mpr rfl]

/-- **The scanner finds some runs exactly on the texts that begin with them.** -/
theorem runs?_eq_some_iff {count : Nat} {text : Text} {runs : List Text} :
    runs? (count + 1) text = some runs ↔
      runs.length = count + 1 ∧ (∀ run ∈ runs, IsRun run) ∧
        ∃ rest, EndsRun rest ∧ ' ' :: text = runs.flatMap (' ' :: ·) ++ rest := by
  induction count generalizing text runs with
  | zero =>
    rw [runs?]
    constructor
    · intro h
      split at h
      · cases h
      · rename_i hne
        obtain rfl := Option.some.inj h
        refine ⟨rfl, by simpa using isRun_takeWhile hne, _, endsRun_dropWhile text, ?_⟩
        simp [List.takeWhile_append_dropWhile]
    · intro h
      obtain ⟨hl, hr, rest, he, ht⟩ := h
      obtain ⟨run, rfl⟩ := List.length_eq_one_iff.mp hl
      have hrun := hr run List.mem_cons_self
      obtain rfl : text = run ++ rest := by simpa using ht
      rw [(takeWhile_run hrun he).1, if_neg hrun.1]
  | succ count ih =>
    rw [runs?]
    constructor
    · intro h
      split at h
      · cases h
      · rename_i hne
        split at h
        · rename_i tail hd
          obtain ⟨more, hm, rfl⟩ := Option.map_eq_some_iff.mp h
          obtain ⟨hl, hr, rest, he, ht⟩ := ih.mp hm
          refine ⟨by simp [hl], ?_, rest, he, ?_⟩
          · intro run hrun
            rcases List.mem_cons.mp hrun with rfl | hrun
            · exact isRun_takeWhile hne
            · exact hr run hrun
          · rw [List.flatMap_cons, List.append_assoc, ← ht, List.cons_append, ← hd,
              List.takeWhile_append_dropWhile]
        · cases h
    · intro h
      obtain ⟨hl, hr, rest, he, ht⟩ := h
      obtain ⟨run, more, rfl⟩ := List.exists_cons_of_length_eq_add_one hl
      have hrun := hr run List.mem_cons_self
      obtain ⟨next, hn⟩ : ∃ next, more.flatMap (' ' :: ·) ++ rest = ' ' :: next := by
        cases more with
        | nil => simp at hl
        | cons r more => exact ⟨_, rfl⟩
      have hm : runs? (count + 1) next = some more :=
        ih.mpr ⟨by simpa using hl, fun r h => hr r (List.mem_cons_of_mem _ h), rest, he, hn.symm⟩
      obtain rfl : text = run ++ ' ' :: next := by
        rw [List.flatMap_cons, List.append_assoc, hn, List.cons_append] at ht
        exact (List.cons.inj ht).2
      have hs := takeWhile_run hrun (endsRun_blank next)
      rw [hs.1, hs.2, if_neg hrun.1]
      simp only [hm, Option.map_some]

/-- The kind of a record line and its numbers as they are written. -/
def record? (text : Text) : Option (RecordKind × List Text) :=
  (header? text).bind fun (kind, body) => (runs? kind.arity body).map fun runs => (kind, runs)

/-- **The scanner finds exactly the record lines.** -/
theorem record?_eq_some_iff {text : Text} {kind : RecordKind} {runs : List Text} :
    record? text = some (kind, runs) ↔ IsRecord kind runs text := by
  obtain ⟨count, hc⟩ : ∃ count, kind.arity = count + 1 := by
    cases kind <;> exact ⟨_, rfl⟩
  constructor
  · intro h
    obtain ⟨⟨k, body⟩, hh, hb⟩ := Option.bind_eq_some_iff.mp h
    obtain ⟨rs, hr, he⟩ := Option.map_eq_some_iff.mp hb
    obtain ⟨rfl, rfl⟩ := Prod.mk.inj he
    rw [hc] at hr
    obtain ⟨hl, hd, rest, hrest, ht⟩ := runs?_eq_some_iff.mp hr
    refine ⟨hl.trans hc.symm, hd, rest, hrest, ?_⟩
    rw [header?_eq_some_iff.mp hh, line, List.append_assoc, ← ht]
    rfl
  · intro h
    obtain ⟨hl, hd, rest, hrest, rfl⟩ := h
    rw [hc] at hl
    obtain ⟨run, more, rfl⟩ := List.exists_cons_of_length_eq_add_one hl
    have hr : runs? kind.arity (run ++ more.flatMap (' ' :: ·) ++ rest) = some (run :: more) := by
      rw [hc]
      exact runs?_eq_some_iff.mpr ⟨hl, hd, rest, hrest, by simp⟩
    have hh : header? (line kind (run :: more) rest) =
        some (kind, run ++ more.flatMap (' ' :: ·) ++ rest) :=
      header?_eq_some_iff.mpr (by simp [line])
    simp only [record?, hh, Option.bind_some, hr, Option.map_some]

/-- **A line has at most one decomposition.** -/
theorem IsRecord.unique {text : Text} {kind kind' : RecordKind} {runs runs' : List Text}
    (h : IsRecord kind runs text) (h' : IsRecord kind' runs' text) :
    kind = kind' ∧ runs = runs' := by
  have he := (record?_eq_some_iff.mpr h).symm.trans (record?_eq_some_iff.mpr h')
  exact Prod.mk.inj (Option.some.inj he)

/-! ## 3. A carriage return at the end -/

theorem line_append (kind : RecordKind) (runs : List Text) (rest tail : Text) :
    line kind runs rest ++ tail = line kind runs (rest ++ tail) :=
  List.append_assoc _ rest tail

/-- Up to its last number a record line consists of its header, blanks and digits. -/
theorem mem_line_nil {kind : RecordKind} {runs : List Text} (hd : ∀ run ∈ runs, IsRun run)
    {c : Char} (hm : c ∈ line kind runs []) : c ∈ "[E] TSF".toList ∨ '0' ≤ c ∧ c ≤ '9' := by
  rw [line, List.append_nil, List.mem_append, List.mem_flatMap] at hm
  rcases hm with hm | ⟨run, hrun, hm⟩
  · left
    cases kind <;> revert hm <;> simp +contextual [RecordKind.letter, or_imp]
  · rcases List.mem_cons.mp hm with rfl | hm
    · exact Or.inl (by decide)
    · exact Or.inr ((hd run hrun).2 c hm)

/-- A carriage return at the end is part of what follows the last number. -/
theorem isRecord_append_carriageReturn {text : Text} {kind : RecordKind} {runs : List Text} :
    IsRecord kind runs (text ++ ['\r']) ↔ IsRecord kind runs text := by
  constructor
  · intro h
    obtain ⟨ha, hd, rest, he, ht⟩ := h
    refine ⟨ha, hd, ?_⟩
    rcases List.eq_nil_or_concat rest with rfl | ⟨init, c, rfl⟩
    · have hm : '\r' ∈ text ++ ['\r'] := by simp
      rw [ht] at hm
      exact absurd (mem_line_nil hd hm) (by decide)
    · rw [List.concat_eq_append, ← line_append] at ht
      refine ⟨init, ?_, (List.append_inj' ht rfl).1⟩
      intro d hm
      obtain ⟨tail, rfl⟩ := List.head?_eq_some_iff.mp hm
      exact he d rfl
  · intro h
    obtain ⟨ha, hd, rest, he, rfl⟩ := h
    refine ⟨ha, hd, rest ++ ['\r'], ?_, line_append kind runs rest _⟩
    cases rest with
    | nil =>
      intro c hc
      obtain rfl : '\r' = c := by simpa using hc
      decide
    | cons d rest => exact he

/-- **A carriage return at the end changes no decomposition.** -/
theorem record?_append_carriageReturn (text : Text) :
    record? (text ++ ['\r']) = record? text := by
  refine Option.ext fun ⟨kind, runs⟩ => ?_
  rw [record?_eq_some_iff, record?_eq_some_iff, isRecord_append_carriageReturn]

end Record

/-! ## 4. What a line yields -/

/-- **What a line yields depends on its decomposition alone.** -/
theorem ofLine_eq_record? (number : Nat) (text : Text) :
    Findings.ofLine number text =
      match Record.record? text with
      | none => .ok .nothing
      | some (kind, runs) => Record.findings number kind runs := by
  unfold Findings.ofLine Record.record?
  cases Record.header? text with
  | none => rfl
  | some p =>
    obtain ⟨kind, body⟩ := p
    simp only [Option.bind_some]
    cases Record.runs? kind.arity body <;> rfl

/-- A carriage return at the end changes nothing. -/
theorem ofLine_dropLastIf_carriageReturn (number : Nat) (text : Text) :
    Findings.ofLine number (text.dropLastIf '\r') = Findings.ofLine number text := by
  unfold Text.dropLastIf
  split
  · rename_i hr
    obtain ⟨init, rfl⟩ := List.getLast?_eq_some_iff.mp hr
    rw [List.dropLast_concat, ofLine_eq_record?, ofLine_eq_record?,
      Record.record?_append_carriageReturn]
  · rfl

/-! ## 5. The lines of each kind -/

namespace Record

/-- A bandwidth sample: `[E] T a b` with two runs, and nothing behind them that goes on with a
    digit. -/
def IsSampleLine (a b text : Text) : Prop :=
  ∃ rest, IsRun a ∧ IsRun b ∧ EndsRun rest ∧
    text = "[E] T ".toList ++ a ++ " ".toList ++ b ++ rest

/-- A lookup that ended, well or not as the letter says: `[E] S a b c` or `[E] F a b c`. -/
def IsLookupLine (letter : Char) (a b c text : Text) : Prop :=
  ∃ rest, IsRun a ∧ IsRun b ∧ IsRun c ∧ EndsRun rest ∧
    text = "[E] ".toList ++ [letter] ++ " ".toList ++ a ++ " ".toList ++ b ++ " ".toList ++ c ++
      rest

/-- The first number of a line that is kept and does not fit in 64 bits, as it is written. -/
inductive Oversized (text : Text) : Text → Prop where
  | timestamp {a b : Text} (h : IsSampleLine a b text) (ha : UInt64.size ≤ Text.toNat a) :
      Oversized text a
  | value {a b : Text} (h : IsSampleLine a b text) (ha : Text.toNat a < UInt64.size)
      (hb : UInt64.size ≤ Text.toNat b) : Oversized text b
  | success {a b c : Text} (h : IsLookupLine 'S' a b c text) (hc : UInt64.size ≤ Text.toNat c) :
      Oversized text c
  | failure {a b c : Text} (h : IsLookupLine 'F' a b c text) (hc : UInt64.size ≤ Text.toNat c) :
      Oversized text c

/-- What a line yields if all its numbers that are kept fit in 64 bits. -/
inductive Yields (text : Text) : Findings → Prop where
  | sample {a b : Text} {timestamp value : UInt64} (h : IsSampleLine a b text)
      (ha : Text.toNat a = timestamp.toNat) (hb : Text.toNat b = value.toNat) :
      Yields text { sample := some { timestamp, value } }
  | success {a b c : Text} {latency : UInt64} (h : IsLookupLine 'S' a b c text)
      (hc : Text.toNat c = latency.toNat) : Yields text { success := some latency }
  | failure {a b c : Text} {latency : UInt64} (h : IsLookupLine 'F' a b c text)
      (hc : Text.toNat c = latency.toNat) : Yields text { failure := some latency }
  | nothing (hb : ¬∃ a b, IsSampleLine a b text) (hs : ¬∃ a b c, IsLookupLine 'S' a b c text)
      (hf : ¬∃ a b c, IsLookupLine 'F' a b c text) : Yields text .nothing

theorem isSampleLine_iff {a b text : Text} :
    IsSampleLine a b text ↔ IsRecord .bandwidth [a, b] text := by
  constructor
  · intro h
    obtain ⟨rest, ha, hb, he, rfl⟩ := h
    exact ⟨rfl, by simp [ha, hb], rest, he, by simp [line, RecordKind.letter]⟩
  · intro h
    obtain ⟨-, hd, rest, he, rfl⟩ := h
    exact ⟨rest, hd a (by simp), hd b (by simp), he, by simp [line, RecordKind.letter]⟩

theorem isLookupLine_iff (kind : RecordKind) (hk : kind.arity = 3) {a b c text : Text} :
    IsLookupLine kind.letter a b c text ↔ IsRecord kind [a, b, c] text := by
  constructor
  · intro h
    obtain ⟨rest, ha, hb, hc, he, rfl⟩ := h
    exact ⟨hk.symm, by simp [ha, hb, hc], rest, he, by simp [line]⟩
  · intro h
    obtain ⟨-, hd, rest, he, rfl⟩ := h
    exact ⟨rest, hd a (by simp), hd b (by simp), hd c (by simp), he, by simp [line]⟩

/-- A line is of one of the three kinds, or it has no decomposition. -/
theorem record?_cases (text : Text) :
    (∃ a b, IsSampleLine a b text) ∨ (∃ a b c, IsLookupLine 'S' a b c text) ∨
      (∃ a b c, IsLookupLine 'F' a b c text) ∨ record? text = none := by
  cases h : record? text with
  | none => exact Or.inr (Or.inr (Or.inr rfl))
  | some p =>
    obtain ⟨kind, runs⟩ := p
    have hr := record?_eq_some_iff.mp h
    cases kind with
    | bandwidth =>
      obtain ⟨a, b, rfl⟩ := List.length_eq_two.mp hr.arity
      exact Or.inl ⟨a, b, isSampleLine_iff.mpr hr⟩
    | success =>
      obtain ⟨a, b, c, rfl⟩ := List.length_eq_three.mp hr.arity
      exact Or.inr (Or.inl ⟨a, b, c, (isLookupLine_iff .success rfl).mpr hr⟩)
    | failure =>
      obtain ⟨a, b, c, rfl⟩ := List.length_eq_three.mp hr.arity
      exact Or.inr (Or.inr (Or.inl ⟨a, b, c, (isLookupLine_iff .failure rfl).mpr hr⟩))

/-- A run that fits writes the word it is read as. -/
theorem word_eq_ok_iff {number : Nat} {run : Text} {w : UInt64} :
    word number run = .ok w ↔ Text.toNat run = w.toNat := by
  unfold word
  constructor
  · intro h
    split at h
    · rename_i hlt
      cases h
      rw [UInt64.toNat_ofNat', Nat.mod_eq_of_lt hlt]
    · cases h
  · intro h
    rw [h, if_pos w.toNat_lt_size, UInt64.ofNat_toNat]

/-- A run that does not fit is what the error names. -/
theorem word_eq_error_iff {number : Nat} {run : Text} {e : TranscriptError} :
    word number run = .error e ↔
      UInt64.size ≤ Text.toNat run ∧ e = .numberTooLarge number run := by
  unfold word
  split
  · rename_i hlt
    simp [Nat.not_le.mpr hlt]
  · rename_i hlt
    simp [Nat.not_lt.mp hlt, eq_comm]

/-- A line about one number is accepted if the number fits. -/
theorem word_map_eq_ok_iff {number : Nat} {run : Text} {g : UInt64 → Findings} {f : Findings} :
    (word number run).map g = .ok f ↔ ∃ w : UInt64, Text.toNat run = w.toNat ∧ f = g w := by
  constructor
  · intro h
    cases hw : word number run with
    | error e => rw [hw] at h; cases h
    | ok w =>
      rw [hw] at h
      cases h
      exact ⟨w, word_eq_ok_iff.mp hw, rfl⟩
  · intro h
    obtain ⟨w, hw, rfl⟩ := h
    rw [word_eq_ok_iff.mpr hw]
    rfl

/-- A line about one number is refused if the number does not fit. -/
theorem word_map_eq_error_iff {number : Nat} {run : Text} {g : UInt64 → Findings}
    {e : TranscriptError} :
    (word number run).map g = .error e ↔
      UInt64.size ≤ Text.toNat run ∧ e = .numberTooLarge number run := by
  rw [← word_eq_error_iff]
  constructor
  · intro h
    cases hw : word number run with
    | error e' => rw [hw] at h; cases h; rfl
    | ok w => rw [hw] at h; cases h
  · intro h
    rw [h]
    rfl

end Record

open Record

/-- What a record line yields. -/
theorem ofLine_of_isRecord {kind : RecordKind} {runs : List Text} {text : Text}
    (h : IsRecord kind runs text) (number : Nat) :
    Findings.ofLine number text = Record.findings number kind runs := by
  rw [ofLine_eq_record?, record?_eq_some_iff.mpr h]

/-- What a bandwidth sample yields. -/
theorem ofLine_sampleLine {number : Nat} {a b text : Text} (h : IsSampleLine a b text) :
    Findings.ofLine number text = (word number a).bind fun timestamp =>
      (word number b).map fun value => { sample := some { timestamp, value } } := by
  rw [ofLine_of_isRecord (isSampleLine_iff.mp h)]
  simp only [findings, bind, pure, Except.bind]
  cases word number a <;> cases word number b <;> rfl

/-- What a lookup that succeeded yields. -/
theorem ofLine_successLine {number : Nat} {a b c text : Text} (h : IsLookupLine 'S' a b c text) :
    Findings.ofLine number text =
      (word number c).map fun latency => { success := some latency } := by
  rw [ofLine_of_isRecord ((isLookupLine_iff .success rfl).mp h)]
  cases hc : word number c <;> simp only [findings, hc] <;> rfl

/-- What a lookup that failed yields. -/
theorem ofLine_failureLine {number : Nat} {a b c text : Text} (h : IsLookupLine 'F' a b c text) :
    Findings.ofLine number text =
      (word number c).map fun latency => { failure := some latency } := by
  rw [ofLine_of_isRecord ((isLookupLine_iff .failure rfl).mp h)]
  cases hc : word number c <;> simp only [findings, hc] <;> rfl

/-- A line without a decomposition yields nothing, and it is of none of the kinds. -/
theorem ofLine_of_record?_eq_none {text : Text} (h : record? text = none) (number : Nat) :
    Findings.ofLine number text = .ok .nothing ∧ Yields text .nothing := by
  have hn : ∀ kind runs, ¬IsRecord kind runs text := by
    intro kind runs hr
    rw [record?_eq_some_iff.mpr hr] at h
    cases h
  refine ⟨by rw [ofLine_eq_record?, h], .nothing ?_ ?_ ?_⟩
  · intro hl
    obtain ⟨a, b, hl⟩ := hl
    exact hn _ _ (isSampleLine_iff.mp hl)
  · intro hl
    obtain ⟨a, b, c, hl⟩ := hl
    exact hn _ _ ((isLookupLine_iff .success rfl).mp hl)
  · intro hl
    obtain ⟨a, b, c, hl⟩ := hl
    exact hn _ _ ((isLookupLine_iff .failure rfl).mp hl)

/-! ## 6. Exactness -/

/-- **A line is accepted with exactly the findings that the grammar gives it.** -/
theorem ofLine_eq_ok_iff {number : Nat} {text : Text} {f : Findings} :
    Findings.ofLine number text = .ok f ↔ Yields text f := by
  constructor
  · intro h
    rcases record?_cases text with ⟨a, b, hl⟩ | ⟨a, b, c, hl⟩ | ⟨a, b, c, hl⟩ | hn
    · rw [ofLine_sampleLine hl] at h
      cases ha : word number a with
      | error e => rw [ha] at h; cases h
      | ok timestamp =>
        cases hb : word number b with
        | error e => rw [ha, hb] at h; cases h
        | ok value =>
          rw [ha, hb] at h
          cases h
          exact .sample hl (word_eq_ok_iff.mp ha) (word_eq_ok_iff.mp hb)
    · rw [ofLine_successLine hl, word_map_eq_ok_iff] at h
      obtain ⟨latency, hc, rfl⟩ := h
      exact .success hl hc
    · rw [ofLine_failureLine hl, word_map_eq_ok_iff] at h
      obtain ⟨latency, hc, rfl⟩ := h
      exact .failure hl hc
    · obtain ⟨he, hy⟩ := ofLine_of_record?_eq_none hn number
      rw [he] at h
      cases h
      exact hy
  · intro h
    cases h with
    | sample h ha hb =>
      rw [ofLine_sampleLine h, word_eq_ok_iff.mpr ha, word_eq_ok_iff.mpr hb]
      rfl
    | success h hc => rw [ofLine_successLine h, word_map_eq_ok_iff.mpr ⟨_, hc, rfl⟩]
    | failure h hc => rw [ofLine_failureLine h, word_map_eq_ok_iff.mpr ⟨_, hc, rfl⟩]
    | nothing hb hs hf =>
      rcases record?_cases text with hl | hl | hl | hn
      · exact absurd hl hb
      · exact absurd hl hs
      · exact absurd hl hf
      · exact (ofLine_of_record?_eq_none hn number).1

/-- **A line is refused for exactly the first number that is kept and does not fit.** -/
theorem ofLine_eq_error_iff {number : Nat} {text : Text} {e : TranscriptError} :
    Findings.ofLine number text = .error e ↔
      ∃ digits, Oversized text digits ∧ e = .numberTooLarge number digits := by
  constructor
  · intro h
    rcases record?_cases text with ⟨a, b, hl⟩ | ⟨a, b, c, hl⟩ | ⟨a, b, c, hl⟩ | hn
    · rw [ofLine_sampleLine hl] at h
      cases ha : word number a with
      | error e' =>
        rw [ha] at h
        cases h
        obtain ⟨hsize, rfl⟩ := word_eq_error_iff.mp ha
        exact ⟨a, .timestamp hl hsize, rfl⟩
      | ok timestamp =>
        cases hb : word number b with
        | error e' =>
          rw [ha, hb] at h
          cases h
          obtain ⟨hsize, rfl⟩ := word_eq_error_iff.mp hb
          exact ⟨b, .value hl (word_eq_ok_iff.mp ha ▸ timestamp.toNat_lt_size) hsize, rfl⟩
        | ok value => rw [ha, hb] at h; cases h
    · rw [ofLine_successLine hl, word_map_eq_error_iff] at h
      exact ⟨c, .success hl h.1, h.2⟩
    · rw [ofLine_failureLine hl, word_map_eq_error_iff] at h
      exact ⟨c, .failure hl h.1, h.2⟩
    · rw [(ofLine_of_record?_eq_none hn number).1] at h
      cases h
  · intro h
    obtain ⟨digits, h, rfl⟩ := h
    cases h with
    | timestamp h ha =>
      rw [ofLine_sampleLine h, word_eq_error_iff.mpr ⟨ha, rfl⟩]
      rfl
    | value h ha hb =>
      rw [ofLine_sampleLine h, word, if_pos ha, word_eq_error_iff.mpr ⟨hb, rfl⟩]
      rfl
    | success h hc => rw [ofLine_successLine h, word_map_eq_error_iff.mpr ⟨hc, rfl⟩]
    | failure h hc => rw [ofLine_failureLine h, word_map_eq_error_iff.mpr ⟨hc, rfl⟩]

/-- **Reading a line accepts exactly the documented grammar.** Every line yields its sample, its
    success or its failure, is refused for its first number that is kept and does not fit in 64
    bits, or yields nothing. -/
theorem ofLine_grammar (number : Nat) (text : Text) :
    (∀ timestamp value : UInt64,
      (∃ f, Findings.ofLine number text = .ok f ∧ f.sample = some { timestamp, value }) ↔
        ∃ a b, IsSampleLine a b text ∧
          Text.toNat a = timestamp.toNat ∧ Text.toNat b = value.toNat) ∧
    (∀ latency : UInt64,
      (∃ f, Findings.ofLine number text = .ok f ∧ f.success = some latency) ↔
        ∃ a b c, IsLookupLine 'S' a b c text ∧ Text.toNat c = latency.toNat) ∧
    (∀ latency : UInt64,
      (∃ f, Findings.ofLine number text = .ok f ∧ f.failure = some latency) ↔
        ∃ a b c, IsLookupLine 'F' a b c text ∧ Text.toNat c = latency.toNat) ∧
    (∀ e, Findings.ofLine number text = .error e ↔
      ∃ digits, Oversized text digits ∧ e = .numberTooLarge number digits) ∧
    (Findings.ofLine number text = .ok .nothing ↔
      (¬∃ a b, IsSampleLine a b text) ∧ (¬∃ a b c, IsLookupLine 'S' a b c text) ∧
        ¬∃ a b c, IsLookupLine 'F' a b c text) := by
  refine ⟨fun timestamp value => ?_, fun latency => ?_, fun latency => ?_,
    fun e => ofLine_eq_error_iff, ?_⟩
  · constructor
    · intro h
      obtain ⟨f, hf, hs⟩ := h
      cases ofLine_eq_ok_iff.mp hf with
      | sample h ha hb =>
        obtain ⟨rfl, rfl⟩ := Sample.mk.inj (Option.some.inj hs)
        exact ⟨_, _, h, ha, hb⟩
      | success => cases hs
      | failure => cases hs
      | nothing => cases hs
    · intro h
      obtain ⟨a, b, h, ha, hb⟩ := h
      exact ⟨_, ofLine_eq_ok_iff.mpr (.sample h ha hb), rfl⟩
  · constructor
    · intro h
      obtain ⟨f, hf, hs⟩ := h
      cases ofLine_eq_ok_iff.mp hf with
      | success h hc =>
        obtain rfl := Option.some.inj hs
        exact ⟨_, _, _, h, hc⟩
      | sample => cases hs
      | failure => cases hs
      | nothing => cases hs
    · intro h
      obtain ⟨a, b, c, h, hc⟩ := h
      exact ⟨_, ofLine_eq_ok_iff.mpr (.success h hc), rfl⟩
  · constructor
    · intro h
      obtain ⟨f, hf, hs⟩ := h
      cases ofLine_eq_ok_iff.mp hf with
      | failure h hc =>
        obtain rfl := Option.some.inj hs
        exact ⟨_, _, _, h, hc⟩
      | sample => cases hs
      | success => cases hs
      | nothing => cases hs
    · intro h
      obtain ⟨a, b, c, h, hc⟩ := h
      exact ⟨_, ofLine_eq_ok_iff.mpr (.failure h hc), rfl⟩
  · rw [ofLine_eq_ok_iff]
    constructor
    · intro h
      generalize hn : Findings.nothing = f at h
      cases h with
      | sample => cases hn
      | success => cases hn
      | failure => cases hn
      | nothing hb hs hf => exact ⟨hb, hs, hf⟩
    · intro h
      obtain ⟨hb, hs, hf⟩ := h
      exact .nothing hb hs hf

end LookupLog
