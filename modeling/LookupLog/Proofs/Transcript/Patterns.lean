import LookupLog.Proofs.Transcript.Grammar

/-!
# One pattern at a time

A line can be tried as a record of each kind in turn, every time as if there were no other kind, and
all that is found be put together (`Findings.ofPatterns`). Nothing in this forbids that a line is a
record of two kinds; that it never is one follows from the patterns:

* `Record.pattern?_eq_some_iff`: a pattern matches exactly the record lines of its kind;
* `ofPatterns_eq_ofLine`: since a line is of at most one kind, trying every kind finds what trying
  the one that the header names finds;
* `Findings.count_le_one`: so there is never more than one record on a line.
-/

namespace LookupLog

/-! ## 1. Patterns -/

namespace Record

/-- The numbers of a line that is tried as a record of one kind. -/
def pattern? (kind : RecordKind) (text : Text) : Option (List Text) :=
  (Text.after? ("[E] ".toList ++ [kind.letter, ' ']) text).bind (runs? kind.arity)

/-- What a line yields that is tried as a record of one kind. -/
def tryKind (number : Nat) (text : Text) (kind : RecordKind) : Except TranscriptError Findings :=
  match pattern? kind text with
  | none => .ok .nothing
  | some runs => findings number kind runs

/-- **A pattern matches exactly the record lines of its kind.** -/
theorem pattern?_eq_some_iff {kind : RecordKind} {text : Text} {runs : List Text} :
    pattern? kind text = some runs ↔ record? text = some (kind, runs) := by
  constructor
  · intro h
    obtain ⟨body, hb, hr⟩ := Option.bind_eq_some_iff.mp h
    have hh : header? text = some (kind, body) :=
      header?_eq_some_iff.mpr (Text.after?_eq_some_iff.mp hb)
    simp only [record?, hh, Option.bind_some, hr, Option.map_some]
  · intro h
    obtain ⟨⟨k, body⟩, hh, hb⟩ := Option.bind_eq_some_iff.mp h
    obtain ⟨rs, hr, he⟩ := Option.map_eq_some_iff.mp hb
    obtain ⟨rfl, rfl⟩ := Prod.mk.inj he
    have ha : Text.after? ("[E] ".toList ++ [k.letter, ' ']) text = some body :=
      Text.after?_eq_some_iff.mpr (header?_eq_some_iff.mp hh)
    exact Option.bind_eq_some_iff.mpr ⟨body, ha, hr⟩

/-- A line without a decomposition yields nothing, whatever it is tried as. -/
theorem tryKind_of_none {text : Text} (h : record? text = none) (number : Nat)
    (kind : RecordKind) : tryKind number text kind = .ok .nothing := by
  have hp : pattern? kind text = none := by
    refine Option.eq_none_iff_forall_ne_some.mpr fun runs hr => ?_
    rw [pattern?_eq_some_iff.mp hr] at h
    cases h
  rw [tryKind, hp]

/-- A record line yields its record as a record of its kind. -/
theorem tryKind_self {text : Text} {kind : RecordKind} {runs : List Text}
    (h : record? text = some (kind, runs)) (number : Nat) :
    tryKind number text kind = findings number kind runs := by
  rw [tryKind, pattern?_eq_some_iff.mpr h]

/-- And nothing as a record of another kind. -/
theorem tryKind_of_ne {text : Text} {kind other : RecordKind} {runs : List Text}
    (h : record? text = some (kind, runs)) (hne : other ≠ kind) (number : Nat) :
    tryKind number text other = .ok .nothing := by
  have hp : pattern? other text = none := by
    refine Option.eq_none_iff_forall_ne_some.mpr fun rs hr => ?_
    rw [pattern?_eq_some_iff.mp hr] at h
    exact hne (Prod.mk.inj (Option.some.inj h)).1
  rw [tryKind, hp]

end Record

/-! ## 2. Every pattern on a line -/

namespace Findings

/-- What a line yields if every kind of record is tried on it. -/
def ofPatterns (number : Nat) (text : Text) : Except TranscriptError Findings := do
  let bandwidth ← Record.tryKind number text .bandwidth
  let success ← Record.tryKind number text .success
  let failure ← Record.tryKind number text .failure
  return { sample := bandwidth.sample, success := success.success, failure := failure.failure }

/-- The part of some findings that is of one kind. -/
def only : RecordKind → Findings → Findings
  | .bandwidth, f => { sample := f.sample }
  | .success, f => { success := f.success }
  | .failure, f => { failure := f.failure }

end Findings

/-- The record of a kind has no part of another kind. -/
theorem Record.only_findings (number : Nat) (kind : RecordKind) (runs : List Text) :
    (findings number kind runs >>= fun f => .ok (f.only kind)) = findings number kind runs := by
  unfold findings
  split
  · rename_i timestamp value
    cases word number timestamp with
    | error e => rfl
    | ok t => cases word number value <;> rfl
  · rename_i latency
    cases word number latency <;> rfl
  · rename_i latency
    cases word number latency <;> rfl
  · cases kind <;> rfl

open Record

/-- **Trying every kind finds what trying the one that the header names finds.** -/
theorem ofPatterns_eq_ofLine (number : Nat) (text : Text) :
    Findings.ofPatterns number text = Findings.ofLine number text := by
  unfold Findings.ofPatterns
  cases h : record? text with
  | none =>
    rw [tryKind_of_none h, tryKind_of_none h, tryKind_of_none h, ofLine_eq_record?, h]
    rfl
  | some p =>
    obtain ⟨kind, runs⟩ := p
    -- the other two kinds yield nothing, and all of the record is of its own kind
    have hl : Findings.ofLine number text = findings number kind runs := by
      rw [ofLine_eq_record?, h]
    have ho : ∀ other, other ≠ kind → tryKind number text other = .ok .nothing :=
      fun other hne => tryKind_of_ne h hne number
    rw [hl]
    cases kind with
    | bandwidth =>
      rw [tryKind_self h, ho .success (by decide), ho .failure (by decide)]
      exact only_findings number .bandwidth runs
    | success =>
      rw [tryKind_self h, ho .bandwidth (by decide), ho .failure (by decide)]
      exact only_findings number .success runs
    | failure =>
      rw [tryKind_self h, ho .bandwidth (by decide), ho .success (by decide)]
      exact only_findings number .failure runs

/-- **There is at most one record on a line.** -/
theorem Findings.count_le_one {number : Nat} {text : Text} {f : Findings}
    (h : ofLine number text = .ok f) : f.count ≤ 1 := by
  cases ofLine_eq_ok_iff.mp h with
  | sample => exact Nat.le_refl 1
  | success => exact Nat.le_refl 1
  | failure => exact Nat.le_refl 1
  | nothing => exact Nat.zero_le 1

end LookupLog
