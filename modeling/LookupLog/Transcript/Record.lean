import LookupLog.Transcript.Basic

/-!
# Record lines

A record line begins with `[E]`, the letter of its kind and its numbers, each after one blank:

    [E] T timestamp value
    [E] S node target latency
    [E] F node target latency

Numbers are runs of ASCII digits of any length; whatever follows the last one is ignored. Only the
numbers that are kept have to fit in 64 bits, the earlier one first.
-/

namespace LookupLog

/-- The kinds of record. -/
inductive RecordKind where
  | bandwidth
  | success
  | failure
  deriving DecidableEq

namespace RecordKind

/-- The letter of a kind. -/
def letter : RecordKind → Char
  | bandwidth => 'T'
  | success => 'S'
  | failure => 'F'

/-- The kind of a letter. -/
def ofLetter? : Char → Option RecordKind
  | 'T' => some bandwidth
  | 'S' => some success
  | 'F' => some failure
  | _ => none

/-- A letter belongs to a kind exactly if it is that kind's letter. -/
theorem ofLetter?_eq_some_iff {c : Char} {kind : RecordKind} :
    ofLetter? c = some kind ↔ c = kind.letter := by
  constructor
  · intro h
    unfold ofLetter? at h
    split at h <;> simp_all [letter] <;> subst h <;> rfl
  · rintro rfl
    cases kind <;> rfl

/-- How many numbers a record has. -/
def arity : RecordKind → Nat
  | bandwidth => 2
  | success => 3
  | failure => 3

end RecordKind

namespace Record

/-- The kind of a record line and what follows the blank after its letter. -/
def header? : Text → Option (RecordKind × Text)
  | '[' :: 'E' :: ']' :: ' ' :: letter :: ' ' :: body =>
    (RecordKind.ofLetter? letter).map fun kind => (kind, body)
  | _ => none

/-- The first `count` runs of digits of a text, with one blank between two of them. -/
def runs? : (count : Nat) → Text → Option (List Text)
  | 0, _ => some []
  | 1, text =>
    let run := text.takeWhile Char.isDigit
    if run = [] then none else some [run]
  | count + 2, text =>
    let run := text.takeWhile Char.isDigit
    if run = [] then none
    else match text.dropWhile Char.isDigit with
      | ' ' :: rest => (runs? (count + 1) rest).map (run :: ·)
      | _ => none

/-- The number that a run of digits writes, if it fits in 64 bits. -/
def word (line : Nat) (run : Text) : Except TranscriptError UInt64 :=
  if Text.toNat run < UInt64.size then .ok (UInt64.ofNat (Text.toNat run))
  else .error (.numberTooLarge line run)

/-- What a record of a kind with the given runs yields. -/
def findings (line : Nat) : RecordKind → List Text → Except TranscriptError Findings
  | .bandwidth, [timestamp, value] => do
    let timestamp ← word line timestamp
    let value ← word line value
    return { sample := some { timestamp, value } }
  | .success, [_, _, latency] => do
    let latency ← word line latency
    return { success := some latency }
  | .failure, [_, _, latency] => do
    let latency ← word line latency
    return { failure := some latency }
  | _, _ => .ok .nothing

end Record

/-- What the line with a given number yields: its record, if it has one. -/
def Findings.ofLine (line : Nat) (text : Text) : Except TranscriptError Findings :=
  match Record.header? text with
  | none => .ok .nothing
  | some (kind, body) =>
    match Record.runs? kind.arity body with
    | none => .ok .nothing
    | some runs => Record.findings line kind runs

end LookupLog
