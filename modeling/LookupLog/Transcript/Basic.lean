import LookupLog.Text.Basic
import LookupLog.Files.Error

/-!
# Transcripts

What a run of the simulator recorded: bandwidth samples, the latencies of the lookups that succeeded
and the epochs spent on those that failed, each in the order of the file. One line yields
`Findings`; a transcript is what the findings of its lines add up to (`ofFindings`, `add`).
-/

namespace LookupLog

/-! ## 1. Records -/

/-- A bandwidth sample: the bytes transferred in the interval that ends at a time. -/
structure Sample where
  timestamp : UInt64
  value : UInt64
  deriving DecidableEq

/-- The records found on one line. -/
structure Findings where
  sample : Option Sample := none
  success : Option UInt64 := none
  failure : Option UInt64 := none
  deriving DecidableEq

namespace Findings

/-- The findings of a line without a record. -/
def nothing : Findings := {}

/-- How many records were found. -/
def count (f : Findings) : Nat :=
  f.sample.toList.length + f.success.toList.length + f.failure.toList.length

/-- No record was found. -/
def isEmpty (f : Findings) : Bool :=
  f.count = 0

/-- Only the findings of a line without a record are empty. -/
theorem isEmpty_iff {f : Findings} : f.isEmpty = true ↔ f = nothing := by
  obtain ⟨b, s, x⟩ := f
  cases b <;> cases s <;> cases x <;> simp [isEmpty, count, nothing]

end Findings

/-! ## 2. Transcripts -/

/-- The records of a transcript by kind, in the order of its lines. -/
structure Transcript where
  bandwidth : List Sample := []
  successes : List UInt64 := []
  failures : List UInt64 := []
  /-- How many lines were read, with or without a record. -/
  linesRead : Nat := 0
  deriving DecidableEq

namespace Transcript

/-- A transcript without lines. -/
def empty : Transcript := {}

/-- The transcript with the findings of one more line at its end. -/
def add (t : Transcript) (f : Findings) : Transcript where
  bandwidth := t.bandwidth ++ f.sample.toList
  successes := t.successes ++ f.success.toList
  failures := t.failures ++ f.failure.toList
  linesRead := t.linesRead + 1

/-- The transcript of lines with given findings. -/
def ofFindings (fs : List Findings) : Transcript where
  bandwidth := fs.filterMap Findings.sample
  successes := fs.filterMap Findings.success
  failures := fs.filterMap Findings.failure
  linesRead := fs.length

/-- The values of the bandwidth samples. -/
def bandwidthValues (t : Transcript) : List UInt64 :=
  t.bandwidth.map Sample.value

/-- How many lookups ended, one way or the other. -/
def outcomeCount (t : Transcript) : Nat :=
  t.successes.length + t.failures.length

@[simp] theorem ofFindings_nil : ofFindings [] = empty := rfl

/-- One more line adds its findings. -/
theorem ofFindings_concat (fs : List Findings) (f : Findings) :
    ofFindings (fs ++ [f]) = (ofFindings fs).add f := by
  obtain ⟨b, s, x⟩ := f
  simp only [ofFindings, add, List.filterMap_append, List.length_append, List.length_singleton]
  cases b <;> cases s <;> cases x <;> simp

/-- Adding findings one by one to a transcript appends them. -/
theorem foldl_add_ofFindings (gs fs : List Findings) :
    fs.foldl add (ofFindings gs) = ofFindings (gs ++ fs) := by
  induction fs generalizing gs with
  | nil => simp
  | cons f fs ih =>
    rw [List.foldl_cons, ← ofFindings_concat, ih, List.append_assoc, List.singleton_append]

/-- **A transcript is the left fold of the findings of its lines.** -/
theorem ofFindings_eq_foldl (fs : List Findings) : ofFindings fs = fs.foldl add empty :=
  (foldl_add_ofFindings [] fs).symm

end Transcript

/-! ## 3. Errors -/

/-- Why a transcript cannot be read. -/
inductive TranscriptError where
  /-- The file at a path cannot be opened. -/
  | cannotOpen (path : Text) (cause : FileError)
  /-- A line of the file cannot be read. -/
  | cannotRead (path : Text) (line : Nat) (cause : FileError)
  /-- The digits of a number on a line do not fit in 64 bits. -/
  | numberTooLarge (line : Nat) (digits : Text)
  deriving DecidableEq

namespace TranscriptError

/-- The wording of an error. -/
def message : TranscriptError → Text
  | cannotOpen path _ => "Failed to open transcript ".toList ++ path
  | cannotRead path line _ =>
    "Failed to read transcript ".toList ++ path ++ " at line ".toList ++ Text.ofNat line
  | numberTooLarge line digits =>
    "Invalid integer `".toList ++ digits ++ "` on line ".toList ++ Text.ofNat line

end TranscriptError

end LookupLog
