import LookupLog.Proofs.Transcript.Reading

/-!
# Appending to a log

A log grows at its end. If it has no unfinished line, reading the longer log is reading the old part
and then the new one: what is found in the new part comes behind what was found in the old one, and
an error in it keeps everything but the number of its line.

* `segments_append`: the lines of the longer log are those of both parts;
* `readSegment_moved`: the place of a line decides nothing but what its error names;
* `foldlM_addSegment_append`: so a walk behind a transcript is a walk from the beginning, with the
  transcript in front of what it finds;
* `ofOpened_append`: hence reading is a homomorphism.
-/

namespace LookupLog

/-! ## 1. Transcripts one behind the other -/

namespace Transcript

/-- Two transcripts as one, the second behind the first. -/
def append (t u : Transcript) : Transcript where
  bandwidth := t.bandwidth ++ u.bandwidth
  successes := t.successes ++ u.successes
  failures := t.failures ++ u.failures
  linesRead := t.linesRead + u.linesRead

instance : Append Transcript := ⟨append⟩

theorem append_def (t u : Transcript) : t ++ u = t.append u := rfl

@[simp] theorem linesRead_append (t u : Transcript) :
    (t ++ u).linesRead = t.linesRead + u.linesRead := rfl

@[simp] theorem empty_append (t : Transcript) : empty ++ t = t := by
  simp [append_def, append, empty]

@[simp] theorem append_empty (t : Transcript) : t ++ empty = t := by
  simp [append_def, append, empty]

/-- One more line comes behind both. -/
theorem add_append (t u : Transcript) (f : Findings) : (t ++ u).add f = t ++ u.add f := by
  simp [append_def, append, add, Nat.add_assoc]

end Transcript

/-! ## 2. Errors elsewhere -/

/-- The error that the same line gives in a file at another path, with some more lines before it. -/
def TranscriptError.moved (path : Text) (lines : Nat) : TranscriptError → TranscriptError
  | cannotOpen _ cause => cannotOpen path cause
  | cannotRead _ line cause => cannotRead path (lines + line) cause
  | numberTooLarge line digits => numberTooLarge (lines + line) digits

/-- The number of a line decides nothing but what its error names. -/
theorem ofLine_moved (path : Text) (lines number : Nat) (text : Text) :
    Findings.ofLine (lines + number) text =
      (Findings.ofLine number text).mapError (.moved path lines) := by
  cases h : Findings.ofLine number text with
  | error e =>
    obtain ⟨digits, ho, rfl⟩ := ofLine_eq_error_iff.mp h
    exact ofLine_eq_error_iff.mpr ⟨digits, ho, rfl⟩
  | ok f => exact ofLine_eq_ok_iff.mpr (ofLine_eq_ok_iff.mp h)

namespace Transcript

/-! ## 3. One line, and any number of them -/

section Walk

variable (path path' : Text)

/-- **The place of a line decides nothing but what its error names.** -/
theorem readSegment_moved (lines number : Nat) (segment : Bytes) :
    readSegment path (lines + number) segment =
      (readSegment path' number segment).mapError (.moved path lines) := by
  unfold readSegment
  cases Utf8.decode? segment with
  | none => rfl
  | some line => exact ofLine_moved path lines number (lineText line)

/-- One line behind two transcripts is a line behind the second one. -/
theorem addSegment_append (t u : Transcript) (segment : Bytes) :
    addSegment path (t ++ u) segment =
      ((addSegment path' u segment).mapError (.moved path t.linesRead)).map (t ++ ·) := by
  unfold addSegment
  rw [linesRead_append, Nat.add_assoc, readSegment_moved path path']
  cases readSegment path' (u.linesRead + 1) segment with
  | error e => rfl
  | ok f => exact congrArg Except.ok (add_append t u f)

/-- **A walk behind a transcript is a walk without it**, with the transcript in front of what is
    found and its lines in front of the line of an error. -/
theorem foldlM_addSegment_append (t u : Transcript) (segments : List Bytes) :
    segments.foldlM (addSegment path) (t ++ u) =
      ((segments.foldlM (addSegment path') u).mapError (.moved path t.linesRead)).map (t ++ ·) := by
  induction segments generalizing u with
  | nil => rfl
  | cons segment later ih =>
    rw [List.foldlM_cons, List.foldlM_cons, addSegment_append path path']
    cases addSegment path' u segment with
    | error e => rfl
    | ok u' => exact ih u'

/-- At another path a walk finds the same, and an error names that path. -/
theorem foldlM_addSegment_moved (segments : List Bytes) :
    segments.foldlM (addSegment path) empty =
      (segments.foldlM (addSegment path') empty).mapError (.moved path 0) := by
  have h := foldlM_addSegment_append path path' empty empty segments
  rw [empty_append] at h
  rw [h]
  cases segments.foldlM (addSegment path') empty with
  | error e => rfl
  | ok t => exact congrArg Except.ok (empty_append t)

end Walk

/-! ## 4. Files -/

/-- **Reading is a homomorphism.** Let a content be appended to another one without an unfinished
    line, and let each of the three stand at some path. An error in the first part is the error of
    the whole. Otherwise an error in the second part is, with the lines of the first part before its
    own. If both parts can be read, what is found in the second part comes behind what was found in
    the first, and the lines of both are counted. -/
theorem ofOpened_append {content : Bytes}
    (h : content = [] ∨ content.getLast? = some lineFeed) (more : Bytes)
    (path first second : Text) :
    (ofOpened path (.ok (.file (content ++ more)))).1 =
      match (ofOpened first (.ok (.file content))).1 with
      | .error e => .error (e.moved path 0)
      | .ok t =>
        match (ofOpened second (.ok (.file more))).1 with
        | .error e => .error (e.moved path t.linesRead)
        | .ok u => .ok {
            bandwidth := t.bandwidth ++ u.bandwidth
            successes := t.successes ++ u.successes
            failures := t.failures ++ u.failures
            linesRead := t.linesRead + u.linesRead } := by
  simp only [ofOpened_file_eq_foldlM]
  rw [segments_append h, List.foldlM_append, foldlM_addSegment_moved path first]
  cases (segments content).foldlM (addSegment first) empty with
  | error e => rfl
  | ok t =>
    have hm := foldlM_addSegment_append path second t empty (segments more)
    rw [append_empty] at hm
    refine hm.trans ?_
    cases (segments more).foldlM (addSegment second) empty with
    | error e => rfl
    | ok u => rfl

/-- A line that is cut off behind one that is whole: its error names the second line, and the third
    one of the whole. -/
theorem ofOpened_append_truncated :
    let log := Utf8.encode "[E] T 1 100\n".toList
    let more := Utf8.encode "[E] S 1 2 50\n".toList ++ [0xE2, 0x82]
    (log = [] ∨ log.getLast? = some lineFeed) ∧
    (ofOpened [] (.ok (.file log))).1 = .ok { bandwidth := [⟨1, 100⟩], linesRead := 1 } ∧
    (ofOpened [] (.ok (.file more))).1 = .error (.cannotRead [] 2 .notUtf8) ∧
    (ofOpened "all".toList (.ok (.file (log ++ more)))).1 =
      .error (.cannotRead "all".toList 3 .notUtf8) := by
  intro log more
  have h : log = [] ∨ log.getLast? = some lineFeed := by decide +kernel
  have hl : (ofOpened [] (.ok (.file log))).1 =
      .ok { bandwidth := [⟨1, 100⟩], linesRead := 1 } := by decide +kernel
  have hm : (ofOpened [] (.ok (.file more))).1 = .error (.cannotRead [] 2 .notUtf8) := by
    decide +kernel
  refine ⟨h, hl, hm, ?_⟩
  rw [ofOpened_append h more "all".toList [] [], hl, hm]
  rfl

end Transcript

end LookupLog
