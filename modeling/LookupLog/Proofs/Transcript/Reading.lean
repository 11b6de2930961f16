import LookupLog.Proofs.Transcript.Grammar
import LookupLog.Proofs.Transcript.Segments
import LookupLog.Transcript.Reading

/-!
# A transcript as a fold over its lines

The reader keeps what is left of the content and a counter; here the pass is related to the lines of
the whole content.

* `LineReader.next_segment`: one step of the reader takes one segment, with three outcomes;
* `readFrom_eq_readSegments`: so a pass is a walk over the segments (`readSegments`), from any
  state of the reader;
* `ofOpened_file_eq_foldlM`: and a transcript is their fold, which the first error ends;
* `ofOpened_of_reads`, `ofOpened_of_fails`: which transcript that is if every line can be read, and
  which error otherwise.
-/

namespace LookupLog

/-! ## 1. The text of a line -/

/-- The text of a line without its terminator: a line feed, or a carriage return and a line feed.
    Any other carriage return belongs to the text. -/
def lineText (line : Text) : Text :=
  if line.getLast? = some '\n' then Text.dropLastIf '\r' line.dropLast else line

/-- Without a line feed at its end the reader drops a carriage return that belongs to the text, but
    that changes nothing of what the line yields. -/
theorem ofLine_stripTerminator (number : Nat) (line : Text) :
    Findings.ofLine number (stripTerminator line) = Findings.ofLine number (lineText line) := by
  unfold stripTerminator lineText
  by_cases hl : line.getLast? = some '\n'
  · rw [if_pos hl, Text.dropLastIf.eq_def '\n', if_pos hl]
  · rw [if_neg hl, Text.dropLastIf.eq_def '\n', if_neg hl, ofLine_dropLastIf_carriageReturn]

/-! ## 2. One step of the reader -/

/-- At the end of the content there is no line. -/
theorem LineReader.next_nil (path : Text) (n : Nat) :
    ({ path, rest := .file [], lineNumber := n } : LineReader).next =
      (.ok none, { path, rest := .file [], lineNumber := n }) := rfl

/-- **One step takes the first segment and leaves the others**: the line has the next number, and
    only a line that is returned is counted. -/
theorem LineReader.next_segment {content segment : Bytes} {later : List Bytes}
    (h : segments content = segment :: later) (path : Text) (n : Nat) :
    ∃ rest, segments rest = later ∧
      ({ path, rest := .file content, lineNumber := n } : LineReader).next =
        match Utf8.decode? segment with
        | none =>
          (.error (.cannotRead path (n + 1) .notUtf8),
            { path, rest := .file rest, lineNumber := n })
        | some line =>
          (.ok (some { number := n + 1, text := stripTerminator line }),
            { path, rest := .file rest, lineNumber := n + 1 }) := by
  have hne : content ≠ [] := by
    rintro rfl
    cases h
  rw [segments_eq_cutLine hne] at h
  obtain ⟨hs, hl⟩ := List.cons.inj h
  refine ⟨(cutLine content).2, hl, ?_⟩
  cases content with
  | nil => exact absurd rfl hne
  | cons b bytes =>
    unfold LineReader.next
    simp only [hs]
    cases Utf8.decode? segment <;> rfl

/-! ## 3. A whole pass -/

section Pass

variable {r r' : LineReader} {done : List ReadLine}

theorem LineReader.readFrom_of_error {e : TranscriptError} (h : r.next = (.error e, r')) :
    r.readFrom done = (done.reverse, some e) := by
  rw [readFrom]
  split <;> rename_i hn <;> rw [h] at hn <;> cases hn
  rfl

theorem LineReader.readFrom_of_end (h : r.next = (.ok none, r')) :
    r.readFrom done = (done.reverse, none) := by
  rw [readFrom]
  split <;> rename_i hn <;> rw [h] at hn <;> cases hn

theorem LineReader.readFrom_of_line {line : Line} (h : r.next = (.ok (some line), r')) :
    r.readFrom done =
      match Findings.ofLine line.number line.text with
      | .error e => (done.reverse, some e)
      | .ok findings => r'.readFrom ({ line, findings } :: done) := by
  rw [readFrom]
  split <;> rename_i hn <;> rw [h] at hn <;> cases hn
  rfl

end Pass

/-- The lines of some segments, the first of which has the number after `n`, up to the first one
    that cannot be read, and its error. -/
def readSegments (path : Text) : (n : Nat) → List Bytes → List ReadLine × Option TranscriptError
  | _, [] => ([], none)
  | n, segment :: later =>
    match Utf8.decode? segment with
    | none => ([], some (.cannotRead path (n + 1) .notUtf8))
    | some text =>
      match Findings.ofLine (n + 1) (stripTerminator text) with
      | .error e => ([], some e)
      | .ok findings =>
        let (lines, e) := readSegments path (n + 1) later
        ({ line := { number := n + 1, text := stripTerminator text }, findings } :: lines, e)

/-- **A pass walks over the segments**, whatever was read before. -/
theorem readFrom_eq_readSegments (path : Text) (n : Nat) (content : Bytes) (done : List ReadLine) :
    ({ path, rest := .file content, lineNumber := n } : LineReader).readFrom done =
      (done.reverse ++ (readSegments path n (segments content)).1,
        (readSegments path n (segments content)).2) := by
  -- on the segments, since a step takes one of them
  generalize hs : segments content = all
  induction all generalizing n content done with
  | nil =>
    obtain rfl := segments_eq_nil_iff.mp hs
    rw [LineReader.readFrom_of_end (LineReader.next_nil path n)]
    simp [readSegments]
  | cons segment later ih =>
    obtain ⟨rest, hrest, hnext⟩ := LineReader.next_segment hs path n
    rw [readSegments]
    cases hd : Utf8.decode? segment with
    | none =>
      rw [hd] at hnext
      rw [LineReader.readFrom_of_error hnext]
      simp
    | some text =>
      rw [hd] at hnext
      rw [LineReader.readFrom_of_line hnext]
      cases hf : Findings.ofLine (n + 1) (stripTerminator text) with
      | error e => simp [hf]
      | ok findings => simp [hf, ih (n + 1) rest _ hrest]

/-! ## 4. The fold -/

namespace Transcript

/-- What the segment with a given number yields. -/
def readSegment (path : Text) (number : Nat) (segment : Bytes) :
    Except TranscriptError Findings :=
  match Utf8.decode? segment with
  | none => .error (.cannotRead path number .notUtf8)
  | some line => Findings.ofLine number (lineText line)

/-- The transcript with what one more segment yields. -/
def addSegment (path : Text) (t : Transcript) (segment : Bytes) :
    Except TranscriptError Transcript :=
  (readSegment path (t.linesRead + 1) segment).map t.add

/-- The transcript that a walk over segments adds up to, behind some findings. -/
theorem foldlM_addSegment (path : Text) (found : List Findings) (segments : List Bytes) :
    segments.foldlM (addSegment path) (ofFindings found) =
      match readSegments path found.length segments with
      | (_, some e) => .error e
      | (lines, none) => .ok (ofFindings (found ++ lines.map ReadLine.findings)) := by
  induction segments generalizing found with
  | nil => simp [readSegments, pure, Except.pure]
  | cons segment later ih =>
    rw [List.foldlM_cons, readSegments, addSegment, readSegment]
    have hl : (ofFindings found).linesRead = found.length := rfl
    rw [hl]
    cases Utf8.decode? segment with
    | none => rfl
    | some line =>
      simp only [ofLine_stripTerminator]
      cases Findings.ofLine (found.length + 1) (lineText line) with
      | error e => rfl
      | ok findings =>
        have ih := ih (found ++ [findings])
        rw [ofFindings_concat, List.length_append, List.length_singleton] at ih
        simp only [Except.map, bind, Except.bind]
        rw [ih]
        rcases readSegments path (found.length + 1) later with ⟨lines, _ | e⟩
        · simp
        · rfl

/-- **A transcript is the fold of its segments, which the first error ends.** -/
theorem ofOpened_file_eq_foldlM (path : Text) (content : Bytes) :
    (ofOpened path (.ok (.file content))).1 =
      (segments content).foldlM (addSegment path) .empty := by
  have hf := foldlM_addSegment path [] (segments content)
  rw [ofFindings_nil] at hf
  rw [hf, ofOpened, LineReader.start]
  simp only [readFrom_eq_readSegments, List.reverse_nil, List.nil_append, List.length_nil]
  rcases readSegments path 0 (segments content) with ⟨lines, _ | e⟩ <;> rfl

/-! ## 5. Which transcript, and which error -/

/-- Consecutive segments, the first of which has a given number, can all be read, and what each
    of them yields. -/
inductive Reads (path : Text) : (number : Nat) → List Bytes → List Findings → Prop where
  | nil {number : Nat} : Reads path number [] []
  | cons {number : Nat} {segment : Bytes} {later : List Bytes} {line : Text} {f : Findings}
      {fs : List Findings} (hd : Utf8.decode? segment = some line)
      (hl : Findings.ofLine number (lineText line) = .ok f)
      (hr : Reads path (number + 1) later fs) : Reads path number (segment :: later) (f :: fs)

/-- A segment with a given number cannot be read, and why: it is not UTF-8, or a number on it that
    is kept does not fit in 64 bits. -/
inductive Fails (path : Text) (number : Nat) (segment : Bytes) : TranscriptError → Prop where
  | notUtf8 (hd : Utf8.decode? segment = none) :
      Fails path number segment (.cannotRead path number .notUtf8)
  | tooLarge {line digits : Text} (hd : Utf8.decode? segment = some line)
      (ho : Record.Oversized (lineText line) digits) :
      Fails path number segment (.numberTooLarge number digits)

theorem readSegment_of_fails {path : Text} {number : Nat} {segment : Bytes} {e : TranscriptError}
    (h : Fails path number segment e) : readSegment path number segment = .error e := by
  unfold readSegment
  cases h with
  | notUtf8 hd => rw [hd]
  | tooLarge hd ho =>
    rw [hd]
    exact ofLine_eq_error_iff.mpr ⟨_, ho, rfl⟩

theorem reads_length {path : Text} {number : Nat} {segments : List Bytes} {fs : List Findings}
    (h : Reads path number segments fs) : segments.length = fs.length := by
  induction h with
  | nil => rfl
  | cons _ _ _ ih => rw [List.length_cons, List.length_cons, ih]

/-- Segments that can be read are added one by one. -/
theorem foldlM_addSegment_of_reads {path : Text} {segments : List Bytes} {fs : List Findings}
    {t : Transcript} (h : Reads path (t.linesRead + 1) segments fs) :
    segments.foldlM (addSegment path) t = .ok (fs.foldl add t) := by
  generalize hn : t.linesRead + 1 = number at h
  induction h generalizing t with
  | nil => rfl
  | cons hd hl _ ih =>
    subst hn
    rw [List.foldlM_cons, addSegment, readSegment, hd]
    simp only
    rw [hl]
    exact ih rfl

/-- Segments either can all be read, or there is a first one that cannot. -/
theorem reads_or_fails (path : Text) (number : Nat) (segments : List Bytes) :
    (∃ fs, Reads path number segments fs) ∨
      ∃ before bad after fs e, segments = before ++ bad :: after ∧ Reads path number before fs ∧
        Fails path (number + before.length) bad e := by
  induction segments generalizing number with
  | nil => exact Or.inl ⟨[], .nil⟩
  | cons segment later ih =>
    cases hd : Utf8.decode? segment with
    | none => exact Or.inr ⟨[], segment, later, [], _, rfl, .nil, .notUtf8 hd⟩
    | some line =>
      cases hl : Findings.ofLine number (lineText line) with
      | error e =>
        obtain ⟨digits, ho, rfl⟩ := ofLine_eq_error_iff.mp hl
        exact Or.inr ⟨[], segment, later, [], _, rfl, .nil, .tooLarge hd ho⟩
      | ok f =>
        rcases ih (number + 1) with ⟨fs, hr⟩ | ⟨before, bad, after, fs, e, rfl, hr, hf⟩
        · exact Or.inl ⟨f :: fs, .cons hd hl hr⟩
        · refine Or.inr ⟨segment :: before, bad, after, f :: fs, e, rfl, .cons hd hl hr, ?_⟩
          rw [List.length_cons, Nat.add_comm before.length 1, ← Nat.add_assoc]
          exact hf

/-- If all segments can be read, the transcript holds what they yield. -/
theorem ofOpened_of_reads {path : Text} {content : Bytes} {fs : List Findings}
    (h : Reads path 1 (segments content) fs) :
    (ofOpened path (.ok (.file content))).1 = .ok (ofFindings fs) := by
  rw [ofOpened_file_eq_foldlM, ofFindings_eq_foldl]
  exact foldlM_addSegment_of_reads h

/-- The first segment that cannot be read decides the error, whatever follows it. -/
theorem ofOpened_of_fails {path : Text} {content bad : Bytes} {before after : List Bytes}
    {fs : List Findings} {e : TranscriptError} (hs : segments content = before ++ bad :: after)
    (hr : Reads path 1 before fs) (hf : Fails path (before.length + 1) bad e) :
    (ofOpened path (.ok (.file content))).1 = .error e := by
  have hl : (fs.foldl add empty).linesRead = before.length := by
    rw [← ofFindings_eq_foldl]
    exact (reads_length hr).symm
  rw [ofOpened_file_eq_foldlM, hs, List.foldlM_append, foldlM_addSegment_of_reads hr]
  simp only [bind, Except.bind, List.foldlM_cons, addSegment]
  rw [hl, readSegment_of_fails hf]
  rfl

/-- **A transcript is the fail-fast fold over the lines of its file.** If every line can be read, it
    holds what they yield, in their order. Otherwise the error is that of the first line that
    cannot be read, and no later line can change it. -/
theorem ofOpened_file (path : Text) (content : Bytes) :
    ((segments content).flatten = content ∧ Cut (segments content)) ∧
    (ofOpened path (.ok (.file content))).1 =
      (segments content).foldlM (addSegment path) .empty ∧
    (∀ t, (ofOpened path (.ok (.file content))).1 = .ok t ↔
      ∃ fs, Reads path 1 (segments content) fs ∧
        t = {
          bandwidth := fs.filterMap Findings.sample
          successes := fs.filterMap Findings.success
          failures := fs.filterMap Findings.failure
          linesRead := (segments content).length }) ∧
    (∀ e, (ofOpened path (.ok (.file content))).1 = .error e ↔
      ∃ before bad after fs, segments content = before ++ bad :: after ∧
        Reads path 1 before fs ∧ Fails path (before.length + 1) bad e) ∧
    (∀ e, (ofOpened path (.ok (.file content))).1 = .error e →
      ∃ before bad after, segments content = before ++ bad :: after ∧
        ∀ content' after', segments content' = before ++ bad :: after' →
          (ofOpened path (.ok (.file content'))).1 = .error e) := by
  -- of the two ways to read the segments, the result says which one it was
  have hcases := reads_or_fails path 1 (segments content)
  have herror : ∀ e, (ofOpened path (.ok (.file content))).1 = .error e →
      ∃ before bad after fs, segments content = before ++ bad :: after ∧
        Reads path 1 before fs ∧ Fails path (before.length + 1) bad e := by
    intro e he
    rcases hcases with ⟨fs, hr⟩ | ⟨before, bad, after, fs, e', hs, hr, hf⟩
    · rw [ofOpened_of_reads hr] at he
      cases he
    · rw [Nat.add_comm] at hf
      rw [ofOpened_of_fails hs hr hf] at he
      cases he
      exact ⟨before, bad, after, fs, hs, hr, hf⟩
  refine ⟨flatten_segments_cut content, ofOpened_file_eq_foldlM path content, fun t => ⟨?_, ?_⟩,
    fun e => ⟨herror e, ?_⟩, ?_⟩
  · intro ht
    rcases hcases with ⟨fs, hr⟩ | ⟨before, bad, after, fs, e, hs, hr, hf⟩
    · rw [ofOpened_of_reads hr] at ht
      cases ht
      exact ⟨fs, hr, by rw [ofFindings, reads_length hr]⟩
    · rw [Nat.add_comm] at hf
      rw [ofOpened_of_fails hs hr hf] at ht
      cases ht
  · intro h
    obtain ⟨fs, hr, rfl⟩ := h
    rw [ofOpened_of_reads hr, ofFindings, reads_length hr]
  · intro h
    obtain ⟨before, bad, after, fs, hs, hr, hf⟩ := h
    exact ofOpened_of_fails hs hr hf
  · intro e he
    obtain ⟨before, bad, after, fs, hs, hr, hf⟩ := herror e he
    exact ⟨before, bad, after, hs, fun content' after' hs' => ofOpened_of_fails hs' hr hf⟩

end Transcript

end LookupLog
