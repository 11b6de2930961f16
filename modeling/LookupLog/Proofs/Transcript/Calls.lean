import LookupLog.Proofs.Transcript.Reading

/-!
# Any number of calls

A pass ends at the first error, but a reader does not: it can be asked for the next line again and
again, also behind a line that was no UTF-8 and behind the end. Here the reader after any number of
calls (`LineReader.after`) and the answer to each of them (`LineReader.answer`) are read off the
segments of the content:

* `after_start`: a call uses up one segment, and exactly the segments that are UTF-8 are counted;
* `answer_start`: the answer to a call depends on its own segment and on that count alone;
* `number_returned`: so the lines that were returned are numbered without gap or repetition.
-/

namespace LookupLog

/-! ## 1. Segments that are left -/

/-- Segments without the first ones are lines again. -/
theorem Cut.drop {lines : List Bytes} (h : Cut lines) (n : Nat) : Cut (lines.drop n) := by
  induction h generalizing n with
  | nil =>
    rw [List.drop_nil]
    exact .nil
  | unterminated hf hne =>
    cases n with
    | zero => exact .unterminated hf hne
    | succ n =>
      rw [List.drop_succ_cons, List.drop_nil]
      exact .nil
  | cons ht hc ih =>
    cases n with
    | zero => exact .cons ht hc
    | succ n => exact ih n

/-- Can be decoded. -/
def isReadable (segment : Bytes) : Bool :=
  (Utf8.decode? segment).isSome

/-- How many of some segments can be decoded. -/
def readableCount (segments : List Bytes) : Nat :=
  segments.countP isReadable

theorem readableCount_append (before after : List Bytes) :
    readableCount (before ++ after) = readableCount before + readableCount after :=
  List.countP_append

theorem readableCount_take_succ {segments : List Bytes} {n : Nat} {segment : Bytes}
    (h : segments[n]? = some segment) :
    readableCount (segments.take (n + 1)) =
      readableCount (segments.take n) + if isReadable segment then 1 else 0 := by
  rw [readableCount, List.take_add_one, h, Option.toList_some, List.countP_append,
    List.countP_singleton, readableCount]

/-- Behind segments that can all be decoded the count is the place. -/
theorem readableCount_take_eq {segments : List Bytes} {n : Nat}
    (h : ∀ i < n, ∃ segment, segments[i]? = some segment ∧ isReadable segment) :
    readableCount (segments.take n) = n := by
  induction n with
  | zero => rfl
  | succ n ih =>
    obtain ⟨segment, hs, hd⟩ := h n (Nat.lt_succ_self n)
    rw [readableCount_take_succ hs, if_pos hd, ih fun i hi => h i (Nat.lt_succ_of_lt hi)]

namespace LineReader

/-! ## 2. Calls -/

/-- The reader after some calls. -/
def after (r : LineReader) : (calls : Nat) → LineReader
  | 0 => r
  | n + 1 => (r.after n).next.2

/-- The answer to the call that comes after some others. -/
def answer (r : LineReader) (calls : Nat) : Except TranscriptError (Option Line) :=
  (r.after calls).next.1

/-- The line in an answer. -/
def line? : Except TranscriptError (Option Line) → Option Line
  | .ok line => line
  | .error _ => none

/-- The lines that some calls returned. -/
def returned (r : LineReader) (calls : Nat) : List Line :=
  (List.range calls).filterMap fun i => line? (r.answer i)

theorem returned_succ (r : LineReader) (n : Nat) :
    r.returned (n + 1) = r.returned n ++ (line? (r.answer n)).toList := by
  rw [returned, List.range_succ, List.filterMap_append, ← returned]
  cases h : line? (r.answer n) <;> simp [h]

section Calls

variable (path : Text) (content : Bytes)

/-- The answer to a call, given its segment, if one is left, and how many lines were returned. -/
def answerFor (count : Nat) : Option Bytes → Except TranscriptError (Option Line)
  | none => .ok none
  | some segment =>
    match Utf8.decode? segment with
    | none => .error (.cannotRead path (count + 1) .notUtf8)
    | some text => .ok (some { number := count + 1, text := stripTerminator text })

/-- **One call** takes the first of the segments that are left, or finds none; a segment that
    cannot be decoded is taken and not counted. -/
theorem next_flatten {lines : List Bytes} (h : Cut lines) (count : Nat) :
    ({ path, rest := .file lines.flatten, lineNumber := count } : LineReader).next =
      (answerFor path count lines.head?,
        { path, rest := .file (lines.drop 1).flatten,
          lineNumber := count + readableCount (lines.take 1) }) := by
  cases lines with
  | nil => rfl
  | cons segment later =>
    obtain ⟨rest, hr, hn⟩ := next_segment (segments_flatten h) path count
    -- what is left of the content is what its segments add up to
    have hf : rest = later.flatten := by rw [← hr, (flatten_segments_cut rest).1]
    rw [hn, hf]
    cases hd : Utf8.decode? segment <;> simp [answerFor, readableCount, isReadable, hd]

/-! ## 3. Any number of calls -/

/-- **The reader after some calls**: as many segments are used up, as far as there are any, and
    those that could be decoded are counted. -/
theorem after_start (n : Nat) :
    (start path (.file content)).after n =
      { path, rest := .file ((segments content).drop n).flatten,
        lineNumber := readableCount ((segments content).take n) } := by
  have hc := flatten_segments_cut content
  induction n with
  | zero =>
    rw [List.drop_zero, hc.1]
    rfl
  | succ n ih =>
    rw [after, ih, next_flatten path (hc.2.drop n), List.drop_drop, ← readableCount_append,
      ← List.take_add]

/-- **The answer to a call** depends on its segment and on how many lines were returned before. -/
theorem answer_start (n : Nat) :
    (start path (.file content)).answer n =
      answerFor path (readableCount ((segments content).take n)) (segments content)[n]? := by
  have hc := (flatten_segments_cut content).2.drop n
  rw [answer, after_start, next_flatten path hc, List.head?_drop]

/-- The counter goes up with every line that is returned, and with nothing else. -/
theorem lineNumber_after_succ (n : Nat) :
    ((start path (.file content)).after (n + 1)).lineNumber =
      ((start path (.file content)).after n).lineNumber +
        (line? ((start path (.file content)).answer n)).toList.length := by
  rw [after_start, after_start, answer_start]
  cases hs : (segments content)[n]? with
  | none =>
    have hl := List.getElem?_eq_none_iff.mp hs
    rw [List.take_of_length_le hl, List.take_of_length_le (Nat.le_succ_of_le hl)]
    rfl
  | some segment =>
    rw [readableCount_take_succ hs, isReadable, answerFor]
    cases Utf8.decode? segment <;> rfl

/-- A line that is returned has the number after the lines returned before it. -/
theorem number_of_answer {n : Nat} {line : Line}
    (h : (start path (.file content)).answer n = .ok (some line)) :
    line.number = ((start path (.file content)).after n).lineNumber + 1 := by
  rw [answer_start, answerFor.eq_def] at h
  rw [after_start]
  split at h
  · cases h
  · split at h <;> cases h
    rfl

/-- **The lines that were returned are numbered from 1 on**, without gap or repetition. -/
theorem number_returned (n : Nat) :
    ((start path (.file content)).returned n).map Line.number =
      List.range' 1 ((start path (.file content)).after n).lineNumber := by
  induction n with
  | zero => rfl
  | succ n ih =>
    rw [returned_succ, List.map_append, ih, lineNumber_after_succ]
    cases ha : (start path (.file content)).answer n with
    | error e => simp [line?]
    | ok line =>
      cases line with
      | none => simp [line?]
      | some line =>
        have hn := number_of_answer path content ha
        simp only [line?, Option.toList_some, List.map_singleton, List.length_singleton]
        rw [hn, List.range'_concat, Nat.mul_comm, Nat.mul_one, Nat.add_comm 1]

/-- As long as no call has failed, the number of a line is its place in the file. -/
theorem number_eq_place {n : Nat} {line : Line}
    (h : (start path (.file content)).answer n = .ok (some line))
    (hf : ∀ i < n, ∀ e, (start path (.file content)).answer i ≠ .error e) :
    line.number = n + 1 := by
  rw [number_of_answer path content h, after_start]
  -- a segment for this call means a segment for every call before it, and none of them failed
  have hn : n < (segments content).length := by
    by_contra hl
    rw [answer_start, List.getElem?_eq_none (Nat.le_of_not_lt hl)] at h
    cases h
  rw [readableCount_take_eq]
  intro i hi
  have hs := List.getElem?_eq_getElem (Nat.lt_trans hi hn)
  refine ⟨_, hs, ?_⟩
  have ha := hf i hi
  rw [answer_start, hs, answerFor] at ha
  rw [isReadable]
  cases hd : Utf8.decode? (segments content)[i] with
  | none =>
    rw [hd] at ha
    exact absurd rfl (ha _)
  | some text => rfl

/-- **Every call takes one segment and says what it is.** Whatever the content and however often
    the reader is asked, a call uses up its segment and nothing else; it returns the text of that
    segment with the next number, or fails with that number if the segment cannot be decoded, and
    behind the last segment it returns nothing. The counter is the number of lines returned, which
    are numbered from 1 on, and until a call fails a number is a place in the file. -/
theorem calls_follow_segments :
    ((segments content).flatten = content ∧ Cut (segments content)) ∧
    (∀ n, ((start path (.file content)).after n).rest =
      .file ((segments content).drop n).flatten) ∧
    (∀ n, (start path (.file content)).answer n =
      match (segments content)[n]? with
      | none => .ok none
      | some segment =>
        match Utf8.decode? segment with
        | none =>
          .error (.cannotRead path (readableCount ((segments content).take n) + 1) .notUtf8)
        | some text =>
          .ok (some {
            number := readableCount ((segments content).take n) + 1
            text := stripTerminator text })) ∧
    (∀ n, ((start path (.file content)).after (n + 1)).lineNumber =
      match (start path (.file content)).answer n with
      | .ok (some line) => line.number
      | _ => ((start path (.file content)).after n).lineNumber) ∧
    (∀ n, ((start path (.file content)).returned n).map Line.number =
        List.range' 1 ((start path (.file content)).after n).lineNumber ∧
      ((start path (.file content)).after n).lineNumber =
        ((start path (.file content)).returned n).length) ∧
    (∀ n line, (start path (.file content)).answer n = .ok (some line) →
      (∀ i < n, ∀ e, (start path (.file content)).answer i ≠ .error e) → line.number = n + 1) := by
  refine ⟨flatten_segments_cut content, fun n => ?_, answer_start path content, fun n => ?_,
    fun n => ⟨number_returned path content n, ?_⟩, fun n line => number_eq_place path content⟩
  · rw [after_start]
  · rw [lineNumber_after_succ]
    cases ha : (start path (.file content)).answer n with
    | error e => rfl
    | ok line =>
      cases line with
      | none => rfl
      | some line => exact (number_of_answer path content ha).symm
  · have hl := congrArg List.length (number_returned path content n)
    rw [List.length_map, List.length_range'] at hl
    exact hl.symm

end Calls

end LineReader

end LookupLog
