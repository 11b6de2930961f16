import LookupLog.Proofs.Transcript.Reading

/-!
# Written transcripts

How the simulator writes a transcript: records with their numbers in decimal, each perhaps followed
by a text, between lines of any other kind, and each line ended with or without a carriage return.
Reading what was written gives back the records, each kind in its order:

* `segments_written`: the lines that were written are found again;
* `reads_written`: all of them can be read, and each yields what was written on it.

What is written is given by types that hold no other lines: a `Trailer` cannot go on with the last
number of its record, and `Noise` has no record's header.
-/

namespace LookupLog

open Record

/-! ## 1. What is written -/

/-- A text behind the last number of a record. -/
structure Trailer where
  text : Text
  no_break : '\n' ∉ text
  endsRun : EndsRun text

/-- A line that does not begin as a record does. -/
structure Noise where
  text : Text
  no_break : '\n' ∉ text
  no_header : ¬"[E] ".toList <+: text

/-- What is written on one line. -/
inductive Entry where
  | bandwidth (timestamp value : UInt64) (trailer : Trailer)
  | success (node target : Nat) (latency : UInt64) (trailer : Trailer)
  | failure (node target : Nat) (latency : UInt64) (trailer : Trailer)
  | noise (line : Noise)

/-- How a line ends. -/
inductive LineEnd where
  | lineFeed
  | carriageReturnLineFeed

/-- One line. -/
structure WrittenLine where
  entry : Entry
  lineEnd : LineEnd

namespace Entry

/-- The text of a line, without its end. -/
def text : Entry → Text
  | bandwidth timestamp value trailer =>
    "[E] T ".toList ++ Text.ofNat timestamp.toNat ++ " ".toList ++ Text.ofNat value.toNat ++
      trailer.text
  | success node target latency trailer =>
    "[E] S ".toList ++ Text.ofNat node ++ " ".toList ++ Text.ofNat target ++ " ".toList ++
      Text.ofNat latency.toNat ++ trailer.text
  | failure node target latency trailer =>
    "[E] F ".toList ++ Text.ofNat node ++ " ".toList ++ Text.ofNat target ++ " ".toList ++
      Text.ofNat latency.toNat ++ trailer.text
  | noise line => line.text

/-- The sample on a line. -/
def sample? : Entry → Option Sample
  | bandwidth timestamp value _ => some { timestamp, value }
  | _ => none

/-- The latency on the line of a lookup that succeeded. -/
def success? : Entry → Option UInt64
  | success _ _ latency _ => some latency
  | _ => none

/-- The latency on the line of a lookup that failed. -/
def failure? : Entry → Option UInt64
  | failure _ _ latency _ => some latency
  | _ => none

/-- All that is on a line. -/
def findings (entry : Entry) : Findings where
  sample := entry.sample?
  success := entry.success?
  failure := entry.failure?

end Entry

/-- The characters at the end of a line. -/
def LineEnd.text : LineEnd → Text
  | lineFeed => ['\n']
  | carriageReturnLineFeed => ['\r', '\n']

/-- A line with its end. -/
def WrittenLine.text (line : WrittenLine) : Text :=
  line.entry.text ++ line.lineEnd.text

/-! ## 2. One line -/

theorem isRun_ofNat (n : Nat) : IsRun (Text.ofNat n) :=
  ⟨Nat.toDigits_ne_nil, fun _ hc => isDigit_iff.mp (Text.isDigit_of_mem_ofNat hc)⟩

/-- The kinds of record line begin as records do. -/
theorem header_isPrefix_of_isRecord {kind : RecordKind} {runs : List Text} {text : Text}
    (h : IsRecord kind runs text) : "[E] ".toList <+: text := by
  obtain ⟨-, -, rest, -, rfl⟩ := h
  exact ⟨_, rfl⟩

/-- **What a written line yields is what was written.** -/
theorem Entry.yields (entry : Entry) : Yields entry.text entry.findings := by
  cases entry with
  | bandwidth timestamp value trailer =>
    exact .sample ⟨trailer.text, isRun_ofNat _, isRun_ofNat _, trailer.endsRun, rfl⟩
      (Text.toNat_ofNat _) (Text.toNat_ofNat _)
  | success node target latency trailer =>
    exact .success ⟨trailer.text, isRun_ofNat _, isRun_ofNat _, isRun_ofNat _, trailer.endsRun, rfl⟩
      (Text.toNat_ofNat _)
  | failure node target latency trailer =>
    exact .failure ⟨trailer.text, isRun_ofNat _, isRun_ofNat _, isRun_ofNat _, trailer.endsRun, rfl⟩
      (Text.toNat_ofNat _)
  | noise line =>
    refine .nothing ?_ ?_ ?_
    · intro h
      obtain ⟨a, b, h⟩ := h
      exact line.no_header (header_isPrefix_of_isRecord (isSampleLine_iff.mp h))
    · intro h
      obtain ⟨a, b, c, h⟩ := h
      exact line.no_header (header_isPrefix_of_isRecord ((isLookupLine_iff .success rfl).mp h))
    · intro h
      obtain ⟨a, b, c, h⟩ := h
      exact line.no_header (header_isPrefix_of_isRecord ((isLookupLine_iff .failure rfl).mp h))

/-- The end of a line is not part of what it yields. -/
theorem ofLine_lineText_written (number : Nat) (line : WrittenLine) :
    Findings.ofLine number (lineText line.text) = .ok line.entry.findings := by
  obtain ⟨entry, lineEnd⟩ := line
  have he : Findings.ofLine number (lineText (entry.text ++ lineEnd.text)) =
      Findings.ofLine number entry.text := by
    unfold lineText
    cases lineEnd with
    | lineFeed =>
      rw [LineEnd.text, List.getLast?_concat, if_pos rfl, List.dropLast_concat,
        ofLine_dropLastIf_carriageReturn]
    | carriageReturnLineFeed =>
      have ha : entry.text ++ ['\r', '\n'] = (entry.text ++ ['\r']) ++ ['\n'] := by simp
      rw [LineEnd.text, ha, List.getLast?_concat, if_pos rfl, List.dropLast_concat,
        Text.dropLastIf_append_self]
  exact he.trans (ofLine_eq_ok_iff.mpr entry.yields)

/-! ## 3. Line feeds -/

/-- A written number has no line feed. -/
theorem lineBreak_not_mem_ofNat (n : Nat) : '\n' ∉ Text.ofNat n := by
  intro hm
  exact absurd ((isRun_ofNat n).2 _ hm) (by decide)

/-- Nor has a line that goes on with a number after a blank. -/
theorem lineBreak_not_mem_append_ofNat {text : Text} (h : '\n' ∉ text) (n : Nat) :
    '\n' ∉ text ++ " ".toList ++ Text.ofNat n :=
  List.not_mem_append (List.not_mem_append h (by decide)) (lineBreak_not_mem_ofNat n)

/-- The text of a line has no line feed. -/
theorem Entry.lineBreak_not_mem_text (entry : Entry) : '\n' ∉ entry.text := by
  cases entry with
  | bandwidth timestamp value trailer =>
    have hd := List.not_mem_append (by decide : '\n' ∉ "[E] T ".toList)
      (lineBreak_not_mem_ofNat timestamp.toNat)
    exact List.not_mem_append (lineBreak_not_mem_append_ofNat hd _) trailer.no_break
  | success node target latency trailer =>
    have hd := List.not_mem_append (by decide : '\n' ∉ "[E] S ".toList)
      (lineBreak_not_mem_ofNat node)
    have hn := lineBreak_not_mem_append_ofNat (lineBreak_not_mem_append_ofNat hd target)
    exact List.not_mem_append (hn latency.toNat) trailer.no_break
  | failure node target latency trailer =>
    have hd := List.not_mem_append (by decide : '\n' ∉ "[E] F ".toList)
      (lineBreak_not_mem_ofNat node)
    have hn := lineBreak_not_mem_append_ofNat (lineBreak_not_mem_append_ofNat hd target)
    exact List.not_mem_append (hn latency.toNat) trailer.no_break
  | noise line => exact line.no_break

/-- A written line has one line feed, at its end. -/
theorem WrittenLine.isTerminated (line : WrittenLine) : IsTerminated (Utf8.encode line.text) := by
  obtain ⟨entry, lineEnd⟩ := line
  have hn := entry.lineBreak_not_mem_text
  cases lineEnd with
  | lineFeed =>
    refine ⟨Utf8.encode entry.text, mt lineFeed_mem_encode_iff.mp hn, ?_⟩
    rw [text, LineEnd.text, Utf8.encode_append]
    rfl
  | carriageReturnLineFeed =>
    refine ⟨Utf8.encode (entry.text ++ ['\r']), mt lineFeed_mem_encode_iff.mp ?_, ?_⟩
    · simp [hn]
    · rw [text, LineEnd.text, Utf8.encode_append, Utf8.encode_append, List.append_assoc]
      rfl

/-- **The lines that were written are the segments of what was written.** -/
theorem segments_written (lines : List WrittenLine) :
    segments (Utf8.encode (lines.flatMap WrittenLine.text)) =
      lines.map fun line => Utf8.encode line.text := by
  have hc : Cut (lines.map fun line => Utf8.encode line.text) := by
    induction lines with
    | nil => exact .nil
    | cons line lines ih => exact .cons line.isTerminated ih
  have he : Utf8.encode (lines.flatMap WrittenLine.text) =
      (lines.map fun line => Utf8.encode line.text).flatten := by
    rw [Utf8.encode, List.flatMap_assoc, List.flatMap_def]
    rfl
  rw [he, segments_flatten hc]

/-! ## 4. The whole transcript -/

/-- Written lines can all be read, and they yield what was written. -/
theorem reads_written (path : Text) (number : Nat) (lines : List WrittenLine) :
    Transcript.Reads path number (lines.map fun line => Utf8.encode line.text)
      (lines.map fun line => line.entry.findings) := by
  induction lines generalizing number with
  | nil => exact .nil
  | cons line lines ih =>
    exact .cons (Utf8.decode?_encode line.text) (ofLine_lineText_written number line) (ih _)

/-- **Reading undoes writing**: whatever was written, and however its lines end, every record is
    found in the sequence of its kind and in its place there, and every line is counted. -/
theorem ofOpened_written (path : Text) (lines : List WrittenLine) :
    (Transcript.ofOpened path
      (.ok (.file (Utf8.encode (lines.flatMap WrittenLine.text))))).1 = .ok {
        bandwidth := lines.filterMap fun line => line.entry.sample?
        successes := lines.filterMap fun line => line.entry.success?
        failures := lines.filterMap fun line => line.entry.failure?
        linesRead := lines.length } := by
  have hr := reads_written path 1 lines
  rw [← segments_written] at hr
  rw [Transcript.ofOpened_of_reads hr, Transcript.ofFindings, List.filterMap_map,
    List.filterMap_map, List.filterMap_map, List.length_map]
  rfl

end LookupLog
