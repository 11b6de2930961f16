import LookupLog.Transcript.Basic
import LookupLog.Files.Access

/-!
# Lines of a transcript

A content is read line by line. A line ends after its line feed, or at the end of the content, and
is returned without its terminator. A line that is not UTF-8 is an error; reading may go on after
it, but it is not counted. So the number of a line is one more than the number of lines returned
before it (`LineReader.next`).

`segments` cuts a whole content into its lines.
-/

namespace LookupLog

/-! ## 1. Cutting -/

/-- The byte that ends a line. -/
def lineFeed : UInt8 := 10

/-- The first line of a content, with its line feed if it has one, and what follows it. -/
def cutLine (content : Bytes) : Bytes × Bytes :=
  let rest := content.dropWhile (· ≠ lineFeed)
  (content.takeWhile (· ≠ lineFeed) ++ rest.take 1, rest.drop 1)

/-- The lines of a content, each with its line feed; the last one may have none. -/
def segments : Bytes → List Bytes
  | [] => []
  | b :: rest =>
    if b = lineFeed then [b] :: segments rest
    else match segments rest with
      | [] => [[b]]
      | line :: lines => (b :: line) :: lines

/-- A line without its terminator: a line feed, or a carriage return and a line feed, or a carriage
return at the end of the content. -/
def stripTerminator (line : Text) : Text :=
  (line.dropLastIf '\n').dropLastIf '\r'

/-- Cutting loses nothing. -/
theorem cutLine_append (content : Bytes) :
    (cutLine content).1 ++ (cutLine content).2 = content := by
  rw [cutLine, List.append_assoc, List.take_append_drop, List.takeWhile_append_dropWhile]

/-- The first line of a content that is not empty has a byte. -/
theorem cutLine_fst_ne_nil {content : Bytes} (h : content ≠ []) : (cutLine content).1 ≠ [] := by
  intro he
  obtain ⟨ht, hr⟩ := List.append_eq_nil_iff.1 he
  rcases List.take_eq_nil_iff.1 hr with h1 | hd
  · exact absurd h1 (by decide)
  · apply h
    rw [← List.takeWhile_append_dropWhile (p := fun b => decide (b ≠ lineFeed)) (l := content),
      ht, hd]
    rfl

/-- So what follows the first line is shorter. -/
theorem length_cutLine_snd_lt {content : Bytes} (h : content ≠ []) :
    (cutLine content).2.length < content.length := by
  have hl := congrArg List.length (cutLine_append content)
  have hp := List.length_pos_iff.2 (cutLine_fst_ne_nil h)
  rw [List.length_append] at hl
  omega

/-! ## 2. Reading -/

/-- A line with its number. -/
structure Line where
  number : Nat
  text : Text
  deriving DecidableEq

/-- A transcript being read: what is left of it and how many lines were returned. -/
structure LineReader where
  path : Text
  rest : Node
  lineNumber : Nat

namespace LineReader

/-- A reader at the beginning of an opened file. -/
def start (path : Text) (node : Node) : LineReader where
  path
  rest := node
  lineNumber := 0

/-- The error of the line that was to be returned next. -/
def failure (r : LineReader) (cause : FileError) : TranscriptError :=
  .cannotRead r.path (r.lineNumber + 1) cause

/-- The next line, `none` at the end; and the reader after it. -/
def next (r : LineReader) : Except TranscriptError (Option Line) × LineReader :=
  match r.rest with
  | .directory => (.error (r.failure .isADirectory), r)
  | .file [] => (.ok none, r)
  | .file (b :: bytes) =>
    let (line, rest) := cutLine (b :: bytes)
    match Utf8.decode? line with
    | none => (.error (r.failure .notUtf8), { r with rest := .file rest })
    | some text =>
      let number := r.lineNumber + 1
      (.ok (some { number, text := stripTerminator text }),
        { r with rest := .file rest, lineNumber := number })

/-- How many bytes are left. -/
def size (r : LineReader) : Nat :=
  match r.rest with
  | .directory => 0
  | .file content => content.length

/-- A line that is returned uses up bytes. -/
theorem size_next_lt {r r' : LineReader} {line : Line} (h : r.next = (.ok (some line), r')) :
    r'.size < r.size := by
  unfold next at h
  split at h
  · simp at h
  · simp at h
  · rename_i b bytes hr
    simp only at h
    split at h
    · simp at h
    · simp only [Prod.mk.injEq] at h
      obtain ⟨-, rfl⟩ := h
      simp only [size, hr]
      exact length_cutLine_snd_lt (by simp)

end LineReader

end LookupLog
