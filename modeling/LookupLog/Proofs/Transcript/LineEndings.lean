import LookupLog.Proofs.Transcript.Append

/-!
# Line endings

A log may end its lines with a line feed alone or with a carriage return before it. Putting a
carriage return before every line feed, also where there is one already, changes nothing that is
read.

* `segments_withCarriageReturns`: each line stays a line;
* `readSegment_withCarriageReturns`: and yields what it has yielded, although its text may end in a
  carriage return now: no character of a record is one, and it is a character of its own in UTF-8;
* `ofOpened_withCarriageReturns`: so the transcript, or the error, is the same.
-/

namespace LookupLog

/-! ## 1. The other style -/

/-- The byte that may stand before a line feed. -/
def carriageReturn : UInt8 := 13

/-- A content with a carriage return before each of its line feeds, one more where there is one. -/
def withCarriageReturns (content : Bytes) : Bytes :=
  content.flatMap fun b => if b = lineFeed then [carriageReturn, lineFeed] else [b]

theorem withCarriageReturns_append (content more : Bytes) :
    withCarriageReturns (content ++ more) =
      withCarriageReturns content ++ withCarriageReturns more :=
  List.flatMap_append

/-- Without a line feed nothing changes. -/
theorem withCarriageReturns_of_not_mem {line : Bytes} (h : lineFeed ∉ line) :
    withCarriageReturns line = line := by
  induction line with
  | nil => rfl
  | cons b line ih =>
    have hb : b ≠ lineFeed := fun e => h (e ▸ List.mem_cons_self)
    have ih := ih fun hm => h (List.mem_cons_of_mem b hm)
    rw [withCarriageReturns, List.flatMap_cons, if_neg hb, ← withCarriageReturns, ih]
    rfl

/-- A line gets a carriage return at the end of its text. -/
theorem withCarriageReturns_line {body : Bytes} (h : lineFeed ∉ body) :
    withCarriageReturns (body ++ [lineFeed]) = body ++ [carriageReturn] ++ [lineFeed] := by
  rw [withCarriageReturns_append, withCarriageReturns_of_not_mem h, List.append_assoc]
  rfl

theorem withCarriageReturns_flatten (lines : List Bytes) :
    withCarriageReturns lines.flatten = (lines.map withCarriageReturns).flatten := by
  induction lines with
  | nil => rfl
  | cons line lines ih =>
    rw [List.flatten_cons, withCarriageReturns_append, ih, List.map_cons, List.flatten_cons]

/-! ## 2. Lines -/

theorem IsTerminated.withCarriageReturns {line : Bytes} (h : IsTerminated line) :
    IsTerminated (withCarriageReturns line) := by
  obtain ⟨body, hb, rfl⟩ := h
  refine ⟨body ++ [carriageReturn], ?_, withCarriageReturns_line hb⟩
  exact List.not_mem_append hb (by decide)

theorem Cut.withCarriageReturns {lines : List Bytes} (h : Cut lines) :
    Cut (lines.map LookupLog.withCarriageReturns) := by
  induction h with
  | nil => exact .nil
  | unterminated hf hne =>
    rw [List.map_singleton, withCarriageReturns_of_not_mem hf]
    exact .unterminated hf hne
  | cons ht _ ih => exact .cons ht.withCarriageReturns ih

/-- **Each line stays a line.** -/
theorem segments_withCarriageReturns (content : Bytes) :
    segments (withCarriageReturns content) = (segments content).map withCarriageReturns := by
  obtain ⟨hf, hc⟩ := flatten_segments_cut content
  have he := withCarriageReturns_flatten (segments content)
  rw [hf] at he
  rw [he, segments_flatten hc.withCarriageReturns]

/-! ## 3. What a line yields -/

/-- A carriage return at the end of its text changes nothing of what a line yields. -/
theorem ofLine_append_carriageReturn (number : Nat) (text : Text) :
    Findings.ofLine number (text ++ ['\r']) = Findings.ofLine number text := by
  have h := ofLine_dropLastIf_carriageReturn number (text ++ ['\r'])
  rw [Text.dropLastIf_append_self] at h
  exact h.symm

theorem decode?_append_lineFeed (content : Bytes) :
    Utf8.decode? (content ++ [lineFeed]) = (Utf8.decode? content).map (· ++ ['\n']) :=
  Utf8.decode?_concat (by decide) rfl content

theorem decode?_append_carriageReturn (content : Bytes) :
    Utf8.decode? (content ++ [carriageReturn]) = (Utf8.decode? content).map (· ++ ['\r']) :=
  Utf8.decode?_concat (by decide) rfl content

namespace Transcript

variable (path : Text)

/-- What a line with its line feed yields is what its text yields, if that can be decoded. -/
theorem readSegment_append_lineFeed (number : Nat) (body : Bytes) :
    readSegment path number (body ++ [lineFeed]) =
      match Utf8.decode? body with
      | none => .error (.cannotRead path number .notUtf8)
      | some text => Findings.ofLine number text := by
  rw [readSegment, decode?_append_lineFeed]
  cases Utf8.decode? body with
  | none => rfl
  | some text =>
    simp only [Option.map_some]
    rw [lineText, List.getLast?_concat, if_pos rfl, List.dropLast_concat,
      ofLine_dropLastIf_carriageReturn]

/-- **A carriage return before its line feed changes nothing of what a line yields**, nor whether it
    can be decoded. -/
theorem readSegment_withCarriageReturns (number : Nat) {line : Bytes} (h : IsTerminated line) :
    readSegment path number (withCarriageReturns line) = readSegment path number line := by
  obtain ⟨body, hb, rfl⟩ := h
  rw [withCarriageReturns_line hb, readSegment_append_lineFeed, readSegment_append_lineFeed,
    decode?_append_carriageReturn]
  cases Utf8.decode? body with
  | none => rfl
  | some text => exact ofLine_append_carriageReturn number text

/-- So a walk over the lines finds the same. -/
theorem foldlM_addSegment_withCarriageReturns {lines : List Bytes} (h : Cut lines)
    (t : Transcript) :
    (lines.map withCarriageReturns).foldlM (addSegment path) t =
      lines.foldlM (addSegment path) t := by
  induction h generalizing t with
  | nil => rfl
  | unterminated hf _ => rw [List.map_singleton, withCarriageReturns_of_not_mem hf]
  | @cons line later ht _ ih =>
    have hs : addSegment path t (withCarriageReturns line) = addSegment path t line :=
      congrArg (Except.map t.add) (readSegment_withCarriageReturns path _ ht)
    rw [List.map_cons, List.foldlM_cons, List.foldlM_cons, hs]
    cases addSegment path t line with
    | error e => rfl
    | ok u => exact ih u

/-! ## 4. Files -/

/-- **The style of the line endings does not matter.** A content and the same content with a
    carriage return before every line feed give the same transcript or the same error, and at
    another path an error that differs in its path alone. -/
theorem ofOpened_withCarriageReturns (content : Bytes) :
    (ofOpened path (.ok (.file (withCarriageReturns content)))).1 =
      (ofOpened path (.ok (.file content))).1 ∧
    ∀ path', (ofOpened path' (.ok (.file (withCarriageReturns content)))).1 =
      (ofOpened path (.ok (.file content))).1.mapError (.moved path' 0) := by
  have h : ∀ path', (ofOpened path' (.ok (.file (withCarriageReturns content)))).1 =
      (segments content).foldlM (addSegment path') empty := by
    intro path'
    rw [ofOpened_file_eq_foldlM, segments_withCarriageReturns]
    exact foldlM_addSegment_withCarriageReturns path' (flatten_segments_cut content).2 empty
  rw [ofOpened_file_eq_foldlM path content]
  refine ⟨h path, fun path' => ?_⟩
  rw [h path', foldlM_addSegment_moved path' path]

end Transcript

end LookupLog
