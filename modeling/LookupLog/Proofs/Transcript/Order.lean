import LookupLog.Proofs.Transcript.Reading
import LookupLog.Report.Basic
import Mathlib.Data.List.Perm.Basic

/-!
# The order of the lines

Lines that are put in another order are the same records in another order, and the same summary:

* `reads_iff_forall₂`: whether a line can be read, and what it yields, does not depend on its place;
* `reads_perm`: so a transcript of permuted lines is a permuted transcript;
* `ofTranscript_eq_of_perm`: and a summary only adds up and counts, in whole numbers, before
  anything is rounded.
-/

namespace LookupLog

/-! ## 1. Transcripts -/

namespace Transcript

/-- A segment can be read, and what it yields. -/
def SegmentYields (segment : Bytes) (f : Findings) : Prop :=
  ∃ line, Utf8.decode? segment = some line ∧ Record.Yields (lineText line) f

/-- **Segments are read one by one**, whatever their numbers are. -/
theorem reads_iff_forall₂ {path : Text} {number : Nat} {segments : List Bytes}
    {fs : List Findings} :
    Reads path number segments fs ↔ List.Forall₂ SegmentYields segments fs := by
  constructor
  · intro h
    induction h with
    | nil => exact .nil
    | cons hd hl _ ih => exact .cons ⟨_, hd, ofLine_eq_ok_iff.mp hl⟩ ih
  · intro h
    induction h generalizing number with
    | nil => exact .nil
    | cons hy _ ih =>
      obtain ⟨line, hd, hy⟩ := hy
      exact .cons hd (ofLine_eq_ok_iff.mpr hy) ih

/-- Segments in another order can be read, too, and they yield the same in another order. -/
theorem reads_perm {path : Text} {number : Nat} {lines lines' : List Bytes} {fs : List Findings}
    (hp : lines'.Perm lines) (h : Reads path number lines fs) :
    ∃ fs', Reads path number lines' fs' ∧ fs'.Perm fs := by
  obtain ⟨fs', hf, hp'⟩ := List.perm_comp_forall₂ hp (reads_iff_forall₂.mp h)
  exact ⟨fs', reads_iff_forall₂.mpr hf, hp'⟩

/-- A content is accepted exactly if all its segments can be read. -/
theorem ofOpened_eq_ok_iff {path : Text} {content : Bytes} {t : Transcript} :
    (ofOpened path (.ok (.file content))).1 = .ok t ↔
      ∃ fs, Reads path 1 (segments content) fs ∧ t = ofFindings fs := by
  constructor
  · intro h
    rcases reads_or_fails path 1 (segments content) with
      ⟨fs, hr⟩ | ⟨before, bad, after, fs, e, hs, hr, hf⟩
    · rw [ofOpened_of_reads hr] at h
      cases h
      exact ⟨fs, hr, rfl⟩
    · rw [Nat.add_comm] at hf
      rw [ofOpened_of_fails hs hr hf] at h
      cases h
  · intro h
    obtain ⟨fs, hr, rfl⟩ := h
    exact ofOpened_of_reads hr

/-- A transcript comes from a file. -/
theorem exists_reads_of_ofOpened {path : Text} {opened : Except FileError Node} {t : Transcript}
    (h : (ofOpened path opened).1 = .ok t) :
    ∃ content fs, opened = .ok (.file content) ∧ Reads path 1 (segments content) fs ∧
      t = ofFindings fs := by
  cases opened with
  | error e => cases h
  | ok node =>
    cases node with
    | file content =>
      obtain ⟨fs, hr, ht⟩ := ofOpened_eq_ok_iff.mp h
      exact ⟨content, fs, rfl, hr, ht⟩
    | directory =>
      rw [ofOpened, LineReader.readFrom_of_error rfl] at h
      cases h

end Transcript

/-! ## 2. Summaries -/

/-- A sum does not depend on the order. -/
theorem total_eq_of_perm {xs ys : List UInt64} (h : xs.Perm ys) : total xs = total ys := by
  have hc : RightCommutative fun (sum : Nat) (value : UInt64) => sum + value.toNat :=
    ⟨fun _ _ _ => Nat.add_right_comm _ _ _⟩
  exact h.foldl_eq 0

theorem mean_eq_of_perm (kind : Text) {xs ys : List UInt64} (h : xs.Perm ys) :
    mean kind xs = mean kind ys := by
  have hn : xs = [] ↔ ys = [] := by
    rw [← List.length_eq_zero_iff, h.length_eq, List.length_eq_zero_iff]
  unfold mean
  simp only [hn, total_eq_of_perm h, h.length_eq]

/-- **A summary depends on the records of each kind and not on their order.** -/
theorem Summary.ofTranscript_eq_of_perm {t t' : Transcript} (hb : t'.bandwidth.Perm t.bandwidth)
    (hs : t'.successes.Perm t.successes) (hf : t'.failures.Perm t.failures) :
    ofTranscript t' = ofTranscript t := by
  have hv : t'.bandwidthValues.Perm t.bandwidthValues := hb.map Sample.value
  unfold ofTranscript
  rw [mean_eq_of_perm _ hs, mean_eq_of_perm _ hv, hs.length_eq, hf.length_eq, hb.length_eq]

/-! ## 3. Files -/

/-- **The order of the lines does not matter.** If a content whose lines all end in a line feed is
    accepted, so are its lines in any other order. As many lines are read, each kind of record is
    found in another order only, and the summary and both its reports are the same. -/
theorem ofOpened_of_perm {path : Text} {content : Bytes} {lines : List Bytes} {t : Transcript}
    (ht : ∀ line ∈ segments content, IsTerminated line) (hp : lines.Perm (segments content))
    (hr : (Transcript.ofOpened path (.ok (.file content))).1 = .ok t) :
    ∃ t', (Transcript.ofOpened path (.ok (.file lines.flatten))).1 = .ok t' ∧
      t'.linesRead = t.linesRead ∧ t'.bandwidth.Perm t.bandwidth ∧
      t'.successes.Perm t.successes ∧ t'.failures.Perm t.failures ∧
      Summary.ofTranscript t' = Summary.ofTranscript t ∧
      ∀ k format, (Summary.ofTranscript t').map (Report.render format k) =
        (Summary.ofTranscript t).map (Report.render format k) := by
  obtain ⟨fs, hf, rfl⟩ := Transcript.ofOpened_eq_ok_iff.mp hr
  obtain ⟨fs', hf', hq⟩ := Transcript.reads_perm hp hf
  -- the lines are found again, since none of them can run into the next one
  have hs : segments lines.flatten = lines :=
    segments_flatten (cut_of_isTerminated fun line hl => ht line (hp.mem_iff.mp hl))
  have hb : (Transcript.ofFindings fs').bandwidth.Perm (Transcript.ofFindings fs).bandwidth :=
    hq.filterMap Findings.sample
  have hg : (Transcript.ofFindings fs').successes.Perm (Transcript.ofFindings fs).successes :=
    hq.filterMap Findings.success
  have hx : (Transcript.ofFindings fs').failures.Perm (Transcript.ofFindings fs).failures :=
    hq.filterMap Findings.failure
  have hm := Summary.ofTranscript_eq_of_perm hb hg hx
  refine ⟨Transcript.ofFindings fs', ?_, hq.length_eq, hb, hg, hx, hm, fun k format => by rw [hm]⟩
  rw [← hs] at hf'
  exact Transcript.ofOpened_of_reads hf'

/-- Three lines, and the last one put in front. -/
theorem ofOpened_of_perm_rotated :
    let sample := Utf8.encode "[E] T 1 100\n".toList
    let early := Utf8.encode "[E] S 1 2 50\n".toList
    let late := Utf8.encode "[E] S 3 4 7\r\n".toList
    let t : Transcript := { bandwidth := [⟨1, 100⟩], successes := [50, 7], linesRead := 3 }
    (∀ line ∈ segments [sample, early, late].flatten, IsTerminated line) ∧
    [late, sample, early].Perm (segments [sample, early, late].flatten) ∧
    (Transcript.ofOpened [] (.ok (.file [sample, early, late].flatten))).1 = .ok t ∧
    ∃ t', (Transcript.ofOpened [] (.ok (.file [late, sample, early].flatten))).1 = .ok t' ∧
      t'.linesRead = t.linesRead ∧ t'.bandwidth.Perm t.bandwidth ∧
      t'.successes.Perm t.successes ∧ t'.failures.Perm t.failures ∧
      Summary.ofTranscript t' = Summary.ofTranscript t ∧
      ∀ k format, (Summary.ofTranscript t').map (Report.render format k) =
        (Summary.ofTranscript t).map (Report.render format k) := by
  intro sample early late t
  have hs : segments [sample, early, late].flatten = [sample, early, late] := by decide +kernel
  have ht : ∀ line ∈ segments [sample, early, late].flatten, IsTerminated line := by
    intro line hl
    rw [hs] at hl
    have hb : lineFeed ∉ line.dropLast ∧ line = line.dropLast ++ [lineFeed] := by
      revert line
      decide +kernel
    exact ⟨line.dropLast, hb⟩
  have hp : [late, sample, early].Perm (segments [sample, early, late].flatten) := by
    rw [hs]
    exact (List.perm_append_comm : ([late] ++ [sample, early]).Perm _)
  have hr : (Transcript.ofOpened [] (.ok (.file [sample, early, late].flatten))).1 = .ok t := by
    decide +kernel
  exact ⟨ht, hp, hr, ofOpened_of_perm ht hp hr⟩

end LookupLog
