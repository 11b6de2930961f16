import LookupLog.Proofs.Transcript.Patterns
import LookupLog.Proofs.Transcript.Reading
import Mathlib.Data.List.Induction

/-!
# Every line is accounted for

A line that is read is a record of one kind, or it is reported as skipped, and it is counted.

* `Cut.length_eq`: how many lines a content has, from its line feeds;
* `linesRead_ofFindings`: lines are records or empty, as long as no line has two records;
* `getElem?_readSegments`: the lines of a pass are the segments, in their places;
* `severalRecords_not_mem_ofOpened`: no pass ever meets a line with several records;
* `ofOpened_account`: so the lines of a transcript, its records and what is reported of its lines
  add up.
-/

namespace LookupLog

/-! ## 1. Line feeds -/

/-- Behind a line with its line feed, what follows decides whether a content ends in one. -/
theorem IsTerminated.append_iff {line rest : Bytes} (h : IsTerminated line) :
    (line ++ rest = [] ∨ (line ++ rest).getLast? = some lineFeed) ↔
      (rest = [] ∨ rest.getLast? = some lineFeed) := by
  obtain ⟨body, -, rfl⟩ := h
  by_cases hr : rest = []
  · subst hr
    simp
  · rw [List.getLast?_append_of_ne_nil _ hr]
    simp [hr]

/-- **A content has a line for each of its line feeds**, and one more if it does not end in one. -/
theorem Cut.length_eq {lines : List Bytes} (h : Cut lines) :
    lines.length = lines.flatten.count lineFeed +
      if lines.flatten = [] ∨ lines.flatten.getLast? = some lineFeed then 0 else 1 := by
  induction h with
  | nil => rfl
  | @unterminated line hf hne =>
    have hl : ¬(line = [] ∨ line.getLast? = some lineFeed) := by
      rintro (he | he)
      · exact hne he
      · exact hf (List.mem_of_getLast? he)
    rw [List.flatten_singleton, if_neg hl, List.count_eq_zero_of_not_mem hf]
    rfl
  | @cons line later ht _ ih =>
    rw [List.length_cons, ih, List.flatten_cons, List.count_append]
    simp only [ht.append_iff]
    obtain ⟨body, hb, rfl⟩ := ht
    rw [List.count_append, List.count_eq_zero_of_not_mem hb, List.count_singleton_self]
    omega

/-! ## 2. Records -/

namespace Transcript

/-- How many records a transcript has. -/
def recordCount (t : Transcript) : Nat :=
  t.bandwidth.length + t.successes.length + t.failures.length

/-- One more line adds its records. -/
theorem recordCount_add (t : Transcript) (f : Findings) :
    (t.add f).recordCount = t.recordCount + f.count := by
  simp only [recordCount, add, Findings.count, List.length_append]
  omega

/-- **Every line is a record or empty**, as long as no line has several. -/
theorem linesRead_ofFindings {fs : List Findings} (h : ∀ f ∈ fs, f.count ≤ 1) :
    (ofFindings fs).linesRead = (ofFindings fs).recordCount + fs.countP Findings.isEmpty := by
  -- on the end of the list, where a transcript grows
  induction fs using List.reverseRecOn with
  | nil => rfl
  | append_singleton fs f ih =>
    have ih := ih fun g hg => h g (List.mem_append_left _ hg)
    have hf : f.count ≤ 1 := h f (by simp)
    have hl : ((ofFindings fs).add f).linesRead = (ofFindings fs).linesRead + 1 := rfl
    rw [ofFindings_concat, recordCount_add, hl, ih, List.countP_append, List.countP_singleton]
    by_cases he : f.count = 0
    · have : f.isEmpty = true := decide_eq_true he
      rw [if_pos this]
      omega
    · have : ¬f.isEmpty = true := fun ht => he (of_decide_eq_true ht)
      rw [if_neg this]
      omega

end Transcript

/-! ## 3. The lines of a pass -/

/-- **A pass stops at its first segment, or it reads it** and goes on with the other ones. -/
theorem readSegments_cons_cases (path : Text) (n : Nat) (segment : Bytes) (later : List Bytes) :
    (∃ e, readSegments path n (segment :: later) = ([], some e)) ∨
    ∃ text findings, Utf8.decode? segment = some text ∧
      Findings.ofLine (n + 1) (stripTerminator text) = .ok findings ∧
      readSegments path n (segment :: later) =
        ({ line := { number := n + 1, text := stripTerminator text }, findings } ::
          (readSegments path (n + 1) later).1, (readSegments path (n + 1) later).2) := by
  rw [readSegments]
  cases hd : Utf8.decode? segment with
  | none => exact Or.inl ⟨_, rfl⟩
  | some text =>
    cases hf : Findings.ofLine (n + 1) (stripTerminator text) with
    | error e =>
      refine Or.inl ⟨e, ?_⟩
      simp only [hf]
    | ok findings =>
      refine Or.inr ⟨text, findings, rfl, hf, ?_⟩
      simp only [hf]

/-- So if it reads everything it reads the other ones, too. -/
theorem readSegments_cons_eq {path : Text} {n : Nat} {segment : Bytes} {later : List Bytes}
    {lines : List ReadLine} (h : readSegments path n (segment :: later) = (lines, none)) :
    ∃ text findings more, Utf8.decode? segment = some text ∧
      Findings.ofLine (n + 1) (stripTerminator text) = .ok findings ∧
      readSegments path (n + 1) later = (more, none) ∧
      lines = { line := { number := n + 1, text := stripTerminator text }, findings } :: more := by
  rcases readSegments_cons_cases path n segment later with ⟨e, he⟩ | ⟨text, findings, hd, hf, he⟩
  · rw [he] at h
    cases h
  · rw [he] at h
    obtain ⟨hl, hn⟩ := Prod.mk.inj h
    exact ⟨text, findings, _, hd, hf, Prod.ext rfl hn, hl.symm⟩

/-- The lines of a pass are numbered one after the other. -/
theorem numbers_readSegments {path : Text} {n : Nat} {segments : List Bytes}
    {lines : List ReadLine} (h : readSegments path n segments = (lines, none)) :
    lines.map (fun l => l.line.number) = List.range' (n + 1) segments.length := by
  induction segments generalizing n lines with
  | nil =>
    cases h
    rfl
  | cons segment later ih =>
    obtain ⟨text, findings, more, -, -, hm, rfl⟩ := readSegments_cons_eq h
    rw [List.map_cons, ih hm, List.length_cons, List.range'_succ]

/-- **The lines of a pass are the segments, in their places.** -/
theorem getElem?_readSegments {path : Text} {n : Nat} {segments : List Bytes}
    {lines : List ReadLine} (h : readSegments path n segments = (lines, none)) {i : Nat}
    {l : ReadLine} :
    lines[i]? = some l ↔ ∃ segment text, segments[i]? = some segment ∧
      Utf8.decode? segment = some text ∧
      l.line = { number := n + i + 1, text := stripTerminator text } ∧
      Findings.ofLine (n + i + 1) (stripTerminator text) = .ok l.findings := by
  induction segments generalizing n lines i with
  | nil =>
    cases h
    simp
  | cons segment later ih =>
    obtain ⟨text, findings, more, hd, hf, hm, rfl⟩ := readSegments_cons_eq h
    cases i with
    | zero =>
      obtain ⟨line, found⟩ := l
      simp only [List.getElem?_cons_zero, Option.some.injEq, ReadLine.mk.injEq, Nat.add_zero]
      constructor
      · intro he
        obtain ⟨rfl, rfl⟩ := he
        exact ⟨segment, text, rfl, hd, rfl, hf⟩
      · intro he
        obtain ⟨_, text', rfl, hd', rfl, hf'⟩ := he
        rw [hd] at hd'
        cases hd'
        rw [hf] at hf'
        cases hf'
        exact ⟨rfl, rfl⟩
    | succ i =>
      rw [List.getElem?_cons_succ, List.getElem?_cons_succ, ih hm, Nat.add_right_comm n 1 i,
        Nat.add_assoc n i 1]

/-- What a pass has found on a line is what the line yields. -/
theorem ofLine_of_mem_readSegments {path : Text} {n : Nat} {segments : List Bytes} {l : ReadLine}
    (h : l ∈ (readSegments path n segments).1) :
    Findings.ofLine l.line.number l.line.text = .ok l.findings := by
  induction segments generalizing n with
  | nil => cases h
  | cons segment later ih =>
    rcases readSegments_cons_cases path n segment later with ⟨e, he⟩ | ⟨text, findings, -, hf, he⟩
    · rw [he] at h
      cases h
    · rw [he] at h
      rcases List.mem_cons.mp h with rfl | h
      · exact hf
      · exact ih h

/-! ## 4. What is reported -/

/-- The number of a line that is reported to be skipped. -/
def Event.skippedNumber? : Event → Option Nat
  | .skippedLine number _ => some number
  | _ => none

/-- Of a line without several records only that it was skipped can be reported. -/
theorem ReadLine.events_eq {l : ReadLine} (h : l.findings.count ≤ 1) :
    l.events =
      if l.findings.isEmpty then [.skippedLine l.line.number l.line.text] else [] := by
  rw [events, if_neg (Nat.not_lt.mpr h)]

/-- So lines without several records report the numbers of those without any. -/
theorem skippedNumbers_events {lines : List ReadLine} (h : ∀ l ∈ lines, l.findings.count ≤ 1) :
    (lines.flatMap ReadLine.events).filterMap Event.skippedNumber? =
      (lines.filter fun l => l.findings.isEmpty).map fun l => l.line.number := by
  induction lines with
  | nil => rfl
  | cons l lines ih =>
    have ih := ih fun m hm => h m (List.mem_cons_of_mem _ hm)
    rw [List.flatMap_cons, List.filterMap_append, ih, ReadLine.events_eq (h l List.mem_cons_self)]
    by_cases he : l.findings.isEmpty = true
    · rw [if_pos he, List.filter_cons, if_pos he]
      rfl
    · rw [if_neg he, List.filter_cons, if_neg he]
      rfl

namespace Transcript

/-- The lines that a pass over what stands at a path reads. -/
def linesOf (path : Text) (node : Node) : List ReadLine :=
  ((LineReader.start path node).readFrom []).1

theorem linesOf_file (path : Text) (content : Bytes) :
    linesOf path (.file content) = (readSegments path 0 (segments content)).1 := by
  rw [linesOf, LineReader.start, readFrom_eq_readSegments]
  rfl

theorem linesOf_directory (path : Text) : linesOf path .directory = [] := by
  rw [linesOf, LineReader.readFrom_of_error rfl]
  rfl

/-- No pass meets a line with several records. -/
theorem count_le_one_of_mem_linesOf {path : Text} {node : Node} {l : ReadLine}
    (h : l ∈ linesOf path node) : l.findings.count ≤ 1 := by
  cases node with
  | file content =>
    rw [linesOf_file] at h
    exact Findings.count_le_one (ofLine_of_mem_readSegments h)
  | directory =>
    rw [linesOf_directory] at h
    cases h

/-- What a pass reports: that it begins, then each of its lines, and if it reaches its end, that. -/
theorem events_ofOpened (path : Text) (node : Node) :
    (ofOpened path (.ok node)).2 =
      .readingTranscript path :: (linesOf path node).flatMap ReadLine.events ++
        match (ofOpened path (.ok node)).1 with
        | .error _ => []
        | .ok t => closing path t := by
  simp only [ofOpened, linesOf]
  rcases (LineReader.start path node).readFrom [] with ⟨lines, _ | e⟩
  · rfl
  · exact (List.append_nil _).symm

/-- What is reported at the end of a pass. -/
theorem mem_closing_iff {path : Text} {t : Transcript} {event : Event} :
    event ∈ closing path t ↔
      event = .parsedTranscript t.linesRead t.bandwidth.length t.successes.length
        t.failures.length ∨ t.outcomeCount = 0 ∧ event = .noOutcomes path := by
  unfold closing
  rw [List.mem_cons]
  by_cases h : t.outcomeCount = 0 <;> simp [h]

/-- **What a pass can report**: that it begins, that a line on which nothing was found is skipped,
    and what there is to say at its end. -/
theorem mem_ofOpened_iff {path : Text} {node : Node} {event : Event} :
    event ∈ (ofOpened path (.ok node)).2 ↔
      event = .readingTranscript path ∨
      (∃ l ∈ linesOf path node, l.findings = .nothing ∧
        event = .skippedLine l.line.number l.line.text) ∨
      ∃ t, (ofOpened path (.ok node)).1 = .ok t ∧ event ∈ closing path t := by
  have hl : event ∈ (linesOf path node).flatMap ReadLine.events ↔
      ∃ l ∈ linesOf path node, l.findings = .nothing ∧
        event = .skippedLine l.line.number l.line.text := by
    rw [List.mem_flatMap]
    refine exists_congr fun l => and_congr_right fun hm => ?_
    rw [ReadLine.events_eq (count_le_one_of_mem_linesOf hm), ← Findings.isEmpty_iff]
    by_cases he : l.findings.isEmpty = true <;> simp [he]
  rw [events_ofOpened, List.cons_append, List.mem_cons, List.mem_append, hl]
  cases (ofOpened path (.ok node)).1 <;> simp

/-- **No pass ever reports a line with several records**, whether it reaches its end or not. -/
theorem severalRecords_not_mem_ofOpened (path : Text) (opened : Except FileError Node)
    (number count : Nat) (text : Text) :
    Event.severalRecords number count text ∉ (ofOpened path opened).2 := by
  intro h
  cases opened with
  | error cause => cases List.mem_singleton.mp h
  | ok node =>
    rcases mem_ofOpened_iff.mp h with h | ⟨l, -, -, h⟩ | ⟨t, -, h⟩
    · cases h
    · cases h
    · rcases mem_closing_iff.mp h with h | ⟨-, h⟩ <;> cases h

/-! ## 5. A pass that reaches its end -/

section Whole

variable {path : Text} {content : Bytes} {t : Transcript}

/-- A transcript is what the lines of its pass add up to, and these are all segments. -/
theorem eq_ofFindings_of_ok (h : (ofOpened path (.ok (.file content))).1 = .ok t) :
    readSegments path 0 (segments content) = (linesOf path (.file content), none) ∧
      t = ofFindings ((linesOf path (.file content)).map ReadLine.findings) := by
  rw [linesOf_file]
  unfold ofOpened at h
  simp only [LineReader.start, readFrom_eq_readSegments, List.reverse_nil, List.nil_append] at h
  rcases hr : readSegments path 0 (segments content) with ⟨lines, _ | e⟩
  · rw [hr] at h
    cases h
    exact ⟨rfl, rfl⟩
  · rw [hr] at h
    cases h

/-- The numbers that a pass reports to be skipped are those of its lines without a record. -/
theorem skippedNumbers_ofOpened (h : (ofOpened path (.ok (.file content))).1 = .ok t) :
    (ofOpened path (.ok (.file content))).2.filterMap Event.skippedNumber? =
      ((linesOf path (.file content)).filter fun l => l.findings.isEmpty).map
        fun l => l.line.number := by
  have hc : (closing path t).filterMap Event.skippedNumber? = [] := by
    refine List.filterMap_eq_nil_iff.mpr fun event he => ?_
    rcases mem_closing_iff.mp he with rfl | ⟨-, rfl⟩ <;> rfl
  rw [events_ofOpened, h, List.cons_append, List.filterMap_cons_none rfl, List.filterMap_append,
    hc, List.append_nil, skippedNumbers_events fun l hl => count_le_one_of_mem_linesOf hl]

/-- A line is reported to be skipped exactly if nothing is found on it. -/
theorem skippedLine_mem_iff (h : (ofOpened path (.ok (.file content))).1 = .ok t)
    {number : Nat} {text : Text} :
    .skippedLine number text ∈ (ofOpened path (.ok (.file content))).2 ↔
      ∃ i segment line, number = i + 1 ∧ (segments content)[i]? = some segment ∧
        Utf8.decode? segment = some line ∧ text = stripTerminator line ∧
        Findings.ofLine number text = .ok .nothing := by
  obtain ⟨hr, -⟩ := eq_ofFindings_of_ok h
  rw [mem_ofOpened_iff]
  constructor
  · intro hm
    rcases hm with hm | ⟨l, hl, hn, hm⟩ | ⟨u, -, hm⟩
    · cases hm
    · cases hm
      obtain ⟨i, hi⟩ := List.mem_iff_getElem?.mp hl
      obtain ⟨segment, line, hs, hd, hline, hf⟩ := (getElem?_readSegments hr).mp hi
      rw [hn] at hf
      rw [Nat.zero_add] at hline hf
      rw [hline]
      exact ⟨i, segment, line, rfl, hs, hd, rfl, hf⟩
    · rcases mem_closing_iff.mp hm with hm | ⟨-, hm⟩ <;> cases hm
  · intro hm
    obtain ⟨i, segment, line, rfl, hs, hd, rfl, hf⟩ := hm
    have hi : (linesOf path (.file content))[i]? =
        some { line := { number := i + 1, text := stripTerminator line },
               findings := .nothing } := by
      refine (getElem?_readSegments hr).mpr ⟨segment, line, hs, hd, ?_⟩
      rw [Nat.zero_add]
      exact ⟨rfl, hf⟩
    exact Or.inr (Or.inl ⟨_, List.mem_of_getElem? hi, rfl, rfl⟩)

/-- A missing outcome is reported exactly if there is none. -/
theorem noOutcomes_mem_iff (h : (ofOpened path (.ok (.file content))).1 = .ok t) :
    .noOutcomes path ∈ (ofOpened path (.ok (.file content))).2 ↔
      t.successes = [] ∧ t.failures = [] := by
  have ho : t.outcomeCount = 0 ↔ t.successes = [] ∧ t.failures = [] := by
    rw [outcomeCount, Nat.add_eq_zero_iff, List.length_eq_zero_iff, List.length_eq_zero_iff]
  rw [mem_ofOpened_iff, h, ← ho]
  constructor
  · intro hm
    rcases hm with hm | ⟨l, -, -, hm⟩ | ⟨u, hu, hm⟩
    · cases hm
    · cases hm
    · cases hu
      rcases mem_closing_iff.mp hm with hm | ⟨hz, -⟩
      · cases hm
      · exact hz
  · intro hz
    exact Or.inr (Or.inr ⟨t, rfl, mem_closing_iff.mpr (Or.inr ⟨hz, rfl⟩)⟩)

end Whole

/-- **Every line is accounted for exactly once.** Although each kind of record is tried on it, there
    is at most one record on a line, and no pass reports a line with several. If a transcript can be
    read, its lines are its records and the lines reported to be skipped; these are reported in
    their order, and they are exactly those on which nothing is found. There is a line for each line
    feed, and one more if the content does not end in one. A missing outcome is reported exactly
    if no lookup has ended. -/
theorem ofOpened_account (path : Text) :
    (∀ number text, Findings.ofPatterns number text = Findings.ofLine number text ∧
      ∀ f, Findings.ofLine number text = .ok f → f.count ≤ 1) ∧
    (∀ opened number count text,
      Event.severalRecords number count text ∉ (ofOpened path opened).2) ∧
    ∀ content t, (ofOpened path (.ok (.file content))).1 = .ok t →
      let events := (ofOpened path (.ok (.file content))).2
      let skipped := events.filterMap Event.skippedNumber?
      t.linesRead =
        t.bandwidth.length + t.successes.length + t.failures.length + skipped.length ∧
      skipped.Pairwise (· < ·) ∧
      (∀ number text, .skippedLine number text ∈ events ↔
        ∃ i segment line, number = i + 1 ∧ (segments content)[i]? = some segment ∧
          Utf8.decode? segment = some line ∧ text = stripTerminator line ∧
          Findings.ofLine number text = .ok .nothing) ∧
      t.linesRead = content.count lineFeed +
        (if content = [] ∨ content.getLast? = some lineFeed then 0 else 1) ∧
      (.noOutcomes path ∈ events ↔ t.successes = [] ∧ t.failures = []) := by
  refine ⟨fun number text => ⟨ofPatterns_eq_ofLine number text, fun f => Findings.count_le_one⟩,
    severalRecords_not_mem_ofOpened path, fun content t h => ?_⟩
  intro events skipped
  obtain ⟨hr, ht⟩ := eq_ofFindings_of_ok h
  have hs : skipped = ((linesOf path (.file content)).filter fun l => l.findings.isEmpty).map
      fun l => l.line.number := skippedNumbers_ofOpened h
  have hc : ∀ f ∈ (linesOf path (.file content)).map ReadLine.findings, f.count ≤ 1 := by
    intro f hf
    obtain ⟨l, hl, rfl⟩ := List.mem_map.mp hf
    exact count_le_one_of_mem_linesOf hl
  refine ⟨?_, ?_, fun number text => skippedLine_mem_iff h, ?_, noOutcomes_mem_iff h⟩
  · have hl := linesRead_ofFindings hc
    rw [← ht, List.countP_map, List.countP_eq_length_filter] at hl
    rw [hl, hs, List.length_map]
    rfl
  · have hn := numbers_readSegments hr
    have hp : ((linesOf path (.file content)).map fun l => l.line.number).Pairwise (· < ·) := by
      rw [hn]
      exact List.pairwise_lt_range'
    rw [hs]
    exact hp.sublist (List.filter_sublist.map _)
  · have hl := congrArg List.length (numbers_readSegments hr)
    obtain ⟨hf, hcut⟩ := flatten_segments_cut content
    have hlen := hcut.length_eq
    rw [hf] at hlen
    rw [List.length_map, List.length_range'] at hl
    rw [ht, ← hlen, ← hl]
    exact List.length_map _

/-- Five lines, of which the second and the fourth are skipped and the last one is not ended. -/
theorem ofOpened_account_mixed :
    let content := Utf8.encode "[E] T 1 100\nhello\n[E] S 1 2 50\r\n\n[E] F 5 6 99".toList
    let t : Transcript :=
      { bandwidth := [⟨1, 100⟩], successes := [50], failures := [99], linesRead := 5 }
    let events := (ofOpened [] (.ok (.file content))).2
    (ofOpened [] (.ok (.file content))).1 = .ok t ∧
    5 = 1 + 1 + 1 + (events.filterMap Event.skippedNumber?).length ∧
    .skippedLine 2 "hello".toList ∈ events ∧
    5 = content.count lineFeed +
      (if content = [] ∨ content.getLast? = some lineFeed then 0 else 1) ∧
    .noOutcomes [] ∉ events := by
  intro content t events
  have ht : (ofOpened [] (.ok (.file content))).1 = .ok t := by decide +kernel
  obtain ⟨hsum, -, hskip, hlines, hout⟩ := (ofOpened_account []).2.2 content t ht
  refine ⟨ht, hsum, (hskip 2 "hello".toList).mpr ?_, hlines, fun h => ?_⟩
  · exact ⟨1, Utf8.encode "hello\n".toList, "hello\n".toList, rfl, by decide +kernel,
      by decide +kernel, by decide +kernel, by decide +kernel⟩
  · cases (hout.mp h).1

end Transcript

end LookupLog
