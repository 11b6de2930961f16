import LookupLog.Proofs.Report.Headline

/-!
# A text report cannot be forged

The name of a run stands in front of everything else and is not escaped, so it may look like any
number of lines of a report. Nevertheless a report says which run it is about: it is read from its
end, where the three numbers have no line feed.

* `text_eq_text_iff`: two reports are the same exactly if they have the same headline;
* `IsLines.length_eq`: a text that ends in a line feed has as many lines as line feeds;
* `isLines_text_iff`: a report is its four parts, line by line, exactly if the name has no line
  feed;
* `text_unambiguous`: all of it together.
-/

namespace LookupLog

/-! ## 1. Lines -/

/-- Texts without a line feed, which are the lines of a text that ends each of them with one. -/
structure IsLines (lines : List Text) (t : Text) : Prop where
  unbroken : ∀ line ∈ lines, '\n' ∉ line
  eq : t = lines.flatMap (· ++ ['\n'])

/-- **A text has as many lines as line feeds**, however it is cut into lines. -/
theorem IsLines.length_eq {lines : List Text} {t : Text} (h : IsLines lines t) :
    lines.length = t.count '\n' := by
  obtain ⟨hlines, rfl⟩ := h
  induction lines with
  | nil => rfl
  | cons line lines ih =>
    obtain ⟨hline, hlines⟩ := List.forall_mem_cons.mp hlines
    have h0 : line.count '\n' = 0 := List.count_eq_zero.mpr hline
    have h1 : ['\n'].count '\n' = 1 := rfl
    rw [List.flatMap_cons, List.count_append, List.count_append, h0, h1, ← ih hlines,
      List.length_cons]
    exact Nat.add_comm _ _

namespace Report

variable {s s' : Summary}

/-! ## 2. The lines of a report -/

/-- The four parts of a report. -/
def parts (k : Text) (s : Summary) : List Text :=
  ["k= ".toList ++ k,
    "Average latency ".toList ++ writeReal s.averageLatency,
    "Average bw  ".toList ++ writeReal s.averageBandwidth,
    "Failure rate ".toList ++ writeReal s.failureRate]

theorem text_eq_parts (k : Text) (s : Summary) :
    text k s = (parts k s).flatMap (· ++ ['\n']) := by
  rw [Headline.text_eq]
  unfold parts
  simp only [List.flatMap_cons, List.flatMap_nil, List.append_assoc, List.cons_append,
    List.nil_append, List.append_nil]

/-- A line feed in one of them is one of the name. -/
theorem lineFeed_not_mem_parts_iff (h : s.IsFinite) {k : Text} :
    (∀ part ∈ parts k s, '\n' ∉ part) ↔ '\n' ∉ k := by
  have hnumber : ∀ label : Text, '\n' ∉ label → ∀ x : Binary64, x.IsFinite →
      '\n' ∉ label ++ writeReal x := by
    intro label hl x hx
    exact List.not_mem_append hl (Headline.lineFeed_not_mem_writeReal hx)
  constructor
  · intro hparts hk
    exact hparts _ List.mem_cons_self (List.mem_append_right _ hk)
  · intro hk
    exact List.forall_mem_cons.mpr ⟨List.not_mem_append (by decide) hk,
      List.forall_mem_cons.mpr ⟨hnumber _ (by decide) _ h.averageLatency,
        List.forall_mem_cons.mpr ⟨hnumber _ (by decide) _ h.averageBandwidth,
          List.forall_mem_singleton.mpr (hnumber _ (by decide) _ h.failureRate)⟩⟩⟩

/-- **The parts are the lines** exactly if the name of the run has no line feed. -/
theorem isLines_text_iff (h : s.IsFinite) {k : Text} :
    IsLines (parts k s) (text k s) ↔ '\n' ∉ k := by
  rw [← lineFeed_not_mem_parts_iff h]
  exact ⟨fun hl => hl.unbroken, fun hp => ⟨hp, text_eq_parts k s⟩⟩

/-- **Every line feed of the name is one more line.** -/
theorem count_lineFeed_text (h : s.IsFinite) (k : Text) :
    (text k s).count '\n' = k.count '\n' + 4 := by
  -- the same stands around every name, and around the empty one it is four lines
  have htext : ∀ k, text k s =
      "k= ".toList ++ k ++ ['\n'] ++ (parts [] s).tail.flatMap (· ++ ['\n']) := fun k =>
    (text_eq_parts k s).trans (List.flatMap_cons ..)
  have hempty : (text [] s).count '\n' = 4 :=
    ((isLines_text_iff h).mpr List.not_mem_nil).length_eq.symm
  rw [htext, List.append_nil] at hempty
  rw [htext, ← hempty]
  simp only [List.count_append]
  omega

/-! ## 3. What a report is about -/

/-- **Two reports are the same exactly if they say the same.** -/
theorem text_eq_text_iff (h : s.IsFinite) (h' : s'.IsFinite) {k k' : Text} :
    text k s = text k' s' ↔ s.headline k = s'.headline k' := by
  constructor
  · intro he
    have hread := congrArg Headline.ofText? he
    rw [Headline.ofText?_text k h, Headline.ofText?_text k' h'] at hread
    exact Option.some.inj hread
  · intro he
    obtain ⟨hk, hl, hb, hr⟩ := Headline.mk.inj he
    show text k s = text k' s'
    unfold text
    rw [hk, hl, hb, hr]

/-- **A report in text can be read back without doubt**, whatever the name of the run is: also if it
    has line feeds, or lines like those of a report. Two reports are the same exactly if they are
    about the same run with the same three numbers, bit for bit. A report is four lines, its parts,
    exactly if the name has no line feed, and a report of any name has one more line for each line
    feed of the name. -/
theorem text_unambiguous (h : s.IsFinite) (h' : s'.IsFinite) (k k' : Text) :
    (text k s = text k' s' ↔
      k = k' ∧ s.averageLatency.toBits = s'.averageLatency.toBits ∧
        s.averageBandwidth.toBits = s'.averageBandwidth.toBits ∧
        s.failureRate.toBits = s'.failureRate.toBits) ∧
    (IsLines (parts k s) (text k s) ↔ '\n' ∉ k) ∧
    ∀ lines, IsLines lines (text k s) → lines.length = k.count '\n' + 4 := by
  refine ⟨?_, isLines_text_iff h, fun lines hl => ?_⟩
  · rw [text_eq_text_iff h h', Binary64.toBits_inj, Binary64.toBits_inj, Binary64.toBits_inj,
      Summary.headline, Summary.headline, Headline.mk.injEq]
  · rw [hl.length_eq, count_lineFeed_text h]

/-- A name that looks like a whole report, next to the report that it imitates. -/
theorem text_unambiguous_forged :
    let s : Summary := ⟨.zero, .zero, .zero, 1, 0, 1⟩
    let forged := "8\nAverage latency 0.0\nAverage bw  0.0\nFailure rate 0.0\nk= 9".toList
    s.IsFinite ∧ text "8".toList s <+: text forged s ∧ text "8".toList s ≠ text forged s ∧
      IsLines (parts "8".toList s) (text "8".toList s) ∧
      ∀ lines, IsLines lines (text forged s) → lines.length = 8 := by
  intro s forged
  have hs : s.IsFinite := ⟨by decide, by decide, by decide⟩
  obtain ⟨hsame, hlines, -⟩ := text_unambiguous hs hs "8".toList forged
  obtain ⟨-, -, hlength⟩ := text_unambiguous hs hs forged []
  have hname : "8".toList ≠ forged := by decide
  exact ⟨hs, by decide +kernel, fun he => hname (hsame.mp he).1, hlines.mpr (by decide), hlength⟩

end Report

end LookupLog
