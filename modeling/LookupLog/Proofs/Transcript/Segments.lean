import LookupLog.Transcript.Lines
import Mathlib.Data.List.Basic
import Mathlib.Data.List.TakeWhile

/-!
# The lines of a content

`segments` cuts a content after each of its line feeds. This file fixes what that means and relates
it to the reader, which cuts off one line at a time (`cutLine`):

* `segments_eq_iff`: the segments of a content are the only way to write it as a sequence of lines
  in which every line but the last ends in its only line feed (`Cut`);
* `segments_flatten`: so lines that were put together are found again;
* `segments_eq_cutLine`: the first segment is what `cutLine` cuts off, and the others are the
  segments of what is left.
-/

namespace LookupLog

/-! ## 1. Lines -/

/-- A line that ends in its only line feed. -/
def IsTerminated (line : Bytes) : Prop :=
  ∃ body, lineFeed ∉ body ∧ line = body ++ [lineFeed]

/-- The lines of a content: all of them end in their only line feed, except that the last one may
    have none; no line is empty. -/
inductive Cut : List Bytes → Prop where
  | nil : Cut []
  | unterminated {line : Bytes} (hf : lineFeed ∉ line) (hne : line ≠ []) : Cut [line]
  | cons {line : Bytes} {lines : List Bytes} (ht : IsTerminated line) (hc : Cut lines) :
      Cut (line :: lines)

/-- A line feed is a character of its own in UTF-8. -/
theorem lineFeed_mem_encode_iff {text : Text} : lineFeed ∈ Utf8.encode text ↔ '\n' ∈ text := by
  rw [Utf8.mem_encode_iff (by decide)]
  constructor
  · intro h
    obtain ⟨c, hc, he⟩ := h
    obtain rfl : c = '\n' := Char.toNat_inj.mp he
    exact hc
  · intro h
    exact ⟨'\n', h, rfl⟩

/-- Either a content has no line feed, or it falls apart after its first one. -/
theorem eq_line_append_or_not_mem (content : Bytes) :
    lineFeed ∉ content ∨
      ∃ body rest, lineFeed ∉ body ∧ content = body ++ lineFeed :: rest := by
  by_cases h : lineFeed ∈ content
  · obtain ⟨body, rest, he, hb⟩ := List.eq_append_cons_of_mem h
    exact Or.inr ⟨body, rest, hb, he⟩
  · exact Or.inl h

/-! ## 2. Segments -/

/-- **A line and its line feed are the first segment of whatever they begin.** -/
theorem segments_line_append {body : Bytes} (h : lineFeed ∉ body) (rest : Bytes) :
    segments (body ++ lineFeed :: rest) = (body ++ [lineFeed]) :: segments rest := by
  induction body with
  | nil => simp [segments]
  | cons b body ih =>
    have hb : b ≠ lineFeed := fun e => h (e ▸ List.mem_cons_self)
    have ih := ih fun hm => h (List.mem_cons_of_mem b hm)
    rw [List.cons_append, segments, if_neg hb, ih]
    rfl

/-- Without a line feed there is one segment. -/
theorem segments_of_not_mem {line : Bytes} (h : lineFeed ∉ line) (hne : line ≠ []) :
    segments line = [line] := by
  induction line with
  | nil => exact absurd rfl hne
  | cons b line ih =>
    have hb : b ≠ lineFeed := fun e => h (e ▸ List.mem_cons_self)
    rw [segments, if_neg hb]
    by_cases hl : line = []
    · subst hl
      rfl
    · rw [ih (fun hm => h (List.mem_cons_of_mem b hm)) hl]

/-- **Lines that were put together are found again.** -/
theorem segments_flatten {lines : List Bytes} (h : Cut lines) : segments lines.flatten = lines := by
  induction h with
  | nil => rfl
  | unterminated hf hne => simpa using segments_of_not_mem hf hne
  | cons ht _ ih =>
    obtain ⟨body, hb, rfl⟩ := ht
    rw [List.flatten_cons, List.append_assoc, List.singleton_append, segments_line_append hb, ih]

/-- Cutting after the line feeds loses nothing and gives lines. -/
theorem flatten_segments_cut (content : Bytes) :
    (segments content).flatten = content ∧ Cut (segments content) := by
  -- on the length, since what follows a line is only a part of the tail
  induction hn : content.length using Nat.strong_induction_on generalizing content with
  | _ n ih =>
    rcases eq_line_append_or_not_mem content with hf | ⟨body, rest, hb, rfl⟩
    · by_cases hne : content = []
      · subst hne
        exact ⟨rfl, .nil⟩
      · rw [segments_of_not_mem hf hne]
        exact ⟨by simp, .unterminated hf hne⟩
    · have hlt : rest.length < n := by
        rw [← hn, List.length_append, List.length_cons]
        omega
      obtain ⟨he, hc⟩ := ih _ hlt rest rfl
      rw [segments_line_append hb]
      exact ⟨by simp [he], .cons ⟨body, hb, rfl⟩ hc⟩

/-- **The segments of a content are the only way to write it as lines.** -/
theorem segments_eq_iff {content : Bytes} {lines : List Bytes} :
    segments content = lines ↔ lines.flatten = content ∧ Cut lines := by
  constructor
  · rintro rfl
    exact flatten_segments_cut content
  · intro h
    obtain ⟨rfl, hc⟩ := h
    exact segments_flatten hc

/-- Only an empty content has no segment. -/
theorem segments_eq_nil_iff {content : Bytes} : segments content = [] ↔ content = [] := by
  constructor
  · intro h
    rw [← (flatten_segments_cut content).1, h]
    rfl
  · rintro rfl
    rfl

/-! ## 3. Lines behind lines -/

/-- Lines go on behind lines that all have their line feed. -/
theorem Cut.append {before lines : List Bytes} (ht : ∀ line ∈ before, IsTerminated line)
    (hc : Cut lines) : Cut (before ++ lines) := by
  induction before with
  | nil => exact hc
  | cons line before ih =>
    exact .cons (ht line List.mem_cons_self) (ih fun l hl => ht l (List.mem_cons_of_mem _ hl))

/-- Lines that all have their line feed are lines. -/
theorem cut_of_isTerminated {lines : List Bytes} (h : ∀ line ∈ lines, IsTerminated line) :
    Cut lines := by
  rw [← List.append_nil lines]
  exact Cut.append h .nil

/-- If the last line has its line feed, all lines have theirs. -/
theorem Cut.isTerminated {lines : List Bytes} (h : Cut lines)
    (hl : lines.flatten.getLast? = some lineFeed) : ∀ line ∈ lines, IsTerminated line := by
  induction h with
  | nil => cases hl
  | unterminated hf _ =>
    rw [List.flatten_cons, List.flatten_nil, List.append_nil] at hl
    exact absurd (List.mem_of_getLast? hl) hf
  | @cons first later ht hc ih =>
    intro line hm
    rcases List.mem_cons.mp hm with rfl | hm
    · exact ht
    · have hne : later.flatten ≠ [] := by
        intro he
        rw [← segments_flatten hc, he] at hm
        cases hm
      rw [List.flatten_cons, List.getLast?_append_of_ne_nil _ hne] at hl
      exact ih hl line hm

/-- **Behind a content without an unfinished line the segments of another one follow.** -/
theorem segments_append {content : Bytes}
    (h : content = [] ∨ content.getLast? = some lineFeed) (more : Bytes) :
    segments (content ++ more) = segments content ++ segments more := by
  obtain ⟨hf, hc⟩ := flatten_segments_cut content
  obtain ⟨hf', hc'⟩ := flatten_segments_cut more
  rw [segments_eq_iff]
  refine ⟨by rw [List.flatten_append, hf, hf'], Cut.append (fun line hm => ?_) hc'⟩
  rcases h with rfl | h
  · cases hm
  · rw [← hf] at h
    exact hc.isTerminated h line hm

/-! ## 4. Cutting off one line -/

/-- What is cut off a content that begins with a line. -/
theorem cutLine_line_append {body : Bytes} (h : lineFeed ∉ body) (rest : Bytes) :
    cutLine (body ++ lineFeed :: rest) = (body ++ [lineFeed], rest) := by
  have hp : ∀ b ∈ body, decide (b ≠ lineFeed) = true := by
    intro b hb
    exact decide_eq_true fun e => h (e ▸ hb)
  rw [cutLine, List.takeWhile_append_of_pos hp, List.dropWhile_append_of_pos hp]
  simp

/-- Without a line feed the whole content is cut off. -/
theorem cutLine_of_not_mem {line : Bytes} (h : lineFeed ∉ line) : cutLine line = (line, []) := by
  have hp : ∀ b ∈ line, decide (b ≠ lineFeed) = true := by
    intro b hb
    exact decide_eq_true fun e => h (e ▸ hb)
  rw [cutLine, List.takeWhile_eq_self_iff.mpr hp, List.dropWhile_eq_nil_iff.mpr hp]
  simp

/-- **Cutting off one line takes the first segment and leaves the others.** -/
theorem segments_eq_cutLine {content : Bytes} (hne : content ≠ []) :
    segments content = (cutLine content).1 :: segments (cutLine content).2 := by
  rcases eq_line_append_or_not_mem content with hf | ⟨body, rest, hb, rfl⟩
  · rw [cutLine_of_not_mem hf, segments_of_not_mem hf hne]
    rfl
  · rw [cutLine_line_append hb, segments_line_append hb]

end LookupLog
