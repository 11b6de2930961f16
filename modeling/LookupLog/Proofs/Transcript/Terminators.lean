import LookupLog.Proofs.Transcript.Calls
import Mathlib.Data.List.Forall2
import Mathlib.Data.List.Infix

/-!
# What is stripped of a line

The terminator of a line is a line feed, or a carriage return and a line feed; any other carriage
return belongs to the text (`WithoutTerminator`). The reader drops the line feed first and then a
carriage return, whether or not there was a line feed. So it strips just the terminators of all
lines exactly if the content does not end in a carriage return, and a content without a carriage
return before a line feed can be put together again from the returned texts exactly then
(`texts_of_calls`). Otherwise that last carriage return is lost, and nothing else is
(`texts_of_lone_carriage_return`).
-/

namespace LookupLog

/-! ## 1. One line -/

/-- A text is a line without its terminator, which is `\n` or `\r\n`; a line need not have one. -/
inductive WithoutTerminator : (line text : Text) → Prop where
  | lineFeed {text : Text} (h : text.getLast? ≠ some '\r') : WithoutTerminator (text ++ ['\n']) text
  | carriageReturnLineFeed (text : Text) : WithoutTerminator (text ++ ['\r', '\n']) text
  | nothing {line : Text} (h : line.getLast? ≠ some '\n') : WithoutTerminator line line

theorem dropLastIf_eq_self_iff {c : Char} {text : Text} :
    text.dropLastIf c = text ↔ text.getLast? ≠ some c := by
  unfold Text.dropLastIf
  split
  · rename_i h
    obtain ⟨init, rfl⟩ := List.getLast?_eq_some_iff.mp h
    simp
  · rename_i h
    exact iff_of_true rfl h

theorem lineText_append_lineFeed (body : Text) :
    lineText (body ++ ['\n']) = body.dropLastIf '\r' := by
  rw [lineText, List.getLast?_concat, if_pos rfl, List.dropLast_concat]

/-- There is one text for each line. -/
theorem withoutTerminator_iff {line text : Text} :
    WithoutTerminator line text ↔ text = lineText line := by
  constructor
  · intro h
    cases h with
    | lineFeed h => rw [lineText_append_lineFeed, dropLastIf_eq_self_iff.mpr h]
    | carriageReturnLineFeed =>
      rw [List.append_cons, lineText_append_lineFeed, Text.dropLastIf_append_self]
    | nothing h => rw [lineText, if_neg h]
  · rintro rfl
    by_cases hl : line.getLast? = some '\n'
    · obtain ⟨body, rfl⟩ := List.getLast?_eq_some_iff.mp hl
      rw [lineText_append_lineFeed]
      by_cases hb : body.getLast? = some '\r'
      · obtain ⟨init, rfl⟩ := List.getLast?_eq_some_iff.mp hb
        rw [Text.dropLastIf_append_self, List.append_assoc]
        exact .carriageReturnLineFeed init
      · rw [dropLastIf_eq_self_iff.mpr hb]
        exact .lineFeed hb
    · rw [lineText, if_neg hl]
      exact .nothing hl

theorem stripTerminator_of_unterminated {line : Text} (h : line.getLast? ≠ some '\n') :
    stripTerminator line = line.dropLastIf '\r' := by
  rw [stripTerminator, dropLastIf_eq_self_iff.mpr h]

/-- **The reader strips the terminator of a line and nothing else**, unless the line ends in a
    carriage return without a line feed. -/
theorem stripTerminator_eq_lineText_iff {line : Text} :
    stripTerminator line = lineText line ↔ line.getLast? ≠ some '\r' := by
  by_cases hl : line.getLast? = some '\n'
  · obtain ⟨body, rfl⟩ := List.getLast?_eq_some_iff.mp hl
    rw [lineText_append_lineFeed, stripTerminator, Text.dropLastIf_append_self, hl]
    simp
  · rw [stripTerminator_of_unterminated hl, lineText, if_neg hl, dropLastIf_eq_self_iff]

/-! ## 2. The lines of a text -/

/-- Lines: some texts with a line feed behind each, and what follows the last one, unless that is
    empty. -/
def linesWith (bodies : List Text) (rest : Text) : List Text :=
  bodies.map (· ++ ['\n']) ++ if rest = [] then [] else [rest]

theorem flatten_linesWith (bodies : List Text) (rest : Text) :
    (linesWith bodies rest).flatten = (bodies.map (· ++ ['\n'])).flatten ++ rest := by
  unfold linesWith
  rw [List.flatten_append]
  split
  · rename_i h
    rw [h, List.flatten_nil]
  · rw [List.flatten_singleton]

/-- Every text can be cut behind its line feeds. -/
theorem exists_linesWith (text : Text) :
    ∃ bodies rest, (∀ body ∈ bodies, '\n' ∉ body) ∧ '\n' ∉ rest ∧
      text = (linesWith bodies rest).flatten := by
  induction text with
  | nil => exact ⟨[], [], nofun, nofun, rfl⟩
  | cons c text ih =>
    obtain ⟨bodies, rest, hb, hr, rfl⟩ := ih
    simp only [flatten_linesWith]
    by_cases hc : c = '\n'
    · subst hc
      exact ⟨[] :: bodies, rest, List.forall_mem_cons.mpr ⟨nofun, hb⟩, hr, rfl⟩
    · cases bodies with
      | nil => exact ⟨[], c :: rest, nofun, List.not_mem_cons_of_ne_of_not_mem (Ne.symm hc) hr, rfl⟩
      | cons body bodies =>
        obtain ⟨hbody, hb⟩ := List.forall_mem_cons.mp hb
        refine ⟨(c :: body) :: bodies, rest, List.forall_mem_cons.mpr ⟨?_, hb⟩, hr, rfl⟩
        exact List.not_mem_cons_of_ne_of_not_mem (Ne.symm hc) hbody

theorem encode_flatten (lines : List Text) :
    Utf8.encode lines.flatten = (lines.map Utf8.encode).flatten := by
  induction lines with
  | nil => rfl
  | cons line lines ih =>
    rw [List.flatten_cons, Utf8.encode_append, ih]
    rfl

/-- **The segments of a content are the lines of its text.** -/
theorem segments_encode {bodies : List Text} {rest : Text} (hb : ∀ body ∈ bodies, '\n' ∉ body)
    (hr : '\n' ∉ rest) : segments (Utf8.encode (linesWith bodies rest).flatten) =
      (linesWith bodies rest).map Utf8.encode := by
  rw [encode_flatten]
  apply segments_flatten
  unfold linesWith
  rw [List.map_append, List.map_map]
  refine Cut.append (fun line hl => ?_) ?_
  · obtain ⟨body, hm, rfl⟩ := List.mem_map.mp hl
    refine ⟨Utf8.encode body, mt lineFeed_mem_encode_iff.mp (hb body hm), ?_⟩
    exact Utf8.encode_append body ['\n']
  · split
    · exact .nil
    · rename_i hne
      refine .unterminated (mt lineFeed_mem_encode_iff.mp hr) fun he => hne ?_
      have hd := Utf8.decode?_encode rest
      rw [he] at hd
      exact (Option.some.inj (Utf8.decode?_encode [])).symm.trans (Option.some.inj hd) |>.symm

/-- A text ends in a carriage return exactly if what follows its last line feed does. -/
theorem getLast?_linesWith_iff {bodies : List Text} {rest : Text} :
    (linesWith bodies rest).flatten.getLast? = some '\r' ↔ rest.getLast? = some '\r' := by
  rw [flatten_linesWith]
  by_cases hr : rest = []
  · subst hr
    rw [List.append_nil]
    rcases List.eq_nil_or_concat bodies with rfl | ⟨init, last, rfl⟩
    · rfl
    · simp
  · rw [List.getLast?_append_of_ne_nil _ hr]

/-- So no line ends in one if the text does not. -/
theorem forall_linesWith_iff {bodies : List Text} {rest : Text} :
    (∀ line ∈ linesWith bodies rest, line.getLast? ≠ some '\r') ↔
      (linesWith bodies rest).flatten.getLast? ≠ some '\r' := by
  rw [Ne, getLast?_linesWith_iff, linesWith, List.forall_mem_append]
  have hb : ∀ line ∈ bodies.map (· ++ ['\n']), line.getLast? ≠ some '\r' := by
    intro line hl
    obtain ⟨body, -, rfl⟩ := List.mem_map.mp hl
    simp
  rw [and_iff_right hb]
  split
  · rename_i hr
    subst hr
    exact iff_of_true nofun nofun
  · exact List.forall_mem_singleton

/-! ## 3. The texts that are returned -/

namespace LineReader

/-- The texts of the lines that some calls returned. -/
def texts (r : LineReader) (calls : Nat) : List Text :=
  (r.returned calls).map Line.text

section Calls

variable {content : Bytes} {lines : List Text} (h : segments content = lines.map Utf8.encode)
  (path : Text)

include h

/-- A call returns the stripped text of its line. -/
theorem answer_of_lines {i : Nat} {line : Text} (hi : lines[i]? = some line) :
    (start path (.file content)).answer i =
      .ok (some { number := i + 1, text := stripTerminator line }) := by
  have hc : readableCount ((segments content).take i) = i := by
    refine readableCount_take_eq fun j hj => ?_
    have hl := (List.getElem?_eq_some_iff.mp hi).1
    refine ⟨Utf8.encode lines[j], ?_, by rw [isReadable, Utf8.decode?_encode]; rfl⟩
    rw [h, List.getElem?_map, List.getElem?_eq_getElem (Nat.lt_trans hj hl), Option.map_some]
  rw [answer_start, hc, h, List.getElem?_map, hi, Option.map_some, answerFor, Utf8.decode?_encode]

/-- Behind the last line a call returns nothing. -/
theorem answer_behind_lines : (start path (.file content)).answer lines.length = .ok none := by
  rw [answer_start, h, List.getElem?_map, List.getElem?_eq_none (Nat.le_refl _)]
  rfl

theorem texts_take {n : Nat} (hn : n ≤ lines.length) :
    (start path (.file content)).texts n = (lines.take n).map stripTerminator := by
  induction n with
  | zero => rfl
  | succ n ih =>
    have hi := List.getElem?_eq_getElem hn
    rw [texts, returned_succ, List.map_append, ← texts, ih (Nat.le_of_lt hn),
      answer_of_lines h path hi, List.take_add_one, hi, List.map_append]
    rfl

/-- **All calls together return the stripped texts of all lines.** -/
theorem texts_all : (start path (.file content)).texts lines.length =
    lines.map stripTerminator := by
  rw [texts_take h path (Nat.le_refl _), List.take_length]

end Calls

end LineReader

/-! ## 4. Putting lines together again -/

/-- Texts with a line feed between them, and one behind the last text if there has to be. -/
def rejoin (texts : List Text) (terminated : Bool) : Text :=
  ['\n'].intercalate texts ++ if terminated then ['\n'] else []

theorem intercalate_concat (sep : Text) (ps : List Text) (p : Text) :
    sep.intercalate (ps ++ [p]) = (ps.map (· ++ sep)).flatten ++ p := by
  induction ps with
  | nil => simp
  | cons q ps ih =>
    rw [List.cons_append, List.intercalate_cons_of_ne_nil (by simp), ih, List.map_cons,
      List.flatten_cons]
    simp only [List.append_assoc]

/-- Bodies and a rest in place of the rest of a text are put together behind the same line feeds. -/
theorem rejoin_linesWith (bodies : List Text) {rest : Text} (hr : '\n' ∉ rest) (rest' : Text) :
    rejoin (bodies ++ if rest = [] then [] else [rest'])
        ((linesWith bodies rest).flatten.getLast? = some '\n') =
      (bodies.map (· ++ ['\n'])).flatten ++ if rest = [] then [] else rest' := by
  rw [flatten_linesWith, rejoin]
  by_cases hne : rest = []
  · subst hne
    rw [if_pos rfl, if_pos rfl, List.append_nil, List.append_nil]
    rcases List.eq_nil_or_concat bodies with rfl | ⟨init, last, rfl⟩
    · rfl
    · rw [List.concat_eq_append, intercalate_concat]
      simp
  · have hl : rest.getLast? ≠ some '\n' := fun hl => hr (List.mem_of_getLast? hl)
    rw [if_neg hne, if_neg hne, intercalate_concat, List.getLast?_append_of_ne_nil _ hne]
    simp [hl]

/-- Without a carriage return before them, line feeds are all that is stripped. -/
theorem map_stripTerminator_linesWith {bodies : List Text} {rest : Text} (hr : '\n' ∉ rest)
    (hc : ¬['\r', '\n'] <:+: (linesWith bodies rest).flatten) :
    (linesWith bodies rest).map stripTerminator =
      bodies ++ if rest = [] then [] else [rest.dropLastIf '\r'] := by
  have hb : ∀ body ∈ bodies, stripTerminator (body ++ ['\n']) = body := by
    intro body hm
    rw [stripTerminator, Text.dropLastIf_append_self, dropLastIf_eq_self_iff]
    intro hl
    obtain ⟨init, rfl⟩ := List.getLast?_eq_some_iff.mp hl
    refine hc (List.IsInfix.trans ?_ (List.infix_of_mem_flatten (List.mem_append_left _
      (List.mem_map_of_mem hm))))
    exact ⟨init, [], by simp⟩
  have hl : rest.getLast? ≠ some '\n' := fun hl => hr (List.mem_of_getLast? hl)
  rw [linesWith, List.map_append, List.map_map]
  congr 1
  · exact (List.map_congr_left hb).trans (List.map_id bodies)
  · split
    · rfl
    · rw [List.map_singleton, stripTerminator_of_unterminated hl]

/-! ## 5. Whole contents -/

theorem forall₂_withoutTerminator_iff {lines texts : List Text} :
    List.Forall₂ WithoutTerminator lines texts ↔ texts = lines.map lineText := by
  have he : WithoutTerminator = fun line text => text = lineText line := by
    funext line text
    exact propext withoutTerminator_iff
  rw [he]
  constructor
  · intro h
    induction h with
    | nil => rfl
    | cons ht _ ih => rw [List.map_cons, ht, ih]
  · rintro rfl
    exact List.forall₂_map_right_iff.mpr (List.forall₂_same.mpr fun _ _ => rfl)

namespace LineReader

/-- **Reading strips the terminators of the lines and nothing else, exactly if the content does not
    end in a carriage return.** The calls return a text for each segment of the content, and then
    nothing. Each text is its segment without its terminator, wherever else carriage returns stand,
    exactly if there is none at the end of the content. If there is none before a line feed then the
    content is the texts put together again, with a line feed at the end if there was one, in the
    same case exactly. And if the content does end in one, that one is lost and nothing else. -/
theorem texts_of_calls (path text : Text) :
    let r := start path (.file (Utf8.encode text))
    ∃ lines : List Text, lines.flatten = text ∧
      segments (Utf8.encode text) = lines.map Utf8.encode ∧
      (∀ i < lines.length, ∃ line, r.answer i = .ok (some line)) ∧
      r.answer lines.length = .ok none ∧
      (List.Forall₂ WithoutTerminator lines (r.texts lines.length) ↔
        text.getLast? ≠ some '\r') ∧
      (¬['\r', '\n'] <:+: text →
        (rejoin (r.texts lines.length) (text.getLast? = some '\n') = text ↔
          text.getLast? ≠ some '\r')) ∧
      (text.getLast? = some '\r' →
        ∃ before texts last, lines = before ++ [last ++ ['\r']] ∧
          List.Forall₂ WithoutTerminator before texts ∧
          r.texts lines.length = texts ++ [last]) := by
  intro r
  obtain ⟨bodies, rest, hb, hr, rfl⟩ := exists_linesWith text
  have hs := segments_encode hb hr
  have ht : r.texts _ = _ := texts_all hs path
  refine ⟨linesWith bodies rest, rfl, hs, fun i hi => ⟨_, answer_of_lines hs path
    (List.getElem?_eq_getElem hi)⟩, answer_behind_lines hs path, ?_, fun hc => ?_, fun hl => ?_⟩
  · rw [ht, forall₂_withoutTerminator_iff, List.map_inj_left, ← forall_linesWith_iff]
    exact forall₂_congr fun _ _ => stripTerminator_eq_lineText_iff
  · rw [ht, map_stripTerminator_linesWith hr hc, rejoin_linesWith bodies hr, Ne,
      getLast?_linesWith_iff, flatten_linesWith, List.append_cancel_left_eq]
    split
    · rename_i hne
      subst hne
      exact iff_of_true rfl nofun
    · exact dropLastIf_eq_self_iff
  · rw [getLast?_linesWith_iff] at hl
    obtain ⟨last, rfl⟩ := List.getLast?_eq_some_iff.mp hl
    have hlines : linesWith bodies (last ++ ['\r']) =
        bodies.map (· ++ ['\n']) ++ [last ++ ['\r']] := by
      rw [linesWith, if_neg (by simp)]
    refine ⟨_, _, last, hlines, forall₂_withoutTerminator_iff.mpr rfl, ?_⟩
    rw [ht, hlines, List.map_append, List.map_singleton]
    congr 1
    · refine List.map_congr_left fun line hm => ?_
      obtain ⟨body, -, rfl⟩ := List.mem_map.mp hm
      rw [stripTerminator_eq_lineText_iff]
      simp
    · rw [stripTerminator_of_unterminated (by simp), Text.dropLastIf_append_self]

/-- One line without a line feed, of which the carriage return at the end is lost. -/
theorem texts_of_lone_carriage_return :
    let text := "abc\r".toList
    let r := start [] (.file (Utf8.encode text))
    segments (Utf8.encode text) = [Utf8.encode text] ∧
    r.answer 0 = .ok (some { number := 1, text := "abc".toList }) ∧ r.answer 1 = .ok none ∧
    r.texts 1 = ["abc".toList] ∧ ¬WithoutTerminator text "abc".toList ∧
    ¬['\r', '\n'] <:+: text ∧ rejoin (r.texts 1) (text.getLast? = some '\n') ≠ text := by
  intro text r
  have hw : ¬WithoutTerminator text "abc".toList := by
    rw [withoutTerminator_iff]
    decide
  exact ⟨by decide +kernel, by decide +kernel, by decide +kernel, by decide +kernel, hw, by decide,
    by decide +kernel⟩

end LineReader

end LookupLog
