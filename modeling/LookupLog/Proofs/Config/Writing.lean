import LookupLog.Proofs.Config.Loading

/-!
# Configurations that are written to a file

A template with its placeholder, and perhaps a format, written down as a document (`IsWritten`): one
line for each of them, in either order. The characters that cannot stand between double quotes are
escaped.

* `exists_isWritten`: everything can be written;
* `loads_written`: and what is written is loaded, character for character.
-/

namespace LookupLog.Config

open Toml TomlGrammar JsonReader

/-! ## 1. What is written -/

/-- Cannot stand in a string as it is. -/
def IsControl (c : Char) : Prop :=
  c.toNat < 0x20 ∨ c.toNat = 0x7f

instance (c : Char) : Decidable (IsControl c) :=
  inferInstanceAs (Decidable (c.toNat < 0x20 ∨ c.toNat = 0x7f))

/-- How a character is written between double quotes. -/
inductive WritesChar : Text → Char → Prop where
  | quote : WritesChar ['\\', '"'] '"'
  | backslash : WritesChar ['\\', '\\'] '\\'
  | control {digits : Text} {c : Char} (hc : IsControl c) (hd : IsCode 4 digits c.toNat) :
      WritesChar ('\\' :: 'u' :: digits) c
  | plain {c : Char} (hq : c ≠ '"') (hb : c ≠ '\\') (hc : ¬IsControl c) : WritesChar [c] c

/-- How a text is written between double quotes. -/
inductive Writes : Text → (text : Text) → Prop where
  | nil : Writes [] []
  | cons {written rest text : Text} {c : Char} (hc : WritesChar written c) (hr : Writes rest text) :
      Writes (written ++ rest) (c :: text)

/-- The end of a line in either style. -/
inductive IsLineEnd : Text → Prop where
  | lineFeed : IsLineEnd ['\n']
  | both : IsLineEnd ['\r', '\n']

/-- The assignment of a string to a name. -/
def line (name written : Text) : Text :=
  name ++ ([' ', '=', ' ', '"'] ++ (written ++ ['"']))

/-- The line of a template. -/
inductive IsTemplateLine (template : Text) : Text → Prop where
  | mk {written lineEnd : Text} (hw : Writes written template) (he : IsLineEnd lineEnd) :
      IsTemplateLine template (line templateKey written ++ lineEnd)

/-- The line of a format. -/
inductive IsFormatLine (format : ReportFormat) : Text → Prop where
  | mk {lineEnd : Text} (he : IsLineEnd lineEnd) :
      IsFormatLine format (line formatKey format.name ++ lineEnd)

/-- **A document in which a template is written**, and perhaps a format, before or behind it. -/
inductive IsWritten (template : Text) : Option ReportFormat → Text → Prop where
  | template {t : Text} (ht : IsTemplateLine template t) : IsWritten template none t
  | templateFirst {t f : Text} {format : ReportFormat} (ht : IsTemplateLine template t)
      (hf : IsFormatLine format f) : IsWritten template (some format) (t ++ f)
  | formatFirst {t f : Text} {format : ReportFormat} (hf : IsFormatLine format f)
      (ht : IsTemplateLine template t) : IsWritten template (some format) (f ++ t)

/-! ## 2. Everything can be written -/

theorem hexValue?_digitChar : ∀ digit < 16, hexValue? (Nat.digitChar digit) = some digit := by
  decide

/-- A control character has a code of four digits. -/
theorem exists_isCode {n : Nat} (h : n < 256) : ∃ digits, IsCode 4 digits n := by
  have hzero : hexValue? '0' = some 0 := rfl
  have hhigh := hexValue?_digitChar (n / 16) (by omega)
  have hlow := hexValue?_digitChar (n % 16) (by omega)
  have hcode : Completes 3 0 _ _ := .more hzero (.more hzero (.more hhigh (.last hlow)))
  have hn : 16 * (16 * (16 * (16 * 0 + 0) + 0) + n / 16) + n % 16 = n := by omega
  rw [hn] at hcode
  exact ⟨_, hcode⟩

theorem exists_writesChar (c : Char) : ∃ written, WritesChar written c := by
  by_cases hq : c = '"'
  · subst hq
    exact ⟨_, .quote⟩
  by_cases hb : c = '\\'
  · subst hb
    exact ⟨_, .backslash⟩
  by_cases hc : IsControl c
  · obtain ⟨digits, hd⟩ := exists_isCode (n := c.toNat) (by unfold IsControl at hc; omega)
    exact ⟨_, .control hc hd⟩
  · exact ⟨_, .plain hq hb hc⟩

theorem exists_writes (text : Text) : ∃ written, Writes written text := by
  induction text with
  | nil => exact ⟨_, .nil⟩
  | cons c text ih =>
    obtain ⟨written, hw⟩ := exists_writesChar c
    obtain ⟨rest, hr⟩ := ih
    exact ⟨_, .cons hw hr⟩

theorem exists_isWritten (template : Text) (format : Option ReportFormat) :
    ∃ document, IsWritten template format document := by
  obtain ⟨written, hw⟩ := exists_writes template
  have ht : IsTemplateLine template _ := .mk hw .lineFeed
  cases format with
  | none => exact ⟨_, .template ht⟩
  | some format => exact ⟨_, .templateFirst ht (.mk .lineFeed)⟩

/-! ## 3. What is written is in the grammar -/

theorem isPlain_of_not_isControl {c : Char} (h : ¬IsControl c) : isPlain c = true := by
  unfold IsControl at h
  unfold isPlain
  rw [decide_eq_true_eq]
  omega

theorem WritesChar.isBasicChar {written : Text} {c : Char} (h : WritesChar written c) :
    IsBasicChar written c := by
  cases h with
  | quote => exact .letter (by decide)
  | backslash => exact .letter (by decide)
  | control _ hd => exact .short hd
  | plain hq hb hc => exact .plain hq hb (isPlain_of_not_isControl hc)

theorem Writes.isBasic {written text : Text} (h : Writes written text) : IsBasic written text := by
  induction h with
  | nil => exact .nil
  | cons hc _ ih => exact .cons hc.isBasicChar ih

theorem isBasic_of_forall {t : Text} (h : ∀ c ∈ t, c ≠ '"' ∧ c ≠ '\\' ∧ isPlain c = true) :
    IsBasic t t := by
  induction t with
  | nil => exact .nil
  | cons c t ih =>
    obtain ⟨⟨hq, hb, hp⟩, h⟩ := List.forall_mem_cons.mp h
    exact IsBasic.cons (.plain hq hb hp) (ih h)

theorem isBasic_name (format : ReportFormat) : IsBasic format.name format.name := by
  have hall : format.name.all (fun c => c ≠ '"' ∧ c ≠ '\\' ∧ isPlain c = true) = true := by
    cases format
    all_goals rfl
  exact isBasic_of_forall fun c hc => of_decide_eq_true (List.all_eq_true.mp hall c hc)

/-! ## 4. Lines -/

/-- A carriage return and a line feed become a line feed, and what stands before them stays. -/
theorem unifyBreaks_append {body lineEnd : Text} (hb : ∀ c ∈ body, c ≠ '\r')
    (he : IsLineEnd lineEnd) (rest : Text) :
    unifyBreaks (body ++ (lineEnd ++ rest)) = body ++ '\n' :: unifyBreaks rest := by
  induction body with
  | nil =>
    cases he
    all_goals simp [unifyBreaks]
  | cons c body ih =>
    obtain ⟨hc, hb⟩ := List.forall_mem_cons.mp hb
    rw [List.cons_append, unifyBreaks, if_neg (fun h => hc h.1), ih hb, List.cons_append]

/-- It is an assignment of the grammar. -/
theorem isStatement_line {name content text : Text} (hn : name = templateKey ∨ name = formatKey)
    (hc : IsBasic content text) : IsStatement maxKeyParts maxDepth (line name content)
      (.assign ⟨[], name⟩ (.string text)) := by
  have hblank : IsBlanks [' '] := List.forall_mem_singleton.mpr rfl
  have hpart : IsKeyPart name name := by
    rcases hn with rfl | rfl
    · exact .bare (List.all_eq_true.mp rfl) (List.cons_ne_nil _ _)
    · exact .bare (List.all_eq_true.mp rfl) (List.cons_ne_nil _ _)
  have hkey : IsWholeKey maxKeyParts (name ++ [' ']) ⟨[], name⟩ :=
    .mk (.last hpart) (Nat.succ_le_succ (Nat.zero_le _)) rfl hblank
  have hvalue : IsValue maxKeyParts maxDepth ('"' :: (content ++ ['"'])) (.string text) :=
    IsNested.scalar (.string (.basic hc))
  have hline : line name content =
      name ++ [' '] ++ '=' :: ([' '] ++ '"' :: (content ++ ['"'])) := by
    simp [line]
  rw [hline]
  exact .assign (.mk hkey hblank hvalue)

theorem ne_of_isPlain {c : Char} (h : isPlain c = true) : c ≠ '\r' := by
  intro hc
  subst hc
  cases h

/-- The line that is written is a line of the document. -/
theorem unifyBreaks_line {name content text lineEnd : Text}
    (hn : name = templateKey ∨ name = formatKey)
    (hc : IsBasic content text) (he : IsLineEnd lineEnd) (rest : Text) :
    unifyBreaks (line name content ++ lineEnd ++ rest) =
      line name content ++ '\n' :: unifyBreaks rest := by
  have hname : ∀ c ∈ name, isPlain c = true := by
    refine List.all_eq_true.mp ?_
    rcases hn with rfl | rfl
    all_goals rfl
  have hmiddle : ∀ c ∈ [' ', '=', ' ', '"'], isPlain c = true := List.all_eq_true.mp rfl
  have hline : ∀ c ∈ line name content, isPlain c = true := by
    refine List.forall_mem_append.mpr ⟨hname, List.forall_mem_append.mpr ⟨hmiddle, ?_⟩⟩
    exact List.forall_mem_append.mpr ⟨isPlain_of_isBasic hc, List.all_eq_true.mp rfl⟩
  have hbody : ∀ c ∈ line name content, c ≠ '\r' := fun c hm => ne_of_isPlain (hline c hm)
  rw [List.append_assoc, unifyBreaks_append hbody he]

/-! ## 5. Documents -/

/-- Lines that assign strings to names. -/
inductive AreLines : List (Text × Text) → Text → Prop where
  | nil : AreLines [] []
  | cons {name content text lineEnd t : Text} {assigned : List (Text × Text)}
      (hn : name = templateKey ∨ name = formatKey) (hc : IsBasic content text)
      (he : IsLineEnd lineEnd) (ht : AreLines assigned t) :
      AreLines ((name, text) :: assigned) (line name content ++ lineEnd ++ t)

/-- The statements on them are these assignments. -/
theorem AreLines.isBody {assigned : List (Text × Text)} {t : Text} (h : AreLines assigned t) :
    IsBody maxKeyParts maxDepth (unifyBreaks t)
      (assigned.map fun a => .assign ⟨[], a.1⟩ (.string a.2)) := by
  induction h with
  | nil => exact .last (.blank isBlanks_nil .none)
  | cons hn hc he _ ih =>
    have hline := IsLine.statement isBlanks_nil (isStatement_line hn hc) isBlanks_nil .none
    rw [List.nil_append, List.append_nil, List.append_nil] at hline
    rw [unifyBreaks_line hn hc he]
    exact .cons hline ih

theorem AreLines.dropByteOrderMark {assigned : List (Text × Text)} {t : Text}
    (h : AreLines assigned t) : Toml.dropByteOrderMark t = t := by
  cases h with
  | nil => rfl
  | cons hn =>
    rcases hn with rfl | rfl
    all_goals rfl

/-- Lines are a document. -/
theorem AreLines.document? {assigned : List (Text × Text)} {t : Text} {entries : Entries}
    (h : AreLines assigned t)
    (he : entries? (assigned.map fun a => .assign ⟨[], a.1⟩ (.string a.2)) = some entries) :
    Toml.document? t = some entries := by
  refine document?_eq_some_iff.mpr ⟨_, ?_, entries?_eq_some_iff.mp he⟩
  unfold IsDocument
  rw [h.dropByteOrderMark]
  exact h.isBody

/-- What is written are lines. -/
theorem IsWritten.areLines {template : Text} {format : Option ReportFormat} {document : Text}
    (h : IsWritten template format document) :
    AreLines [(templateKey, template)] document ∧ format = none ∨
      ∃ f, format = some f ∧
        (AreLines [(templateKey, template), (formatKey, f.name)] document ∨
          AreLines [(formatKey, f.name), (templateKey, template)] document) := by
  have ht : ∀ {t rest : Text} {assigned : List (Text × Text)}, IsTemplateLine template t →
      AreLines assigned rest → AreLines ((templateKey, template) :: assigned) (t ++ rest) := by
    intro t rest assigned ht hr
    obtain ⟨hw, he⟩ := ht
    exact .cons (Or.inl rfl) hw.isBasic he hr
  have hf : ∀ {t rest : Text} {f : ReportFormat} {assigned : List (Text × Text)}, IsFormatLine f t →
      AreLines assigned rest → AreLines ((formatKey, f.name) :: assigned) (t ++ rest) := by
    intro t rest f assigned hf hr
    obtain ⟨he⟩ := hf
    exact .cons (Or.inr rfl) (isBasic_name f) he hr
  cases h with
  | template h =>
    refine Or.inl ⟨?_, rfl⟩
    have := ht h .nil
    rwa [List.append_nil] at this
  | templateFirst h h' =>
    refine Or.inr ⟨_, rfl, Or.inl (ht h ?_)⟩
    have := hf h' .nil
    rwa [List.append_nil] at this
  | formatFirst h h' =>
    refine Or.inr ⟨_, rfl, Or.inr (hf h ?_)⟩
    have := ht h' .nil
    rwa [List.append_nil] at this

/-- **A configuration that was written is loaded** as it was, whatever the template looks like. -/
theorem loads_written (path : Text) {template : Text} (format : Option ReportFormat)
    (hp : Template.placeholder <:+: template) :
    (∃ document, IsWritten template format document) ∧
      ∀ document, IsWritten template format document →
        ofOpened path (.ok (.file (Utf8.encode document))) = .ok ⟨some template, format⟩ := by
  refine ⟨exists_isWritten template format, fun document hd => ?_⟩
  have hentries : ∃ entries, Toml.document? document = some entries ∧
      ofEntries entries = .ok ⟨some template, format⟩ := by
    rcases hd.areLines with ⟨hl, rfl⟩ | ⟨f, rfl, hl | hl⟩
    · exact ⟨_, hl.document? rfl, rfl⟩
    · refine ⟨_, hl.document? rfl, ?_⟩
      cases f
      all_goals rfl
    · refine ⟨_, hl.document? rfl, ?_⟩
      cases f
      all_goals rfl
  obtain ⟨entries, he, hc⟩ := hentries
  rw [ofOpened_encode, ofText_of_template he hc rfl, Settings.checkTemplate_of_placeholder
    ((Template.hasPlaceholder_iff_isInfix template).mpr hp)]
  rfl

/-- A template with a quote, a backslash and a line break, below a format. -/
theorem loads_written_escapes :
    Template.placeholder <:+: "\"\\\x7bk\x7d\n".toList ∧
      ofOpened ['c'] (.ok (.file (Utf8.encode
          (line formatKey ReportFormat.json.name ++ ['\r', '\n'] ++
            (line templateKey "\\\"\\\\\x7bk\x7d\\u000A".toList ++ ['\n']))))) =
        .ok ⟨some "\"\\\x7bk\x7d\n".toList, some .json⟩ := by
  have hp : Template.placeholder <:+: "\"\\\x7bk\x7d\n".toList := by decide
  have hplain : ∀ c ∈ Template.placeholder, c ≠ '"' ∧ c ≠ '\\' ∧ ¬IsControl c := by
    have hall : Template.placeholder.all
        (fun c => c ≠ '"' ∧ c ≠ '\\' ∧ ¬IsControl c) = true := rfl
    exact fun c hc => of_decide_eq_true (List.all_eq_true.mp hall c hc)
  have hzero : hexValue? '0' = some 0 := rfl
  have hten : hexValue? 'A' = some 10 := rfl
  have hcode : Completes 3 0 ['0', '0', '0', 'A'] _ :=
    .more hzero (.more hzero (.more hzero (.last hten)))
  have hw : Writes "\\\"\\\\\x7bk\x7d\\u000A".toList "\"\\\x7bk\x7d\n".toList := by
    have hchar : ∀ {c rest text}, c ∈ Template.placeholder → Writes rest text →
        Writes (c :: rest) (c :: text) := fun hc hr =>
      .cons (.plain (hplain _ hc).1 (hplain _ hc).2.1 (hplain _ hc).2.2) hr
    have hlast : WritesChar ('\\' :: 'u' :: ['0', '0', '0', 'A']) '\n' :=
      .control (Or.inl (by decide)) hcode
    exact .cons .quote (.cons .backslash (hchar (by decide) (hchar (by decide) (hchar (by decide)
      (.cons hlast .nil)))))
  exact ⟨hp, (loads_written ['c'] (some .json) hp).2 _
    (.formatFirst (.mk .both) (.mk hw .lineFeed))⟩

end LookupLog.Config
