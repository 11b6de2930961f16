import LookupLog.Config.Basic
import Mathlib.Data.List.Basic
import Mathlib.Data.List.Infix
import Mathlib.Logic.Function.Basic

/-!
# The pieces of a template

A template falls into pieces at its placeholders, and in one way only (`fallsInto_iff`). A path is
these pieces with the identifier of the run between them, whatever it looks like
(`fill_eq_intercalate`). With two pieces or more the identifier can be found again in the path, by
its length and its place (`fill_injective`); with one piece there is nothing to put it between. So a
template is accepted exactly if it tells runs apart (`checkTemplate_tells_apart`).
-/

namespace LookupLog.Template

/-! ## 1. Placeholders -/

/-- A text is empty, or it begins with a placeholder, or with a character that belongs to none. -/
@[elab_as_elim]
theorem placeholder_induction {motive : Text → Prop} (nil : motive [])
    (placeholder : ∀ rest, motive rest → motive (placeholder ++ rest))
    (cons : ∀ c rest, ¬Template.placeholder <+: c :: rest → motive rest → motive (c :: rest))
    (t : Text) : motive t := by
  induction t using fill.induct with
  | case1 rest ih => exact placeholder rest ih
  | case2 c rest hn ih =>
    refine cons c rest ?_ ih
    rintro ⟨tail, ht⟩
    obtain ⟨hc, hr⟩ := List.cons.inj ht
    exact hn tail hc.symm hr.symm
  | case3 => exact nil

section Steps

variable {k rest : Text} {c : Char}

theorem fill_placeholder_append : fill k (placeholder ++ rest) = k ++ fill k rest := rfl

theorem fill_cons (h : ¬placeholder <+: c :: rest) : fill k (c :: rest) = c :: fill k rest := by
  rw [fill]
  rintro tail rfl rfl
  exact h ⟨tail, rfl⟩

theorem hasPlaceholder_placeholder_append : hasPlaceholder (placeholder ++ rest) = true := rfl

theorem hasPlaceholder_cons (h : ¬placeholder <+: c :: rest) :
    hasPlaceholder (c :: rest) = hasPlaceholder rest := by
  rw [hasPlaceholder]
  rintro tail rfl rfl
  exact h ⟨tail, rfl⟩

end Steps

/-- A template is accepted for a placeholder anywhere in it. -/
theorem hasPlaceholder_iff_isInfix (t : Text) : hasPlaceholder t = true ↔ placeholder <:+: t := by
  induction t using placeholder_induction with
  | nil => decide
  | placeholder rest _ => exact iff_of_true rfl (List.prefix_append _ _).isInfix
  | cons c rest h ih => rw [hasPlaceholder_cons h, ih, List.infix_cons_iff, or_iff_right h]

/-- A placeholder in place of every placeholder changes nothing. -/
theorem fill_placeholder (t : Text) : fill placeholder t = t := by
  induction t using placeholder_induction with
  | nil => rfl
  | placeholder rest ih => rw [fill_placeholder_append, ih]
  | cons c rest h ih => rw [fill_cons h, ih]

/-- Without a placeholder nothing is filled in. -/
theorem fill_of_no_placeholder {t : Text} (h : hasPlaceholder t = false) (k : Text) :
    fill k t = t := by
  induction t using placeholder_induction with
  | nil => rfl
  | placeholder rest ih => cases h
  | cons c rest hn ih =>
    rw [hasPlaceholder_cons hn] at h
    rw [fill_cons hn, ih h]

/-! ## 2. Pieces -/

/-- The pieces of a template: what stands before, between and behind its placeholders. -/
def pieces : Text → List Text
  | '\x7b' :: 'k' :: '\x7d' :: rest => [] :: pieces rest
  | c :: rest => (pieces rest).modifyHead (c :: ·)
  | [] => [[]]

theorem pieces_placeholder_append {rest : Text} :
    pieces (placeholder ++ rest) = [] :: pieces rest := rfl

/-- A character that belongs to no placeholder belongs to the first piece. -/
theorem pieces_cons {c : Char} {rest : Text} (h : ¬placeholder <+: c :: rest) :
    pieces (c :: rest) = (pieces rest).modifyHead (c :: ·) := by
  rw [pieces]
  rintro tail rfl rfl
  exact h ⟨tail, rfl⟩

theorem pieces_ne_nil (t : Text) : pieces t ≠ [] := by
  induction t using placeholder_induction with
  | nil => exact List.cons_ne_nil _ _
  | placeholder rest _ => exact List.cons_ne_nil _ _
  | cons c rest h ih =>
    rw [pieces_cons h]
    simpa using ih

/-- A template with a placeholder has at least two pieces. -/
theorem hasPlaceholder_iff_length (t : Text) :
    hasPlaceholder t = true ↔ 1 < (pieces t).length := by
  induction t using placeholder_induction with
  | nil => decide
  | placeholder rest _ =>
    have hr := List.length_pos_iff.mpr (pieces_ne_nil rest)
    rw [hasPlaceholder_placeholder_append, pieces_placeholder_append, List.length_cons]
    simpa using hr
  | cons c rest h ih => rw [hasPlaceholder_cons h, pieces_cons h, List.length_modifyHead, ih]

theorem intercalate_modifyHead (sep : Text) (c : Char) {ps : List Text} (h : ps ≠ []) :
    sep.intercalate (ps.modifyHead (c :: ·)) = c :: sep.intercalate ps := by
  match ps with
  | [] => exact absurd rfl h
  | [p] => simp
  | p :: q :: ps => simp

/-- **A path is the pieces of the template with the identifier of the run between them.** -/
theorem fill_eq_intercalate (k t : Text) : fill k t = k.intercalate (pieces t) := by
  induction t using placeholder_induction with
  | nil => rfl
  | placeholder rest ih =>
    rw [fill_placeholder_append, pieces_placeholder_append,
      List.intercalate_cons_of_ne_nil (pieces_ne_nil rest), ih, List.nil_append]
  | cons c rest h ih =>
    rw [fill_cons h, pieces_cons h, intercalate_modifyHead k c (pieces_ne_nil rest), ih]

/-! ## 3. One way to fall into pieces -/

/-- A template falls into some pieces: there is one at least, none of them contains a placeholder,
    and with placeholders between them they are the template. -/
structure FallsInto (template : Text) (ps : List Text) : Prop where
  ne_nil : ps ≠ []
  free : ∀ p ∈ ps, ¬placeholder <:+: p
  joined : placeholder.intercalate ps = template

theorem placeholder_not_infix_nil : ¬placeholder <:+: ([] : Text) := by
  rw [List.infix_nil]
  exact List.cons_ne_nil _ _

theorem prefix_intercalate (sep p : Text) (ps : List Text) : p <+: sep.intercalate (p :: ps) := by
  cases ps with
  | nil => simp
  | cons q ps => exact ⟨sep ++ sep.intercalate (q :: ps), by simp⟩

/-- No piece contains a placeholder. -/
theorem not_infix_of_mem_pieces {t p : Text} (h : p ∈ pieces t) : ¬placeholder <:+: p := by
  induction t using placeholder_induction generalizing p with
  | nil =>
    obtain rfl := List.mem_singleton.mp h
    exact placeholder_not_infix_nil
  | placeholder rest ih =>
    rw [pieces_placeholder_append, List.mem_cons] at h
    rcases h with rfl | h
    · exact placeholder_not_infix_nil
    · exact ih h
  | cons c rest hn ih =>
    have hj : placeholder.intercalate (pieces rest) = rest := by
      rw [← fill_eq_intercalate, fill_placeholder]
    rw [pieces_cons hn] at h
    cases hp : pieces rest with
    | nil => exact absurd hp (pieces_ne_nil rest)
    | cons first later =>
      rw [hp] at h ih hj
      rw [List.modifyHead_cons, List.mem_cons] at h
      rcases h with rfl | h
      · -- the first piece begins as the text does, and that is not with a placeholder
        have hf : first <+: rest := hj ▸ prefix_intercalate placeholder first later
        rw [List.infix_cons_iff]
        rintro (hb | hb)
        · exact hn (hb.trans (List.cons_prefix_cons.mpr ⟨rfl, hf⟩))
        · exact ih List.mem_cons_self hb
      · exact ih (List.mem_cons_of_mem _ h)

/-- Before a placeholder a text that contains none ends in nothing that begins one. -/
theorem not_prefix_append {c : Char} {p : Text} (h : ¬placeholder <:+: c :: p) (rest : Text) :
    ¬placeholder <+: c :: (p ++ (placeholder ++ rest)) := by
  rintro ⟨tail, ht⟩
  match p with
  | [] => simp [placeholder] at ht
  | [d] => simp [placeholder] at ht
  | d :: e :: p =>
    simp only [placeholder, List.cons_append, List.nil_append, List.cons.injEq] at ht
    obtain ⟨rfl, rfl, rfl, -⟩ := ht
    exact h (List.infix_append [] _ p)

/-- A text without a placeholder is the first piece before one. -/
theorem pieces_append {p : Text} (h : ¬placeholder <:+: p) (rest : Text) :
    pieces (p ++ (placeholder ++ rest)) = p :: pieces rest := by
  induction p with
  | nil => exact pieces_placeholder_append
  | cons c p ih =>
    have ih := ih fun hp => h (hp.trans (List.infix_cons (List.infix_refl p)))
    rw [List.cons_append, pieces_cons (not_prefix_append h rest), ih, List.modifyHead_cons]

/-- And alone it is the only one. -/
theorem pieces_of_not_infix {p : Text} (h : ¬placeholder <:+: p) : pieces p = [p] := by
  induction p with
  | nil => rfl
  | cons c p ih =>
    rw [List.infix_cons_iff, not_or] at h
    rw [pieces_cons h.1, ih h.2, List.modifyHead_cons]

theorem pieces_intercalate {ps : List Text} (hne : ps ≠ []) (h : ∀ p ∈ ps, ¬placeholder <:+: p) :
    pieces (placeholder.intercalate ps) = ps := by
  induction ps with
  | nil => exact absurd rfl hne
  | cons p ps ih =>
    have hp := h p List.mem_cons_self
    by_cases hps : ps = []
    · subst hps
      rw [List.intercalate_singleton, pieces_of_not_infix hp]
    · rw [List.intercalate_cons_of_ne_nil hps, List.append_assoc, pieces_append hp,
        ih hps fun q hq => h q (List.mem_cons_of_mem _ hq)]

/-- **A template falls into its pieces and into no others.** -/
theorem fallsInto_iff {t : Text} {ps : List Text} : FallsInto t ps ↔ ps = pieces t := by
  constructor
  · intro h
    rw [← h.joined, pieces_intercalate h.ne_nil h.free]
  · rintro rfl
    exact ⟨pieces_ne_nil t, fun _ => not_infix_of_mem_pieces,
      by rw [← fill_eq_intercalate, fill_placeholder]⟩

/-! ## 4. Telling runs apart -/

theorem length_intercalate (sep : Text) {ps : List Text} (h : ps ≠ []) :
    (sep.intercalate ps).length + sep.length = ps.flatten.length + ps.length * sep.length := by
  induction ps with
  | nil => exact absurd rfl h
  | cons p ps ih =>
    by_cases hp : ps = []
    · subst hp
      simp
    · have ih := ih hp
      rw [List.intercalate_cons_of_ne_nil hp, List.flatten_cons, List.length_cons, Nat.succ_mul]
      simp only [List.length_append]
      omega

/-- What stands between two pieces or more can be found again. -/
theorem intercalate_injective {ps : List Text} (h : 1 < ps.length) :
    Function.Injective fun sep : Text => sep.intercalate ps := by
  intro k k' he
  have he : k.intercalate ps = k'.intercalate ps := he
  -- its length is known from that of the whole, and its place is behind the first piece
  have hne : ps ≠ [] := List.length_pos_iff.mp (Nat.lt_of_succ_lt h)
  have hk := length_intercalate k hne
  have hk' := length_intercalate k' hne
  rw [he] at hk
  have hl : k.length = k'.length := by
    obtain ⟨n, hn⟩ := Nat.exists_eq_add_of_lt h
    rw [hn] at hk hk'
    simp only [Nat.add_mul, Nat.one_mul] at hk hk'
    have hm : (n + 1) * k.length = (n + 1) * k'.length := by
      simp only [Nat.add_mul, Nat.one_mul]
      omega
    exact Nat.eq_of_mul_eq_mul_left (Nat.succ_pos n) hm
  match ps with
  | [] => exact absurd rfl hne
  | [p] => exact absurd h (by simp)
  | p :: q :: ps =>
    rw [List.intercalate_cons_cons, List.intercalate_cons_cons, List.append_assoc,
      List.append_assoc, List.append_cancel_left_eq] at he
    exact List.append_inj_left he hl

theorem fill_injective {t : Text} (h : hasPlaceholder t = true) :
    Function.Injective fun k => fill k t := by
  have hi := intercalate_injective ((hasPlaceholder_iff_length t).mp h)
  intro k k' he
  simp only [fill_eq_intercalate] at he
  exact hi he

/-- A template tells runs apart exactly if it has a placeholder. -/
theorem fill_injective_iff {t : Text} :
    (Function.Injective fun k => fill k t) ↔ hasPlaceholder t = true := by
  refine ⟨fun hi => ?_, fill_injective⟩
  by_contra hn
  rw [Bool.not_eq_true] at hn
  have he : fill [] t = fill ['k'] t := by
    rw [fill_of_no_placeholder hn, fill_of_no_placeholder hn]
  cases hi he

/-- And it has the same path for all runs exactly if it has none. -/
theorem fill_constant_iff {t : Text} :
    (∀ k k', fill k t = fill k' t) ↔ hasPlaceholder t = false := by
  refine ⟨fun hc => ?_, fun hn k k' => ?_⟩
  · by_contra hn
    rw [Bool.not_eq_false] at hn
    cases fill_injective hn (hc [] ['k'])
  · rw [fill_of_no_placeholder hn, fill_of_no_placeholder hn]

open Settings in
/-- **A template is accepted exactly if it tells runs apart**, and refused exactly if all runs have
    the same path. The path of a run is the pieces of the template with the identifier between them.
    The pieces are those of the template alone, so nothing that comes with the identifier is filled
    in again; and for the placeholder as an identifier the path is the template itself. -/
theorem checkTemplate_tells_apart (t : Text) :
    (checkTemplate t = .ok () ↔ Function.Injective fun k => fill k t) ∧
    (checkTemplate t = .error (.noPlaceholder t) ↔ ∀ k k', fill k t = fill k' t) ∧
    (∃! ps, FallsInto t ps) ∧
    (∀ ps, FallsInto t ps → ∀ k, fill k t = k.intercalate ps) ∧
    fill placeholder t = t := by
  have hc : checkTemplate t =
      if hasPlaceholder t then .ok () else .error (.noPlaceholder t) := rfl
  refine ⟨?_, ?_, ⟨pieces t, fallsInto_iff.mpr rfl, fun ps => fallsInto_iff.mp⟩,
    fun ps hf k => ?_, fill_placeholder t⟩
  · rw [fill_injective_iff, hc]
    cases hasPlaceholder t <;> simp
  · rw [fill_constant_iff, hc]
    cases hasPlaceholder t <;> simp
  · rw [fallsInto_iff.mp hf, fill_eq_intercalate]

end LookupLog.Template
