import LookupLog.Json.Basic
import LookupLog.Proofs.Json.Recognition

/-!
# Written JSON is JSON

What is written of a value is a text of the grammar, and it denotes this value
(`Json.isValue_write`): strings character by character, whole numbers exactly, and doubles as
decimals that round to them (`Json.double?_asRead_real`). So a document is read as the value it was
written for (`Json.read?_document`), and the line feed at its end is not needed for that
(`Json.read?_write`).
-/

namespace LookupLog

/-! ## 1. What is read -/

namespace Json

mutual

/-- The value as which a value is read that was written. -/
def asRead : Json → JsonValue
  | null => .null
  | count n => .number { negative := false, coefficient := n, exponent := 0 }
  | real x =>
    if x.IsFinite then .number (numberLayout.shown (x.shortest numberLayout.tie)) else .null
  | string text => .string text
  | array items => .array (itemsAsRead items)
  | object members => .object (membersAsRead members)

/-- The items of an array, each as it is read. -/
def itemsAsRead : List Json → List JsonValue
  | [] => []
  | item :: items => item.asRead :: itemsAsRead items

/-- The members of an object with their values as they are read. -/
def membersAsRead : List (Text × Json) → List (Text × JsonValue)
  | [] => []
  | (key, value) :: members => (key, value.asRead) :: membersAsRead members

end

end Json

open JsonGrammar JsonReader

/-! ## 2. Strings -/

namespace Json

theorem hexValue?_hexDigit {n : Nat} (h : n < 32) :
    Toml.hexValue? (hexDigit (n / 16)) = some (n / 16) ∧
      Toml.hexValue? (hexDigit n) = some (n % 16) := by
  revert n
  decide

/-- The code unit of a control character. -/
theorem isUnit_control {n : Nat} (h : n < 32) :
    IsUnit ['0', '0', hexDigit (n / 16), hexDigit n] n := by
  obtain ⟨hhigh, hlow⟩ := hexValue?_hexDigit h
  have h0 : Toml.hexValue? '0' = some 0 := rfl
  have hu := IsUnit.mk h0 h0 hhigh hlow
  have hn : 16 * (16 * (16 * 0 + 0) + n / 16) + n % 16 = n := by omega
  rwa [hn] at hu

/-- **A written character denotes the character.** -/
theorem isChar_escapeChar (c : Char) : IsChar (escapeChar c) c := by
  unfold escapeChar
  split
  · exact .letter (by decide)
  · exact .letter (by decide)
  · exact .letter (by decide)
  · exact .letter (by decide)
  · exact .letter (by decide)
  · exact .letter (by decide)
  · exact .letter (by decide)
  · rename_i hquote hbackslash _ _ _ _ _
    split
    · rename_i h
      have hvalid : c.toNat.isValidChar := c.valid
      refine .unit (isUnit_control h) ?_
      rw [Toml.charOfCode?, if_pos hvalid, Char.ofNat_toNat]
    · rename_i h
      exact .plain hquote hbackslash (Nat.not_lt.mp h)

/-- **A written string denotes the text.** -/
theorem isContent_written (text : Text) : IsContent (text.flatMap escapeChar) text := by
  induction text with
  | nil => exact .nil
  | cons c text ih =>
    rw [List.flatMap_cons]
    exact .cons (isChar_escapeChar c) ih

end Json

/-! ## 3. Numbers -/

namespace JsonReader

theorem isShortened_ofNat (n : Nat) : isShortened (Text.ofNat n) = true := by
  by_cases h : n = 0
  · subst h
    rfl
  · exact isShortened_of_head (Text.head?_ofNat_ne h)

theorem isShortened_writeInFull {digits : Text} (hne : digits ≠ []) (h : digits.head? ≠ some '0')
    (exponent : Int) : isShortened (writeInFull digits exponent) = true := by
  cases digits with
  | nil => exact absurd rfl hne
  | cons first digits =>
    cases exponent with
    | ofNat n => exact isShortened_of_head h
    | negSucc n =>
      simp only [writeInFull]
      split
      · rfl
      · rename_i hw
        obtain ⟨k, hk⟩ := Nat.exists_eq_succ_of_ne_zero hw
        rw [hk, List.take_succ_cons]
        exact isShortened_of_head h

theorem isShortened_writeScientific {digits : Text} (hne : digits ≠ [])
    (h : digits.head? ≠ some '0') (width : Nat) (exponent : Int) :
    isShortened (writeScientific width digits exponent) = true := by
  cases digits with
  | nil => exact absurd rfl hne
  | cons first digits => cases digits <;> exact isShortened_of_head h

/-- A written decimal has no superfluous zero in front, unless zero is scaled by a power of ten. -/
theorem isShortened_writeUnsigned (layout : Layout) {d : Decimal}
    (h : d.coefficient = 0 → d.exponent = 0) : isShortened (layout.writeUnsigned d) = true := by
  unfold Layout.writeUnsigned
  simp only
  by_cases hn : d.coefficient = 0
  · rw [h hn, hn]
    split <;> rfl
  · have hne := Text.ofNat_ne_nil d.coefficient
    have hz := Text.head?_ofNat_ne hn
    split
    · exact isShortened_writeInFull hne hz _
    · exact isShortened_writeScientific hne hz _ _

end JsonReader

namespace Json

/-- A decimal whose digits have no superfluous zero in front is a number. -/
theorem isNumber_of_readUnsigned? {negative : Bool} {text : Text} {d : Decimal}
    (hm : ∀ c ∈ text, Decimal.isMark c = true) (hs : isShortened text = true)
    (h : Decimal.readUnsigned? negative text = some d) :
    IsNumber ((if negative then ['-'] else []) ++ text) d := by
  -- there is no capital letter in it
  have hmap : text.map lowerMark = text := by
    conv_rhs => rw [← List.map_id text]
    refine List.map_congr_left fun c hc => if_neg ?_
    rintro rfl
    exact absurd (hm _ hc) (by decide)
  have hhead : text.head? ≠ some '-' := by
    obtain ⟨c, rest, rfl, hc⟩ := Decimal.exists_digit_of_readUnsigned? h
    intro he
    obtain rfl : c = '-' := Option.some.inj he
    cases hc
  rw [← number?_eq_some_iff, number?_sign_append hhead, if_pos hs, hmap]
  exact h

/-- **A whole number denotes itself.** -/
theorem isNumber_ofNat (n : Nat) :
    IsNumber (Text.ofNat n) { negative := false, coefficient := n, exponent := 0 } := by
  have hend : Decimal.readScale? [] = some 0 := rfl
  have hr := Decimal.readUnsigned?_whole false (Text.allDigits_ofNat n) (Text.ofNat_ne_nil n) hend
  rw [List.append_nil, Text.toNat_ofNat] at hr
  exact isNumber_of_readUnsigned? (fun c hc => isMark_of_mem_digits (Text.allDigits_ofNat n) hc)
    (isShortened_ofNat n) hr

/-- **A finite double denotes a decimal that rounds to it.** -/
theorem isNumber_write {layout : Layout} {x : Binary64} (h : x.IsFinite) :
    IsNumber (layout.write x) (layout.shown (x.shortest layout.tie)) := by
  have hr := layout.readUnsigned?_writeUnsigned (x.shortest layout.tie)
  unfold Layout.write
  rw [Layout.writeDecimal_eq]
  refine isNumber_of_readUnsigned? (fun c hc => ?_) ?_ hr
  · have hm : c ∈ layout.writeDecimal (x.shortest layout.tie) := List.mem_append_right _ hc
    exact Layout.isMark_of_mem_writeDecimal hm
  · exact isShortened_writeUnsigned layout (Binary64.exponent_shortest h)

/-! ## 4. Values -/

theorem isBlanks_newLine (level : Nat) : IsBlanks (newLine level) := by
  refine List.forall_mem_cons.mpr ⟨rfl, fun c hc => ?_⟩
  rw [List.eq_of_mem_replicate hc]
  rfl

mutual

/-- **What is written of a value denotes it.** -/
theorem isValue_write (level : Nat) (v : Json) : IsValue (v.write level) v.asRead := by
  match v with
  | .null => exact .word .null
  | .count n => exact .word (.number (isNumber_ofNat n))
  | .real x =>
    rw [write, writeReal, asRead]
    split
    · rename_i h
      exact .word (.number (isNumber_write h))
    · exact .word .null
  | .string text => exact .string (isContent_written text)
  | .array [] => exact .emptyArray isBlanks_nil
  | .array (item :: items) =>
    obtain ⟨t, rest, he, hi, hm⟩ := exists_items (level + 1) (isBlanks_newLine (level + 1))
      (isBlanks_newLine level) (isValue_write (level + 1) item) items
    have hv := IsValue.array hi hm
    rw [← List.append_assoc t, ← he] at hv
    rw [write, asRead, itemsAsRead]
    simpa only [List.cons_append, List.append_assoc] using hv
  | .object [] => exact .emptyObject isBlanks_nil
  | .object ((key, value) :: members) =>
    obtain ⟨t, rest, he, hk, hm⟩ := exists_members (level + 1) (isBlanks_newLine (level + 1))
      (isBlanks_newLine level) key (isValue_write (level + 1) value) members
    have hv := IsValue.object hk hm
    rw [← List.append_assoc t, ← he] at hv
    rw [write, asRead, membersAsRead]
    simpa only [List.cons_append, List.append_assoc, List.nil_append] using hv

/-- **The items of an array**, up to its end. The white space behind one of them belongs to the next
    one or, behind the last one, to this one. -/
theorem exists_items (level : Nat) {blanks after written : Text} {v : JsonValue}
    (hb : IsBlanks blanks) (ha : IsBlanks after) (hv : IsValue written v) (items : List Json) :
    ∃ t rest, blanks ++ (written ++ (writeItems level items ++ after)) = t ++ rest ∧
      IsElement t v ∧ MoreItems rest (itemsAsRead items) := by
  match items with
  | [] => exact ⟨_, [], (List.append_nil _).symm, .mk hb hv ha, .nil⟩
  | item :: items =>
    obtain ⟨t, rest, he, hi, hm⟩ :=
      exists_items level (isBlanks_newLine level) ha (isValue_write level item) items
    refine ⟨_, _, ?_, .mk hb hv isBlanks_nil, .cons hi hm⟩
    rw [← he, writeItems]
    simp only [List.append_assoc, List.cons_append, List.nil_append]

/-- **The members of an object**, up to its end. -/
theorem exists_members (level : Nat) {blanks after written : Text} {v : JsonValue}
    (hb : IsBlanks blanks) (ha : IsBlanks after) (key : Text) (hv : IsValue written v)
    (members : List (Text × Json)) :
    ∃ t rest, blanks ++ (writeString key ++ ([':', ' '] ++ (written ++
        (writeMembers level members ++ after)))) = t ++ rest ∧
      IsMember t key v ∧ MoreMembers rest (membersAsRead members) := by
  have hk := isContent_written key
  have hblank : IsBlanks [' '] := List.forall_mem_singleton.mpr rfl
  match members with
  | [] =>
    refine ⟨_, [], ?_, .mk hb hk isBlanks_nil (.mk hblank hv ha), .nil⟩
    simp only [writeString, writeMembers, List.append_assoc, List.cons_append, List.nil_append,
      List.append_nil]
  | (next, value) :: members =>
    obtain ⟨t, rest, he, hk', hm⟩ :=
      exists_members level (isBlanks_newLine level) ha next (isValue_write level value) members
    refine ⟨_, _, ?_, .mk hb hk isBlanks_nil (.mk hblank hv isBlanks_nil), .cons hk' hm⟩
    rw [← he, writeMembers]
    simp only [writeString, List.append_assoc, List.cons_append, List.nil_append]

end

/-! ## 5. Documents -/

/-- **A document denotes the value it was written for.** -/
theorem isElement_document (v : Json) : IsElement v.document v.asRead := by
  have hend : IsBlanks ['\n'] := List.forall_mem_singleton.mpr rfl
  exact .mk isBlanks_nil (isValue_write 0 v) hend

theorem read?_document (v : Json) : JsonValue.read? v.document = some v.asRead :=
  JsonValue.read?_eq_some_iff.mpr (isElement_document v)

/-- The line feed at its end is not part of it. -/
theorem read?_write (v : Json) : JsonValue.read? (v.write 0) = some v.asRead := by
  have he := IsElement.mk isBlanks_nil (isValue_write 0 v) isBlanks_nil
  rw [List.nil_append, List.append_nil] at he
  exact JsonValue.read?_eq_some_iff.mpr he

/-- A finite double is read as a number that is rounded to it. -/
theorem double?_asRead_real {x : Binary64} (h : x.IsFinite) : (real x).asRead.double? = some x := by
  rw [asRead, if_pos h, JsonValue.double?, Layout.toBinary64_shown_shortest numberLayout h]

end Json

end LookupLog
