import LookupLog.Text.Basic

/-!
# Texts as UTF-8

Main statements: a content decodes to a text exactly if it is that text's encoding
(`decode?_eq_some_iff`), so a content has at most one reading and every text can be stored; and a
byte below 0x80 stands for the character with its code and for nothing else (`mem_encode_iff`,
`decode?_concat`).
-/

namespace LookupLog.Utf8

/-- The UTF-8 form of a text. -/
def encode (text : Text) : Bytes :=
  text.flatMap String.utf8EncodeChar

/-- The text that a content encodes; `none` if it is not UTF-8. -/
def decode? (content : Bytes) : Option Text :=
  content.toByteArray.utf8Decode?.map Array.toList

@[simp] theorem encode_append (s t : Text) : encode (s ++ t) = encode s ++ encode t := by
  simp [encode]

/-- Decoding undoes encoding. -/
@[simp] theorem decode?_encode (text : Text) : decode? (encode text) = some text := by
  have h : (encode text).toByteArray = text.utf8Encode := rfl
  rw [decode?, h, List.utf8Decode?_utf8Encode]
  simp

/-- **A content decodes to a text exactly if it is the text's encoding.** -/
theorem decode?_eq_some_iff {content : Bytes} {text : Text} :
    decode? content = some text ↔ content = encode text := by
  refine ⟨fun h => ?_, fun h => h ▸ decode?_encode text⟩
  obtain ⟨chars, hc, rfl⟩ := Option.map_eq_some_iff.1 h
  have hs : content.toByteArray.utf8Decode?.isSome = true := by simp [hc]
  have he : ((content.toByteArray.utf8Decode?).get hs).toList.utf8Encode = content.toByteArray :=
    ByteArray.utf8Encode_get_utf8Decode?
  simp only [hc, Option.get_some] at he
  have hl := congrArg (fun b : ByteArray => b.data.toList) he
  simpa [List.utf8Encode, encode] using hl.symm

/-- A byte below 0x80 is part of no character but the one with its code. -/
theorem mem_utf8EncodeChar_iff {b : UInt8} (hb : b.toNat < 0x80) {c : Char} :
    b ∈ String.utf8EncodeChar c ↔ c.toNat = b.toNat := by
  have hc : c.toNat = c.val.toNat := rfl
  unfold String.utf8EncodeChar
  simp only
  split
  · rename_i h
    simp only [List.mem_singleton, ← UInt8.toNat_inj, UInt8.toNat_ofNat']
    omega
  · split
    · simp only [List.mem_cons, List.not_mem_nil, or_false, ← UInt8.toNat_inj, UInt8.toNat_ofNat']
      omega
    · split <;>
      · simp only [List.mem_cons, List.not_mem_nil, or_false, ← UInt8.toNat_inj,
          UInt8.toNat_ofNat']
        omega

/-- **A byte below 0x80 occurs in an encoding exactly if its character occurs in the text.** -/
theorem mem_encode_iff {b : UInt8} (hb : b.toNat < 0x80) {text : Text} :
    b ∈ encode text ↔ ∃ c ∈ text, c.toNat = b.toNat := by
  rw [encode, List.mem_flatMap]
  exact exists_congr fun c => and_congr_right fun _ => mem_utf8EncodeChar_iff hb

theorem encode_singleton (c : Char) : encode [c] = String.utf8EncodeChar c :=
  List.append_nil _

/-- **A character below 0x80 at the end of a content is decoded by itself**; it makes the content
neither readable nor unreadable. -/
theorem decode?_concat {b : UInt8} {c : Char} (hb : b.toNat < 0x80) (hc : encode [c] = [b])
    (content : Bytes) : decode? (content ++ [b]) = (decode? content).map (· ++ [c]) := by
  refine Option.ext fun text => ?_
  rw [decode?_eq_some_iff, Option.map_eq_some_iff]
  constructor
  · intro h
    rcases List.eq_nil_or_concat text with rfl | ⟨init, d, rfl⟩
    · exact absurd h (List.append_ne_nil_of_right_ne_nil content (List.cons_ne_nil b []))
    · rw [List.concat_eq_append, encode_append] at h
      -- the last byte is part of the last character, and only `c` has this byte
      have hd : b ∈ encode [d] := by
        have hl := congrArg List.getLast? h
        rw [List.getLast?_concat, List.getLast?_append] at hl
        cases he : (encode [d]).getLast? with
        | none =>
          rw [List.getLast?_eq_none_iff, encode_singleton] at he
          exact absurd he String.utf8EncodeChar_ne_nil
        | some last =>
          rw [he] at hl
          cases hl
          exact List.mem_of_getLast? he
      have hc' : b ∈ encode [c] := by simp [hc]
      rw [encode_singleton, mem_utf8EncodeChar_iff hb] at hd hc'
      obtain rfl : d = c := Char.toNat_inj.mp (hd.trans hc'.symm)
      rw [hc] at h
      exact ⟨init, decode?_eq_some_iff.mpr (List.append_inj' h rfl).1, by simp⟩
  · intro h
    obtain ⟨init, hi, rfl⟩ := h
    rw [encode_append, hc, decode?_eq_some_iff.mp hi]

end LookupLog.Utf8
