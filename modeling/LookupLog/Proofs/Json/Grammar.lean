import LookupLog.Proofs.Decimal.Forms
import LookupLog.Proofs.Json.Reader

/-!
# The grammar of JSON

RFC 8259 as relations between texts and what they denote, from white space and numbers (`IsNumber`)
over strings (`IsContent`) to values (`IsValue`, and `IsElement` with white space around it). They
say which texts there are and not how one is read. A number denotes its decimal, an object all its
members in their order, and a surrogate that is not part of a pair denotes no character.
-/

namespace LookupLog.JsonGrammar

open Text

/-! ## 1. White space -/

/-- White space, which may be none. -/
def IsBlanks (t : Text) : Prop :=
  ∀ c ∈ t, JsonReader.isBlank c = true

theorem isBlanks_nil : IsBlanks [] :=
  nofun

/-! ## 2. Numbers -/

/-- What may follow the whole part of a number, and the digits behind its point. -/
inductive IsFraction : Text → (places : Text) → Prop where
  | none : IsFraction [] []
  | some {places : Text} (hd : AllDigits places) (hne : places ≠ []) :
      IsFraction ('.' :: places) places

/-- The sign of an exponent. -/
inductive IsSign : Text → (negative : Bool) → Prop where
  | none : IsSign [] false
  | plus : IsSign ['+'] false
  | minus : IsSign ['-'] true

/-- What may follow a fraction, and the exponent that it gives. -/
inductive IsScale : Text → (exponent : Int) → Prop where
  | none : IsScale [] 0
  | some {mark : Char} {sign digits : Text} {negative : Bool} (hm : mark = 'e' ∨ mark = 'E')
      (hs : IsSign sign negative) (hd : AllDigits digits) (hne : digits ≠ []) :
      IsScale (mark :: (sign ++ digits)) (if negative then -(toNat digits : Int) else toNat digits)

/-- **A number and its decimal**: a sign, a whole part without a superfluous zero, places, a scale.
    -/
inductive IsNumber : Text → Decimal → Prop where
  | mk {negative : Bool} {whole fraction places scale : Text} {exponent : Int}
      (hw : IsWholePart whole) (hf : IsFraction fraction places) (hs : IsScale scale exponent) :
      IsNumber ((if negative then ['-'] else []) ++ (whole ++ (fraction ++ scale)))
        { negative, coefficient := toNat (whole ++ places), exponent := exponent - places.length }

/-! ## 3. Strings -/

/-- The letters that stand for a character behind a backslash. -/
def escapes : List (Char × Char) :=
  [('"', '"'), ('\\', '\\'), ('/', '/'), ('b', '\x08'), ('f', '\x0c'), ('n', '\n'), ('r', '\r'),
    ('t', '\t')]

/-- Four hexadecimal digits and the code unit that they write. -/
inductive IsUnit : Text → (unit : Nat) → Prop where
  | mk {a b c d : Char} {w x y z : Nat} (ha : Toml.hexValue? a = some w)
      (hb : Toml.hexValue? b = some x) (hc : Toml.hexValue? c = some y)
      (hd : Toml.hexValue? d = some z) :
      IsUnit [a, b, c, d] (16 * (16 * (16 * w + x) + y) + z)

/-- One character of a string as it is written: as it is, by a letter, by its code unit or by the
    two code units of a surrogate pair. -/
inductive IsChar : Text → Char → Prop where
  | plain {c : Char} (hq : c ≠ '"') (hb : c ≠ '\\') (hc : 32 ≤ c.toNat) : IsChar [c] c
  | letter {c e : Char} (h : (c, e) ∈ escapes) : IsChar ['\\', c] e
  | unit {digits : Text} {unit : Nat} {e : Char} (hu : IsUnit digits unit)
      (he : Toml.charOfCode? unit = some e) : IsChar ('\\' :: 'u' :: digits) e
  | pair {digits digits' : Text} {first second : Nat} {e : Char} (hu : IsUnit digits first)
      (hu' : IsUnit digits' second) (hf : 0xd800 ≤ first ∧ first < 0xdc00)
      (hs : 0xdc00 ≤ second ∧ second < 0xe000)
      (he : Toml.charOfCode? (0x10000 + 0x400 * (first - 0xd800) + (second - 0xdc00)) = some e) :
      IsChar ('\\' :: 'u' :: (digits ++ '\\' :: 'u' :: digits')) e

/-- **What stands between the quotes of a string**, and the text that it denotes. -/
inductive IsContent : Text → (text : Text) → Prop where
  | nil : IsContent [] []
  | cons {t rest text : Text} {c : Char} (hc : IsChar t c) (hr : IsContent rest text) :
      IsContent (t ++ rest) (c :: text)

/-! ## 4. Values -/

/-- Names and numbers. -/
inductive IsWord : Text → JsonValue → Prop where
  | null : IsWord ['n', 'u', 'l', 'l'] .null
  | true : IsWord ['t', 'r', 'u', 'e'] (.bool true)
  | false : IsWord ['f', 'a', 'l', 's', 'e'] (.bool false)
  | number {t : Text} {d : Decimal} (h : IsNumber t d) : IsWord t (.number d)

mutual

/-- **A value**, without white space around it. -/
inductive IsValue : Text → JsonValue → Prop where
  | word {t : Text} {v : JsonValue} (h : IsWord t v) : IsValue t v
  | string {content text : Text} (h : IsContent content text) :
      IsValue ('"' :: (content ++ ['"'])) (.string text)
  | emptyArray {blanks : Text} (hb : IsBlanks blanks) :
      IsValue ('[' :: (blanks ++ [']'])) (.array [])
  | array {t rest : Text} {item : JsonValue} {items : List JsonValue} (hi : IsElement t item)
      (hr : MoreItems rest items) : IsValue ('[' :: (t ++ (rest ++ [']']))) (.array (item :: items))
  | emptyObject {blanks : Text} (hb : IsBlanks blanks) :
      IsValue ('\x7b' :: (blanks ++ ['\x7d'])) (.object [])
  | object {t rest key : Text} {value : JsonValue} {members : List (Text × JsonValue)}
      (hm : IsMember t key value) (hr : MoreMembers rest members) :
      IsValue ('\x7b' :: (t ++ (rest ++ ['\x7d']))) (.object ((key, value) :: members))

/-- **A JSON text**: a value with white space around it. -/
inductive IsElement : Text → JsonValue → Prop where
  | mk {before t after : Text} {v : JsonValue} (hb : IsBlanks before) (hv : IsValue t v)
      (ha : IsBlanks after) : IsElement (before ++ (t ++ after)) v

/-- The items of an array behind the first one, each behind a comma. -/
inductive MoreItems : Text → List JsonValue → Prop where
  | nil : MoreItems [] []
  | cons {t rest : Text} {item : JsonValue} {items : List JsonValue} (hi : IsElement t item)
      (hr : MoreItems rest items) : MoreItems (',' :: (t ++ rest)) (item :: items)

/-- A member of an object: its key as a string, a colon and its value. -/
inductive IsMember : Text → (key : Text) → JsonValue → Prop where
  | mk {before content after t key : Text} {value : JsonValue} (hb : IsBlanks before)
      (hk : IsContent content key) (ha : IsBlanks after) (hv : IsElement t value) :
      IsMember (before ++ '"' :: (content ++ '"' :: (after ++ ':' :: t))) key value

/-- The members of an object behind the first one, each behind a comma. -/
inductive MoreMembers : Text → List (Text × JsonValue) → Prop where
  | nil : MoreMembers [] []
  | cons {t rest key : Text} {value : JsonValue} {members : List (Text × JsonValue)}
      (hm : IsMember t key value) (hr : MoreMembers rest members) :
      MoreMembers (',' :: (t ++ rest)) ((key, value) :: members)

end

end LookupLog.JsonGrammar
