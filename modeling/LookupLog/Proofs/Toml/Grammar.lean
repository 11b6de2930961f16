import LookupLog.Proofs.Json.Strings
import LookupLog.Proofs.Toml.Rules

/-!
# The grammar of TOML

TOML 1.0 as relations between texts and what they denote, from comments and strings over words and
keys to values (`IsValue`), statements and whole documents (`IsDocument`). They say which texts
there are and not how one is read; what statements and members make is left to the rules for tables.
Two bounds, which TOML itself does not know, are parameters: how many parts a key has at most, and
how deep values are nested.

Lines end in a line feed here; a document may also write a carriage return in front of it.
-/

namespace LookupLog.TomlGrammar

open Text Toml JsonGrammar

/-! ## 1. Blanks and comments -/

/-- Blanks and tabs, or nothing. -/
def IsBlanks (t : Text) : Prop :=
  ∀ c ∈ t, Toml.isBlank c = true

/-- A comment up to the end of its line, or nothing. -/
inductive IsRemark : Text → Prop where
  | none : IsRemark []
  | some {t : Text} (h : ∀ c ∈ t, isPlain c = true) : IsRemark ('#' :: t)

/-- Blanks, and lines on which there is nothing but a comment. -/
inductive IsGap : Text → Prop where
  | blanks {blanks : Text} (hb : IsBlanks blanks) : IsGap blanks
  | line {blanks remark gap : Text} (hb : IsBlanks blanks) (hr : IsRemark remark) (hg : IsGap gap) :
      IsGap (blanks ++ (remark ++ '\n' :: gap))

/-! ## 2. Strings -/

/-- The letters that stand for a character behind a backslash. -/
def escapes : List (Char × Char) :=
  [('b', '\x08'), ('t', '\t'), ('n', '\n'), ('f', '\x0c'), ('r', '\r'), ('"', '"'), ('\\', '\\')]

/-- Hexadecimal digits, as many as there have to be, and the number that they write. -/
def IsCode (count : Nat) (digits : Text) (code : Nat) : Prop :=
  JsonReader.Completes (count - 1) 0 digits code

/-- One character between double quotes: as it is, by a letter, or by its code point. -/
inductive IsBasicChar : Text → Char → Prop where
  | plain {c : Char} (hq : c ≠ '"') (hb : c ≠ '\\') (hp : isPlain c = true) : IsBasicChar [c] c
  | letter {c e : Char} (h : (c, e) ∈ escapes) : IsBasicChar ['\\', c] e
  | short {digits : Text} {e : Char} (h : IsCode 4 digits e.toNat) :
      IsBasicChar ('\\' :: 'u' :: digits) e
  | long {digits : Text} {e : Char} (h : IsCode 8 digits e.toNat) :
      IsBasicChar ('\\' :: 'U' :: digits) e

/-- What stands between double quotes on one line, and the text that it denotes. -/
inductive IsBasic : Text → (text : Text) → Prop where
  | nil : IsBasic [] []
  | cons {t rest text : Text} {c : Char} (hc : IsBasicChar t c) (hr : IsBasic rest text) :
      IsBasic (t ++ rest) (c :: text)

/-- What stands between apostrophes on one line. -/
def IsLiteral (t : Text) : Prop :=
  ∀ c ∈ t, c ≠ '\'' ∧ isPlain c = true

/-- May be dropped behind an escaped line break. -/
def IsWhite (c : Char) : Prop :=
  c = '\n' ∨ Toml.isBlank c = true

/-- What stands between three double quotes, and the text that it denotes, behind some quotes that
    belong to it: there are never three of them next to each other. A line break that is escaped is
    dropped with all the white space behind it. -/
inductive IsBasicText : (quotes : Nat) → Text → (text : Text) → Prop where
  | nil {quotes : Nat} : IsBasicText quotes [] []
  | char {quotes : Nat} {t rest text : Text} {c : Char} (hc : IsBasicChar t c)
      (hr : IsBasicText 0 rest text) : IsBasicText quotes (t ++ rest) (c :: text)
  | quote {quotes : Nat} {rest text : Text} (hq : quotes < 2)
      (hr : IsBasicText (quotes + 1) rest text) : IsBasicText quotes ('"' :: rest) ('"' :: text)
  | lineBreak {quotes : Nat} {rest text : Text} (hr : IsBasicText 0 rest text) :
      IsBasicText quotes ('\n' :: rest) ('\n' :: text)
  | escapedBreak {quotes : Nat} {blanks white rest text : Text} (hb : IsBlanks blanks)
      (hw : ∀ c ∈ white, IsWhite c) (hn : ∀ c ∈ rest.head?, ¬IsWhite c)
      (hr : IsBasicText 0 rest text) :
      IsBasicText quotes ('\\' :: (blanks ++ '\n' :: (white ++ rest))) text

/-- What stands between three apostrophes: there are never three of them next to each other. -/
def IsLiteralText (t : Text) : Prop :=
  (∀ c ∈ t, c = '\n' ∨ isPlain c = true) ∧ ¬['\'', '\'', '\''] <:+: t

/-- The line break that may stand in front of the content of a string over several lines. -/
def IsOpening (lineBreak content : Text) : Prop :=
  lineBreak = ['\n'] ∨ lineBreak = [] ∧ content.head? ≠ some '\n'

/-- **A string and the text that it denotes.** -/
inductive IsString : Text → (text : Text) → Prop where
  | basic {content text : Text} (h : IsBasic content text) :
      IsString ('"' :: (content ++ ['"'])) text
  | literal {text : Text} (h : IsLiteral text) : IsString ('\'' :: (text ++ ['\''])) text
  | basicText {lineBreak content text : Text} (ho : IsOpening lineBreak content)
      (h : IsBasicText 0 content text) :
      IsString ('"' :: '"' :: '"' :: (lineBreak ++ (content ++ ['"', '"', '"']))) text
  | literalText {lineBreak text : Text} (ho : IsOpening lineBreak text) (h : IsLiteralText text) :
      IsString ('\'' :: '\'' :: '\'' :: (lineBreak ++ (text ++ ['\'', '\'', '\'']))) text

/-! ## 3. Numbers -/

/-- Digits in groups with an underscore between them, and the digits alone. -/
inductive IsDigits (isDigit : Char → Bool) : Text → (digits : Text) → Prop where
  | group {t : Text} (hd : ∀ c ∈ t, isDigit c = true) (hne : t ≠ []) : IsDigits isDigit t t
  | more {t rest digits : Text} (hd : ∀ c ∈ t, isDigit c = true) (hne : t ≠ [])
      (hr : IsDigits isDigit rest digits) : IsDigits isDigit (t ++ '_' :: rest) (t ++ digits)

/-- Decimal digits without a zero that could be left out in front. -/
def IsWhole (t digits : Text) : Prop :=
  IsDigits Char.isDigit t digits ∧ (t.head? = some '0' → t = ['0'])

/-- The letters that name a base. -/
def bases : List (Char × Nat) :=
  [('x', 16), ('o', 8), ('b', 2)]

/-- A whole number. -/
inductive IsInteger : Text → Int → Prop where
  | decimal {sign t digits : Text} {negative : Bool} (hs : IsSign sign negative)
      (hw : IsWhole t digits) :
      IsInteger (sign ++ t) (if negative then -(toNat digits : Int) else toNat digits)
  | based {letter : Char} {base : Nat} {t digits : Text} (hb : (letter, base) ∈ bases)
      (hd : IsDigits (isDigitIn base) t digits) :
      IsInteger ('0' :: letter :: t) (ofDigits base digits)

/-- What may follow the whole part of a float, and the digits behind its point. -/
inductive IsPoint : Text → (places : Text) → Prop where
  | none : IsPoint [] []
  | some {t places : Text} (hd : IsDigits Char.isDigit t places) : IsPoint ('.' :: t) places

/-- What may follow that, and the exponent that it gives. -/
inductive IsPower : Text → (exponent : Int) → Prop where
  | none : IsPower [] 0
  | some {mark : Char} {sign t digits : Text} {negative : Bool} (hm : mark = 'e' ∨ mark = 'E')
      (hs : IsSign sign negative) (hd : IsDigits Char.isDigit t digits) :
      IsPower (mark :: (sign ++ t)) (if negative then -(toNat digits : Int) else toNat digits)

/-- A decimal with a point or an exponent. -/
inductive IsDecimal : Text → Decimal → Prop where
  | mk {sign whole digits point places power : Text} {negative : Bool} {exponent : Int}
      (hs : IsSign sign negative) (hw : IsWhole whole digits) (hp : IsPoint point places)
      (he : IsPower power exponent) (hne : point ≠ [] ∨ power ≠ []) :
      IsDecimal (sign ++ (whole ++ (point ++ power)))
        ⟨negative, toNat (digits ++ places), exponent - places.length⟩

/-- A float: a name, or a decimal for which the nearest double is not infinity. -/
inductive IsFloat : Text → Binary64 → Prop where
  | infinity {sign : Text} {negative : Bool} (hs : IsSign sign negative) :
      IsFloat (sign ++ ['i', 'n', 'f']) (Binary64.infinity.withSign negative)
  | nan {sign : Text} {negative : Bool} (hs : IsSign sign negative) :
      IsFloat (sign ++ ['n', 'a', 'n']) (Binary64.nan.withSign negative)
  | decimal {t : Text} {d : Decimal} (h : IsDecimal t d) (hd : d.toBinary64 ≠ Binary64.infinity) :
      IsFloat t d.toBinary64

/-! ## 4. Dates and times -/

/-- So many digits, and the number that they write. -/
def IsNumeral (count : Nat) (t : Text) (n : Nat) : Prop :=
  (AllDigits t ∧ t.length = count) ∧ toNat t = n

/-- A date such as `1979-05-27`. -/
inductive IsDate : Text → Prop where
  | mk {y m d : Text} {year month day : Nat} (hy : IsNumeral 4 y year) (hm : IsNumeral 2 m month)
      (hd : IsNumeral 2 d day) (hmonth : 1 ≤ month ∧ month ≤ 12)
      (hday : 1 ≤ day ∧ day ≤ daysInMonth year month) : IsDate (y ++ '-' :: (m ++ '-' :: d))

/-- Hours and minutes such as `07:32`. -/
inductive IsHourMinute : Text → Prop where
  | mk {h m : Text} {hour minute : Nat} (hh : IsNumeral 2 h hour) (hm : IsNumeral 2 m minute)
      (hhour : hour ≤ 23) (hminute : minute ≤ 59) : IsHourMinute (h ++ ':' :: m)

/-- A fraction of a second such as `.999`, or nothing. -/
inductive IsSecondFraction : Text → Prop where
  | none : IsSecondFraction []
  | some {t : Text} (hd : AllDigits t) (hne : t ≠ []) : IsSecondFraction ('.' :: t)

/-- A time of day such as `07:32:00.999`. -/
inductive IsTime : Text → Prop where
  | mk {t s fraction : Text} {second : Nat} (ht : IsHourMinute t) (hs : IsNumeral 2 s second)
      (hsecond : second ≤ 60) (hf : IsSecondFraction fraction) :
      IsTime (t ++ ':' :: (s ++ fraction))

/-- An offset such as `Z` or `-07:00`, or nothing. -/
inductive IsOffset : Text → Prop where
  | none : IsOffset []
  | zulu {c : Char} (hc : c = 'Z' ∨ c = 'z') : IsOffset [c]
  | some {c : Char} {t : Text} (hc : c = '+' ∨ c = '-') (ht : IsHourMinute t) : IsOffset (c :: t)

/-- A date, a time, or a date with a time and perhaps an offset. -/
inductive IsMoment : Text → Prop where
  | date {t : Text} (h : IsDate t) : IsMoment t
  | time {t : Text} (h : IsTime t) : IsMoment t
  | both {date time offset : Text} {mark : Char} (hd : IsDate date)
      (hm : mark = 'T' ∨ mark = 't' ∨ mark = ' ') (ht : IsTime time) (ho : IsOffset offset) :
      IsMoment (date ++ mark :: (time ++ offset))

/-! ## 5. Values -/

/-- A truth value, a moment or a number; whole numbers have 64 bits. -/
inductive IsWord : Text → Value → Prop where
  | true : IsWord ['t', 'r', 'u', 'e'] (.boolean true)
  | false : IsWord ['f', 'a', 'l', 's', 'e'] (.boolean false)
  | moment {t : Text} (h : IsMoment t) : IsWord t .moment
  | integer {t : Text} {n : Int} (h : IsInteger t n)
      (hn : -0x8000000000000000 ≤ n ∧ n < 0x8000000000000000) : IsWord t (.integer n)
  | float {t : Text} {x : Binary64} (h : IsFloat t x) : IsWord t (.float x)

/-- A part of a key. -/
inductive IsKeyPart : Text → (part : Text) → Prop where
  | bare {t : Text} (hk : ∀ c ∈ t, isKeyChar c = true) (hne : t ≠ []) : IsKeyPart t t
  | basic {content part : Text} (h : IsBasic content part) :
      IsKeyPart ('"' :: (content ++ ['"'])) part
  | literal {part : Text} (h : IsLiteral part) : IsKeyPart ('\'' :: (part ++ ['\''])) part

/-- **A key and its parts**, with points between them. -/
inductive IsKey : Text → (parts : List Text) → Prop where
  | last {t part : Text} (h : IsKeyPart t part) : IsKey t [part]
  | dotted {t part before after rest : Text} {parts : List Text} (h : IsKeyPart t part)
      (hb : IsBlanks before) (ha : IsBlanks after) (hr : IsKey rest parts) :
      IsKey (t ++ (before ++ '.' :: (after ++ rest))) (part :: parts)

section Values

variable (maxParts : Nat)

/-- A key of so many parts at most, with blanks behind it. -/
inductive IsWholeKey : Text → Key → Prop where
  | mk {t after : Text} {parts : List Text} {key : Key} (ht : IsKey t parts)
      (hn : parts.length ≤ maxParts) (hk : Key.ofParts? parts = some key) (ha : IsBlanks after) :
      IsWholeKey (t ++ after) key

/-- An assignment of a value, for the values that `IsItem` knows. -/
inductive IsAssignment (IsItem : Text → Value → Prop) : Text → Key × Value → Prop where
  | mk {t blanks u : Text} {key : Key} {value : Value} (hk : IsWholeKey maxParts t key)
      (hb : IsBlanks blanks) (hv : IsItem u value) :
      IsAssignment IsItem (t ++ '=' :: (blanks ++ u)) (key, value)

/-- The items of an array, with a comma between them and perhaps one at the end. -/
inductive IsItems (IsItem : Text → Value → Prop) : Text → List Value → Prop where
  | last {t gap : Text} {item : Value} (h : IsItem t item) (hg : IsGap gap) :
      IsItems IsItem (t ++ gap) [item]
  | comma {t gap after : Text} {item : Value} (h : IsItem t item) (hg : IsGap gap)
      (ha : IsGap after) : IsItems IsItem (t ++ (gap ++ ',' :: after)) [item]
  | cons {t gap after rest : Text} {item : Value} {items : List Value} (h : IsItem t item)
      (hg : IsGap gap) (ha : IsGap after) (hr : IsItems IsItem rest items) :
      IsItems IsItem (t ++ (gap ++ ',' :: (after ++ rest))) (item :: items)

/-- The assignments in a table between braces, with a comma between them. -/
inductive IsMembers (IsItem : Text → Value → Prop) : Text → List (Key × Value) → Prop where
  | last {t blanks : Text} {member : Key × Value} (h : IsAssignment maxParts IsItem t member)
      (hb : IsBlanks blanks) : IsMembers IsItem (t ++ blanks) [member]
  | cons {t before after rest : Text} {member : Key × Value} {members : List (Key × Value)}
      (h : IsAssignment maxParts IsItem t member) (hb : IsBlanks before) (ha : IsBlanks after)
      (hr : IsMembers IsItem rest members) :
      IsMembers IsItem (t ++ (before ++ ',' :: (after ++ rest))) (member :: members)

/-- A value without brackets or braces. -/
inductive IsScalar : Text → Value → Prop where
  | string {t text : Text} (h : IsString t text) : IsScalar t (.string text)
  | word {t : Text} {v : Value} (h : IsWord t v) : IsScalar t v

/-- A value whose items, or whose members, are among those that `IsItem` knows. -/
inductive IsNested (IsItem : Text → Value → Prop) : Text → Value → Prop where
  | scalar {t : Text} {v : Value} (h : IsScalar t v) : IsNested IsItem t v
  | emptyArray {gap : Text} (hg : IsGap gap) : IsNested IsItem ('[' :: (gap ++ [']'])) (.array [])
  | array {gap t : Text} {items : List Value} (hg : IsGap gap) (hi : IsItems IsItem t items) :
      IsNested IsItem ('[' :: (gap ++ (t ++ [']']))) (.array items)
  | emptyTable {blanks : Text} (hb : IsBlanks blanks) :
      IsNested IsItem ('\x7b' :: (blanks ++ ['\x7d'])) (.table .inline [])
  | table {blanks t : Text} {members : List (Key × Value)} {entries : Entries}
      (hb : IsBlanks blanks)
      (hm : IsMembers maxParts IsItem t members) (ha : Assigns members [] entries) :
      IsNested IsItem ('\x7b' :: (blanks ++ (t ++ ['\x7d']))) (.table .inline entries)

/-- **A value**, in which brackets and braces are nested up to a depth. -/
def IsValue : (depth : Nat) → Text → Value → Prop
  | 0 => IsScalar
  | depth + 1 => IsNested maxParts (IsValue depth)

/-! ## 6. Documents -/

variable (maxDepth : Nat)

/-- An assignment or a header. -/
inductive IsStatement : Text → Statement → Prop where
  | assign {t : Text} {key : Key} {value : Value}
      (h : IsAssignment maxParts (IsValue maxParts maxDepth) t (key, value)) :
      IsStatement t (.assign key value)
  | table {blanks t : Text} {key : Key} (hb : IsBlanks blanks) (hk : IsWholeKey maxParts t key) :
      IsStatement ('[' :: (blanks ++ (t ++ [']']))) (.header (.table key))
  | element {blanks t : Text} {key : Key} (hb : IsBlanks blanks) (hk : IsWholeKey maxParts t key) :
      IsStatement ('[' :: '[' :: (blanks ++ (t ++ [']', ']']))) (.header (.element key))

/-- A line and the statement on it, if there is one. -/
inductive IsLine : Text → Option Statement → Prop where
  | blank {blanks remark : Text} (hb : IsBlanks blanks) (hr : IsRemark remark) :
      IsLine (blanks ++ remark) none
  | statement {before t after remark : Text} {s : Statement} (hb : IsBlanks before)
      (hs : IsStatement maxParts maxDepth t s) (ha : IsBlanks after) (hr : IsRemark remark) :
      IsLine (before ++ (t ++ (after ++ remark))) (some s)

/-- Lines with line feeds between them, and their statements. -/
inductive IsBody : Text → List Statement → Prop where
  | last {t : Text} {s : Option Statement} (hl : IsLine maxParts maxDepth t s) : IsBody t s.toList
  | cons {t rest : Text} {s : Option Statement} {statements : List Statement}
      (hl : IsLine maxParts maxDepth t s) (hr : IsBody rest statements) :
      IsBody (t ++ '\n' :: rest) (s.toList ++ statements)

/-- **A document and its statements.** It may begin with a byte order mark, and each line feed may
    follow a carriage return. -/
def IsDocument (text : Text) (statements : List Statement) : Prop :=
  IsBody maxParts maxDepth (unifyBreaks (dropByteOrderMark text)) statements

end Values

end LookupLog.TomlGrammar
