import LookupLog.Decimal.Basic
import LookupLog.Toml.Quotation

/-!
# A reader of JSON texts

The grammar of RFC 8259 as a machine that takes one character after the other: a `State` says what
may follow, and a stack of `Frame`s holds what encloses it. Only texts of the grammar are read to
their end. Numbers are read as decimals, so that nothing is rounded, and an object keeps all its
members in their order.
-/

namespace LookupLog

/-- A JSON value as it is read. -/
inductive JsonValue where
  | null
  | bool (b : Bool)
  | number (d : Decimal)
  | string (text : Text)
  | array (items : List JsonValue)
  | object (members : List (Text × JsonValue))

namespace JsonReader

/-! ## 1. Characters -/

/-- White space between tokens. -/
def isBlank (c : Char) : Bool :=
  c = ' ' || c = '\n' || c = '\r' || c = '\t'

/-- A character of a number or of a name. -/
def isWordChar (c : Char) : Bool :=
  c.isAlphanum || c = '+' || c = '-' || c = '.'

/-! ## 2. Numbers and names -/

/-- The digits before the point have no zero in front that could be left out. -/
def isShortened : Text → Bool
  | '0' :: c :: _ => !c.isDigit
  | _ => true

/-- The decimal that a number writes; the exponent may begin with a capital letter. -/
def number? (text : Text) : Option Decimal :=
  let digits := match text with
    | '-' :: digits => digits
    | digits => digits
  if isShortened digits then Decimal.read? (text.map fun c => if c = 'E' then 'e' else c) else none

/-- The value that a word stands for. -/
def word? (text : Text) : Option JsonValue :=
  if text = ['n', 'u', 'l', 'l'] then some .null
  else if text = ['t', 'r', 'u', 'e'] then some (.bool true)
  else if text = ['f', 'a', 'l', 's', 'e'] then some (.bool false)
  else (number? text).map .number

/-! ## 3. Strings -/

/-- Where a reader stands inside a string. -/
inductive Place where
  | text
  /-- After a backslash. -/
  | escape
  /-- Before the missing digits of a code unit, of which the others have a value; the first half of
      a surrogate pair may have been read before it. -/
  | code (first : Option Nat) (missing value : Nat)
  /-- After the first half of a surrogate pair. -/
  | pair (first : Nat)
  /-- And after the backslash that follows it. -/
  | pairEscape (first : Nat)
  deriving DecidableEq

/-- The character that a one-letter escape stands for. -/
def escape? (c : Char) : Option Char :=
  if c = '/' then some '/' else Toml.shortEscape? c

/-- Where a code unit leads to, and the character that it completes. -/
def unit? : (first : Option Nat) → (unit : Nat) → Option (Place × Text)
  | none, unit =>
    if 0xd800 ≤ unit ∧ unit < 0xdc00 then some (.pair unit, [])
    else (Toml.charOfCode? unit).map fun c => (.text, [c])
  | some first, unit =>
    if 0xdc00 ≤ unit ∧ unit < 0xe000 then
      (Toml.charOfCode? (0x10000 + 0x400 * (first - 0xd800) + (unit - 0xdc00))).map fun c =>
        (.text, [c])
    else none

/-- One character inside a string: where it leads to, and what was read with it. -/
def stepInString : Place → Char → Option (Place × Text)
  | .text, c =>
    if c = '\\' then some (.escape, [])
    else if c.toNat < 32 then none
    else some (.text, [c])
  | .escape, c =>
    if c = 'u' then some (.code none 4 0, [])
    else (escape? c).map fun e => (.text, [e])
  | .code first missing value, c =>
    (Toml.hexValue? c).bind fun digit =>
      if 1 < missing then some (.code first (missing - 1) (16 * value + digit), [])
      else unit? first (16 * value + digit)
  | .pair first, c => if c = '\\' then some (.pairEscape first, []) else none
  | .pairEscape first, c => if c = 'u' then some (.code (some first) 4 0, []) else none

/-! ## 4. Values -/

/-- What encloses a value, with everything that stands before it there. -/
inductive Frame where
  | array (before : List JsonValue)
  | object (before : List (Text × JsonValue)) (key : Text)

/-- What may follow. -/
inductive State where
  /-- A value. -/
  | value
  /-- The first item of an array or its end. -/
  | items
  /-- The first member of an object or its end. -/
  | members
  /-- The key of a further member. -/
  | key (before : List (Text × JsonValue))
  /-- The colon behind a key. -/
  | colon (before : List (Text × JsonValue)) (key : Text)
  /-- The rest of a string, which is a key if the members before it are given. -/
  | string (before : Option (List (Text × JsonValue))) (place : Place) (read : Text)
  /-- The rest of a number or a name. -/
  | word (read : Text)
  /-- What follows a value. -/
  | done (value : JsonValue)

/-- The first character of a value. -/
def start (stack : List Frame) (c : Char) : Option (State × List Frame) :=
  if c = '"' then some (.string none .text [], stack)
  else if c = '[' then some (.items, stack)
  else if c = '\x7b' then some (.members, stack)
  else if isWordChar c then some (.word [c], stack)
  else none

/-- The character after a value: a comma, or what closes the array or the object around it. -/
def follow (value : JsonValue) (c : Char) : List Frame → Option (State × List Frame)
  | .array before :: stack =>
    if c = ',' then some (.value, .array (before ++ [value]) :: stack)
    else if c = ']' then some (.done (.array (before ++ [value])), stack)
    else none
  | .object before key :: stack =>
    if c = ',' then some (.key (before ++ [(key, value)]), stack)
    else if c = '\x7d' then some (.done (.object (before ++ [(key, value)])), stack)
    else none
  | [] => none

/-- The state after the end of a string. -/
def closeString (read : Text) : Option (List (Text × JsonValue)) → State
  | none => .done (.string read)
  | some before => .colon before read

/-- One character. -/
def step : State → List Frame → Char → Option (State × List Frame)
  | .string before place read, stack, c =>
    if place = .text ∧ c = '"' then some (closeString read before, stack)
    else (stepInString place c).map fun (place, more) =>
      (.string before place (read ++ more), stack)
  | .word read, stack, c =>
    if isWordChar c then some (.word (read ++ [c]), stack)
    else (word? read).bind fun value =>
      if isBlank c then some (.done value, stack) else follow value c stack
  | state, stack, c =>
    if isBlank c then some (state, stack)
    else match state with
      | .value => start stack c
      | .items => if c = ']' then some (.done (.array []), stack) else start (.array [] :: stack) c
      | .members =>
        if c = '\x7d' then some (.done (.object []), stack)
        else if c = '"' then some (.string (some []) .text [], stack)
        else none
      | .key before => if c = '"' then some (.string (some before) .text [], stack) else none
      | .colon before key =>
        if c = ':' then some (.value, .object before key :: stack) else none
      | .done value => follow value c stack
      | _ => none

/-- The value that was read when the text ends. -/
def finish : State → List Frame → Option JsonValue
  | .done value, [] => some value
  | .word read, [] => word? read
  | _, _ => none

/-- All characters of a text. -/
def run : State → List Frame → Text → Option JsonValue
  | state, stack, [] => finish state stack
  | state, stack, c :: rest =>
    (step state stack c).bind fun (state, stack) => run state stack rest

end JsonReader

/-- **The value that a whole JSON text denotes**, if it is one. -/
def JsonValue.read? (text : Text) : Option JsonValue :=
  JsonReader.run .value [] text

/-! ## 5. Parts of a value -/

namespace JsonValue

/-- The value of the first member with a key. -/
def member? (key : Text) : JsonValue → Option JsonValue
  | object members => (members.find? (·.1 = key)).map (·.2)
  | _ => none

def text? : JsonValue → Option Text
  | string text => some text
  | _ => none

/-- A number, rounded to the nearest double. -/
def double? : JsonValue → Option Binary64
  | number d => some d.toBinary64
  | _ => none

end JsonValue

end LookupLog
