import LookupLog.Pattern.Reader

/-!
# Escapes

An escape begins with a backslash. It stands for a character, for a class of characters or for an
assertion.
-/

namespace LookupLog.Pattern

/-- The simplest part of a pattern. -/
inductive Atom where
  /-- A character; it may be given as a byte, by two hexadecimal digits. -/
  | literal (c : Char) (byte : Bool)
  | set (s : CharSet)
  | place (a : Assertion)
  deriving DecidableEq

/-! ## 1. Classes of characters -/

/-- The ASCII characters with a name. -/
def namedAscii? (name : String) : Option CharSet :=
  let ranges := CharSet.ranges
  match name with
  | "alnum" => some (ranges [('0', '9'), ('A', 'Z'), ('a', 'z')])
  | "alpha" => some (ranges [('A', 'Z'), ('a', 'z')])
  | "ascii" => some (ranges [('\x00', '\x7f')])
  | "blank" => some (ranges [('\t', '\t'), (' ', ' ')])
  | "cntrl" => some (ranges [('\x00', '\x1f'), ('\x7f', '\x7f')])
  | "digit" => some (ranges [('0', '9')])
  | "graph" => some (ranges [('!', '~')])
  | "lower" => some (ranges [('a', 'z')])
  | "print" => some (ranges [(' ', '~')])
  | "punct" => some (ranges [('!', '/'), (':', '@'), ('[', '\x60'), ('\x7b', '~')])
  | "space" => some (ranges [('\t', '\r'), (' ', ' ')])
  | "upper" => some (ranges [('A', 'Z')])
  | "word" => some (ranges [('0', '9'), ('A', 'Z'), ('_', '_'), ('a', 'z')])
  | "xdigit" => some (ranges [('0', '9'), ('A', 'F'), ('a', 'f')])
  | _ => none

/-- The set with the variants in case that the flags ask for. -/
def Flags.fold (flags : Flags) (s : CharSet) : CharSet :=
  if flags.caseless then (if flags.unicode then .folded s else .foldedAscii s) else s

/-- The characters of words. -/
def Flags.word (flags : Flags) : CharSet :=
  if flags.unicode then .word else (namedAscii? "word").getD .empty

/-- The class of characters that a letter stands for after a backslash. -/
def Flags.class? (flags : Flags) : Char → Option CharSet
  | 'd' => some (if flags.unicode then .decimal else (namedAscii? "digit").getD .empty)
  | 's' => some (if flags.unicode then .space else (namedAscii? "space").getD .empty)
  | 'w' => some flags.word
  | _ => none

/-- The complement of a set, if asked for. Without Unicode it has bytes that are no characters,
which is a fault. -/
def negateIf (flags : Flags) (negated : Bool) (span : Span) (s : CharSet) : Reader CharSet := do
  if negated && ! flags.unicode then Reader.note .notText span
  return if negated then .complement s else s

/-! ## 2. Properties -/

/-- A name of a property without what does not count: case, blanks, hyphens, underscores and a
leading "is". -/
def plainName (name : Text) : Text :=
  let letters := (name.filter fun c =>
    c.toNat < 0x80 && c ≠ ' ' && c ≠ '_' && c ≠ '-').map Char.toLower
  match name, letters with
  | a :: b :: _, 'i' :: 's' :: plain =>
    if a.toLower = 'i' ∧ b.toLower = 's' then (if plain = ['c'] then "isc".toList else plain)
    else letters
  | _, _ => letters

/-- The general categories by their names. -/
def categoryNames : List (String × Char × Option Char) := [
  ("c", 'C', none), ("other", 'C', none), ("cc", 'C', some 'c'), ("control", 'C', some 'c'),
  ("cntrl", 'C', some 'c'), ("cf", 'C', some 'f'), ("format", 'C', some 'f'),
  ("cn", 'C', some 'n'), ("unassigned", 'C', some 'n'), ("co", 'C', some 'o'),
  ("privateuse", 'C', some 'o'), ("l", 'L', none), ("letter", 'L', none), ("ll", 'L', some 'l'),
  ("lowercaseletter", 'L', some 'l'), ("lm", 'L', some 'm'), ("modifierletter", 'L', some 'm'),
  ("lo", 'L', some 'o'), ("otherletter", 'L', some 'o'), ("lt", 'L', some 't'),
  ("titlecaseletter", 'L', some 't'), ("lu", 'L', some 'u'), ("uppercaseletter", 'L', some 'u'),
  ("m", 'M', none), ("mark", 'M', none), ("combiningmark", 'M', none), ("mc", 'M', some 'c'),
  ("spacingmark", 'M', some 'c'), ("me", 'M', some 'e'), ("enclosingmark", 'M', some 'e'),
  ("mn", 'M', some 'n'), ("nonspacingmark", 'M', some 'n'), ("n", 'N', none),
  ("number", 'N', none), ("nd", 'N', some 'd'), ("decimalnumber", 'N', some 'd'),
  ("digit", 'N', some 'd'), ("nl", 'N', some 'l'), ("letternumber", 'N', some 'l'),
  ("no", 'N', some 'o'), ("othernumber", 'N', some 'o'), ("p", 'P', none),
  ("punctuation", 'P', none), ("punct", 'P', none), ("pc", 'P', some 'c'),
  ("connectorpunctuation", 'P', some 'c'), ("pd", 'P', some 'd'),
  ("dashpunctuation", 'P', some 'd'), ("pe", 'P', some 'e'), ("closepunctuation", 'P', some 'e'),
  ("pf", 'P', some 'f'), ("finalpunctuation", 'P', some 'f'), ("pi", 'P', some 'i'),
  ("initialpunctuation", 'P', some 'i'), ("po", 'P', some 'o'),
  ("otherpunctuation", 'P', some 'o'), ("ps", 'P', some 's'), ("openpunctuation", 'P', some 's'),
  ("s", 'S', none), ("symbol", 'S', none), ("sc", 'S', some 'c'),
  ("currencysymbol", 'S', some 'c'), ("sk", 'S', some 'k'), ("modifiersymbol", 'S', some 'k'),
  ("sm", 'S', some 'm'), ("mathsymbol", 'S', some 'm'), ("so", 'S', some 'o'),
  ("othersymbol", 'S', some 'o'), ("z", 'Z', none), ("separator", 'Z', none),
  ("zl", 'Z', some 'l'), ("lineseparator", 'Z', some 'l'), ("zp", 'Z', some 'p'),
  ("paragraphseparator", 'Z', some 'p'), ("zs", 'Z', some 's'), ("spaceseparator", 'Z', some 's')]

/-- The characters of a general category with a plain name. -/
def categorySet? (name : Text) : Option CharSet :=
  match String.ofList name with
  | "any" => some .all
  | "ascii" => namedAscii? "ascii"
  | "assigned" => some (.complement (.category 'C' (some 'n')))
  | "lc" | "casedletter" =>
    some (.union (.category 'L' (some 'u'))
      (.union (.category 'L' (some 'l')) (.category 'L' (some 't'))))
  | plain => (categoryNames.lookup plain).map fun (group, kind) => .category group kind

/-- The characters with a property that they have or have not. -/
def binarySet? (name : Text) : Option CharSet :=
  match String.ofList name with
  | "alphabetic" | "alpha" => some .alphabetic
  | "lowercase" | "lower" => some .lowercase
  | "uppercase" | "upper" => some .uppercase
  | "whitespace" | "wspace" | "space" => some .space
  | "asciihexdigit" | "ahex" => namedAscii? "xdigit"
  | _ => none

/-- The set that was found under a name; the names of two values that no character has are known
nevertheless. -/
def foundSet (name : Text) (found : Option CharSet) (missing : PatternError) :
    Except PatternError CharSet :=
  match found with
  | some s => .ok s
  | none =>
    if ["cs", "surrogate", "zzzz", "unknown"].contains (String.ofList name) then
      .error .propertyValueUnknown
    else .error missing

/-- The characters of a script with a plain name. -/
def scriptSet? (name : Text) : Option CharSet :=
  (Text.Script.ofName? name).map .script

/-- The characters with a property: a binary one, a general category or a script. -/
def propertySet (name : Text) : Except PatternError CharSet :=
  let plain := plainName name
  foundSet plain ((binarySet? plain).or ((categorySet? plain).or (scriptSet? plain)))
    .propertyUnknown

/-- The characters for which a property has a value. -/
def propertyValueSet (name value : Text) : Except PatternError CharSet :=
  let value := plainName value
  match String.ofList (plainName name) with
  | "gc" | "generalcategory" => foundSet value (categorySet? value) .propertyValueUnknown
  | "sc" | "script" => foundSet value (scriptSet? value) .propertyValueUnknown
  | _ => .error .propertyUnknown

/-- What stands before and after the first place where a text has a mark. -/
def cutAtMark (mark : Text) : Text → Option (Text × Text)
  | [] => none
  | c :: text =>
    match Text.after? mark (c :: text) with
    | some rest => some ([], rest)
    | none => (cutAtMark mark text).map fun (before, rest) => (c :: before, rest)

/-- The characters that are described between braces, and whether these are to be left out. -/
def describedSet (description : Text) : Except PatternError (CharSet × Bool) :=
  match cutAtMark ['!', '='] description with
  | some (name, value) => (propertyValueSet name value).map fun s => (s, true)
  | none =>
    match (cutAtMark [':'] description).or (cutAtMark ['='] description) with
    | some (name, value) => (propertyValueSet name value).map fun s => (s, false)
    | none => (propertySet description).map fun s => (s, false)

namespace Reader

/-- Reads a property of characters after a backslash, from the letter on. -/
def property (flags : Flags) (start : Nat) (negated : Bool) : Reader Atom := do
  step flags
  let described ← do
    match ← next? with
    | none => fail .escapeCut (.at (← place))
    | some '\x7b' =>
      step flags
      let description ← takeWhile flags (· ≠ '\x7d')
      if (← next?).isNone then fail .escapeCut (.at (← place))
      pass 1
      pure (describedSet description)
    | some '\\' => fail .propertyEscaped (← nextSpan)
    | some c =>
      step flags
      pure ((propertySet [c]).map fun s => (s, false))
  let span ← since start
  if ! flags.unicode then
    note .beyondAscii span
    return .set .empty
  match described with
  | .error e =>
    note e span
    return .set .empty
  | .ok (s, others) =>
    let s := flags.fold s
    return .set (if negated != others then .complement s else s)

/-! ## 3. Numbers of characters -/

/-- A hexadecimal digit. -/
def isHex (c : Char) : Bool := Text.isDigitIn 16 c

/-- The character with a number. -/
def ofHex (digits : Text) (span : Span) : Reader Char := do
  let code := Text.ofDigits 16 digits
  if code.isValidChar then return Char.ofNat code
  else fail .hexNoCharacter span

/-- Reads hexadecimal digits of a fixed count, the first of which comes next. -/
def hexDigits (flags : Flags) : (count : Nat) → Reader Text
  | 0 => return []
  | count + 1 => do
    match ← next? with
    | none => fail .escapeCut (.at (← place))
    | some c =>
      if isHex c then
        step flags
        return c :: (← hexDigits flags count)
      else fail .hexNoDigit (← nextSpan)

/-- Reads a character that is given by its number, after the letter that says so. -/
def hexCharacter (flags : Flags) (count : Nat) : Reader Atom := do
  step flags
  match ← next? with
  | none => fail .escapeCut (.at (← place))
  | some '\x7b' =>
    let brace ← place
    step flags
    let digits ← takeWhile flags isHex
    match ← next? with
    | none => fail .escapeCut (← since brace)
    | some '\x7d' =>
      let span ← since (brace + 1)
      step flags
      if digits = [] then fail .hexEmpty (← since brace)
      return .literal (← ofHex digits span) false
    | some _ => fail .hexNoDigit (← nextSpan)
  | some _ =>
    let start ← place
    let digits ← hexDigits flags count
    return .literal (← ofHex digits (← since start)) (count = 2)

/-! ## 4. Escapes -/

/-- Reads which edge of a word is meant, after the escape for all edges. A brace that does not
begin with a letter belongs to a repetition. -/
def wordEdge (flags : Flags) (start : Nat) : Reader WordEdge := do
  if (← next?) ≠ some '\x7b' then return .boundary
  let before ← get
  step flags
  let contents ← place
  let isNameChar (c : Char) : Bool := c.isAlpha || c = '-'
  match ← next? with
  | none => fail .edgeCut (← since start)
  | some c =>
    if ! isNameChar c then
      set before
      return .boundary
    let name ← takeWhile flags isNameChar
    if (← next?) ≠ some '\x7d' then fail .edgeOpen (← since before.passed)
    let span ← since contents
    pass 1
    match String.ofList name with
    | "start" => return .start
    | "end" => return .stop
    | "start-half" => return .startHalf
    | "end-half" => return .stopHalf
    | _ => fail .edgeUnknown span

/-- A character that stands for itself after a backslash: ASCII, but no digit, no letter and no
angle. -/
def escapesItself (c : Char) : Bool :=
  c.toNat < 0x80 && ! c.isAlphanum && c ≠ '<' && c ≠ '>'

/-- The characters with a letter of their own. -/
def controlEscape? : Char → Option Char
  | 'a' => some '\x07'
  | 'f' => some '\x0c'
  | 't' => some '\t'
  | 'n' => some '\n'
  | 'r' => some '\r'
  | 'v' => some '\x0b'
  | _ => none

/-- Reads an escape of one letter that was passed. -/
def letterEscape (flags : Flags) (start : Nat) (c : Char) : Reader Atom := do
  if escapesItself c then return .literal c false
  match controlEscape? c with
  | some control => return .literal control false
  | none =>
    let edge (kind : WordEdge) : Atom := .place (.edge flags.word kind)
    match c with
    | 'A' => return .place .textStart
    | 'z' => return .place .textEnd
    | 'b' => return edge (← wordEdge flags start)
    | 'B' => return edge .inside
    | '<' => return edge .start
    | '>' => return edge .stop
    | _ => fail .escapeUnknown (← since start)

/-- Reads an escape. -/
def escape (flags : Flags) : Reader Atom := do
  let start ← place
  pass 1
  match ← next? with
  | none => fail .escapeCut (← since start)
  | some c =>
    if c.isDigit then fail .backreference ⟨start, (← place) + 1⟩
    match c with
    | 'x' => hexCharacter flags 2
    | 'u' => hexCharacter flags 4
    | 'U' => hexCharacter flags 8
    | 'p' => property flags start false
    | 'P' => property flags start true
    | c =>
      pass 1
      match flags.class? c.toLower with
      | some s => return .set (← negateIf flags c.isUpper (← since start) s)
      | none => letterEscape flags start c

end Reader

end LookupLog.Pattern
