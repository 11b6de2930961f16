import LookupLog.Toml.Moment
import LookupLog.Toml.Number
import LookupLog.Toml.Quotation
import LookupLog.Toml.Table

/-!
# Documents

A document is a sequence of statements, one on a line: assignments and headers. `document?` reads
the entries of its top-level table, or nothing if the text is no document.

Arrays and tables between braces nest up to `maxDepth`, which is what the reader of a value counts
down. The readers of lists count down from the length of the text they read.
-/

namespace LookupLog.Toml

/-! ## 1. Keys -/

/-- The greatest number of parts of a key. -/
def maxKeyParts : Nat := 79

/-- May stand in a key without quotes. -/
def isKeyChar (c : Char) : Bool :=
  c.isAlphanum || c = '_' || c = '-'

/-- The part of a key that a text begins with, and what follows it. -/
def keyPart? : Text → Option (Text × Text)
  | '"' :: rest => basicString .text rest
  | '\'' :: rest => literalString rest
  | text =>
    let part := text.takeWhile isKeyChar
    if part = [] then none else some (part, text.dropWhile isKeyChar)

/-- Up to `count` parts between points, with blanks around each, and what follows them. -/
def keyParts? : (count : Nat) → Text → Option (List Text × Text)
  | 0, _ => none
  | count + 1, text =>
    match keyPart? (skipBlank text) with
    | none => none
    | some (part, rest) =>
      match skipBlank rest with
      | '.' :: rest => (keyParts? count rest).map fun (parts, rest) => (part :: parts, rest)
      | rest => some ([part], rest)

/-- The key that a text begins with, and what follows it and the blanks after it. -/
def key? (text : Text) : Option (Key × Text) :=
  match keyParts? maxKeyParts text with
  | none => none
  | some (parts, rest) => (Key.ofParts? parts).map fun key => (key, rest)

/-! ## 2. Words -/

/-- May stand in a number, a truth value or a moment. -/
def isWordChar (c : Char) : Bool :=
  c.isAlphanum || c = '_' || c = '-' || c = '+' || c = '.' || c = ':'

/-- The value that a word writes. -/
def Value.ofWord? (word : Text) : Option Value :=
  if word = "true".toList then some (.boolean true)
  else if word = "false".toList then some (.boolean false)
  else if isMoment word then some .moment
  else match integer? word with
    | some n => some (.integer n)
    | none => (float? word).map .float

/-- The word that a text begins with, and what follows it; a date and a time may be one word with a
blank between them. -/
def splitWord (text : Text) : Text × Text :=
  let word := text.takeWhile isWordChar
  match text.dropWhile isWordChar with
  | ' ' :: digit :: rest =>
    if isDate word && digit.isDigit then
      (word ++ ' ' :: (digit :: rest).takeWhile isWordChar, (digit :: rest).dropWhile isWordChar)
    else (word, ' ' :: digit :: rest)
  | rest => (word, rest)

/-! ## 3. Values -/

/-- The nesting depth that is still read. -/
def maxDepth : Nat := 79

/-- The assignment that a text begins with, and what follows it. -/
def assignment? (value : Text → Option (Value × Text)) (text : Text) :
    Option ((Key × Value) × Text) :=
  match key? text with
  | some (key, '=' :: rest) => (value (skipBlank rest)).map fun (v, rest) => ((key, v), rest)
  | _ => none

/-- The items of an array up to its bracket, and what follows it. -/
def items? (value : Text → Option (Value × Text)) :
    (count : Nat) → Text → Option (List Value × Text)
  | 0, _ => none
  | count + 1, text =>
    match skipGap false text with
    | ']' :: rest => some ([], rest)
    | text =>
      match value text with
      | none => none
      | some (item, rest) =>
        match skipGap false rest with
        | ',' :: rest => (items? value count rest).map fun (items, rest) => (item :: items, rest)
        | ']' :: rest => some ([item], rest)
        | _ => none

/-- The assignments between braces after the opening one, and what follows the closing one. -/
def members? (value : Text → Option (Value × Text)) :
    (count : Nat) → Text → Option (List (Key × Value) × Text)
  | 0, _ => none
  | count + 1, text =>
    match assignment? value text with
    | none => none
    | some (member, rest) =>
      match skipBlank rest with
      | ',' :: rest => (members? value count rest).map fun (members, rest) =>
        (member :: members, rest)
      | '\x7d' :: rest => some ([member], rest)
      | _ => none

/-- The table between braces whose inside a text begins with, and what follows it. -/
def inlineTable? (value : Text → Option (Value × Text)) (text : Text) : Option (Value × Text) :=
  match skipBlank text with
  | '\x7d' :: rest => some (.table .inline [], rest)
  | text =>
    match members? value (text.length + 1) text with
    | none => none
    | some (members, rest) => (assignAll [] members).map fun entries =>
      (.table .inline entries, rest)

/-- The value that a text begins with, and what follows it, for a nesting depth. -/
def value? : (depth : Nat) → Text → Option (Value × Text)
  | depth + 1, '[' :: rest =>
    (items? (value? depth) (rest.length + 1) rest).map fun (items, rest) => (.array items, rest)
  | depth + 1, '\x7b' :: rest => inlineTable? (value? depth) rest
  | _, text =>
    match string? text with
    | some (string, rest) => some (.string string, rest)
    | none =>
      let (word, rest) := splitWord text
      (Value.ofWord? word).map fun value => (value, rest)

/-! ## 4. Statements -/

/-- What a line of a document says. -/
inductive Statement where
  | assign (key : Key) (value : Value)
  | header (header : Header)

/-- The statement that a text begins with, and what follows it. -/
def statement? : Text → Option (Statement × Text)
  | '[' :: '[' :: text =>
    match key? text with
    | some (key, ']' :: ']' :: rest) => some (.header (.element key), rest)
    | _ => none
  | '[' :: text =>
    match key? text with
    | some (key, ']' :: rest) => some (.header (.table key), rest)
    | _ => none
  | text => (assignment? (value? maxDepth) text).map fun ((key, value), rest) =>
    (.assign key value, rest)

/-- The statements of a text, each on a line of its own. -/
def statements? : (count : Nat) → Text → Option (List Statement)
  | 0, _ => none
  | count + 1, text =>
    match skipGap false text with
    | [] => some []
    | text =>
      match statement? text with
      | none => none
      | some (statement, rest) =>
        if endsLine (skipBlank rest) then (statements? count rest).map (statement :: ·) else none

/-! ## 5. Documents -/

/-- The assignments before the first header, and every header with the assignments below it. -/
def sections : List Statement → List (Key × Value) × List (Header × List (Key × Value))
  | [] => ([], [])
  | .assign key value :: rest =>
    let (assignments, below) := sections rest
    ((key, value) :: assignments, below)
  | .header header :: rest =>
    let (assignments, below) := sections rest
    ([], (header, assignments) :: below)

/-- The top-level entries that some statements make. -/
def entries? (statements : List Statement) : Option Entries :=
  let (assignments, below) := sections statements
  match assignAll [] assignments with
  | none => none
  | some entries =>
    below.foldlM
      (fun entries (header, assignments) => addSection entries header assignments) entries

/-- The text without the byte order mark that it may begin with. -/
def dropByteOrderMark : Text → Text
  | '\ufeff' :: rest => rest
  | text => text

/-- The top-level entries of a document, `none` if the text is none. -/
def document? (text : Text) : Option Entries :=
  let text := unifyBreaks (dropByteOrderMark text)
  match statements? (text.length + 1) text with
  | none => none
  | some statements => entries? statements

end LookupLog.Toml
