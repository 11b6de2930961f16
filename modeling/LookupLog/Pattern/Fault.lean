import LookupLog.Text.Basic

/-!
# Faults of written patterns

A fault has a cause and the part of the pattern that shows it. Its report quotes the pattern and
marks that part. A pattern of several lines is quoted with the numbers of its lines.
-/

namespace LookupLog

/-- A part of a pattern: how many characters stand before its beginning and before its end. -/
structure Span where
  start : Nat
  stop : Nat
  deriving DecidableEq

/-- The empty part at a place. -/
def Span.at (place : Nat) : Span := ⟨place, place⟩

/-- What is wrong with a pattern. -/
inductive PatternError where
  | assertionInClass
  | backwardsRange
  | rangeWithoutCharacter
  | classOpen
  | numberTooLarge
  | hexEmpty
  | hexNoCharacter
  | hexNoDigit
  | escapeCut
  | escapeUnknown
  | flagNegationLast
  | flagTwice
  | flagNegationTwice
  | flagsOpen
  | flagUnknown
  | nameTwice
  | nameEmpty
  | nameWrong
  | nameOpen
  | groupOpen
  | groupNotOpen
  | countBackwards
  | countMissing
  | countOpen
  | nothingToRepeat
  | tooDeep
  | edgeOpen
  | edgeUnknown
  | edgeCut
  | propertyEscaped
  | backreference
  | lookAround
  /-- A character beyond ASCII, where only single bytes are meant. -/
  | beyondAscii
  /-- A byte that is no character, or a set that has such bytes. -/
  | notText
  | propertyUnknown
  | propertyValueUnknown
  deriving DecidableEq

/-- The wording of an error. -/
def PatternError.message : PatternError → Text
  | assertionInClass => "invalid escape sequence found in character class".toList
  | backwardsRange => "invalid character class range, the start must be <= the end".toList
  | rangeWithoutCharacter => "invalid range boundary, must be a literal".toList
  | classOpen => "unclosed character class".toList
  | numberTooLarge => "decimal literal invalid".toList
  | hexEmpty => "hexadecimal literal empty".toList
  | hexNoCharacter => "hexadecimal literal is not a Unicode scalar value".toList
  | hexNoDigit => "invalid hexadecimal digit".toList
  | escapeCut => "incomplete escape sequence, reached end of pattern prematurely".toList
  | escapeUnknown => "unrecognized escape sequence".toList
  | flagNegationLast => "dangling flag negation operator".toList
  | flagTwice => "duplicate flag".toList
  | flagNegationTwice => "flag negation operator repeated".toList
  | flagsOpen => "expected flag but got end of regex".toList
  | flagUnknown => "unrecognized flag".toList
  | nameTwice => "duplicate capture group name".toList
  | nameEmpty => "empty capture group name".toList
  | nameWrong => "invalid capture group character".toList
  | nameOpen => "unclosed capture group name".toList
  | groupOpen => "unclosed group".toList
  | groupNotOpen => "unopened group".toList
  | countBackwards => "invalid repetition count range, the start must be <= the end".toList
  | countMissing => "repetition quantifier expects a valid decimal".toList
  | countOpen => "unclosed counted repetition".toList
  | nothingToRepeat => "repetition operator missing expression".toList
  | tooDeep => "exceed the maximum number of nested parentheses/brackets (250)".toList
  | edgeOpen =>
    ("special word boundary assertion is either unclosed or contains an invalid " ++
      "character").toList
  | edgeUnknown =>
    ("unrecognized special word boundary assertion, valid choices are: start, end, " ++
      "start-half or end-half").toList
  | edgeCut =>
    ("found either the beginning of a special word boundary or a bounded repetition on a " ++
      "\\b with an opening brace, but no closing brace").toList
  | propertyEscaped => "invalid Unicode character class".toList
  | backreference => "backreferences are not supported".toList
  | lookAround =>
    "look-around, including look-ahead and look-behind, is not supported".toList
  | beyondAscii => "Unicode not allowed here".toList
  | notText => "pattern can match invalid UTF-8".toList
  | propertyUnknown => "Unicode property not found".toList
  | propertyValueUnknown => "Unicode property value not found".toList

/-- An error and where the pattern shows it; some errors show at an earlier part, too. -/
structure PatternFault where
  error : PatternError
  span : Span
  earlier : Option Span := none
  deriving DecidableEq

namespace PatternFault

/-! ## 1. Lines -/

/-- A place by its line and its column, both counted from zero. -/
structure Place where
  line : Nat
  column : Nat
  deriving DecidableEq

/-- The place after so many characters of a pattern. -/
def placeOf (pattern : Text) (count : Nat) : Place :=
  let before := pattern.take count
  { line := before.count '\n', column := (before.reverse.takeWhile (· ≠ '\n')).length }

/-- The lines of a pattern without their ends; a last one that is empty does not count. -/
def linesOf (pattern : Text) : List Text :=
  let parts := pattern.splitOn '\n'
  let last := parts.getLast?.getD []
  parts.dropLast.map (Text.dropLastIf '\r') ++ if last = [] then [] else [last]

/-- The marks below a line for parts of it, each with its first and last column, in order. -/
def marks (width : Nat) : List (Nat × Nat) → Text
  | [] => []
  | (start, stop) :: rest =>
    let length := max 1 (stop - start)
    List.replicate (start - width) ' ' ++ List.replicate length '^' ++
      marks (max width start + length) rest

/-! ## 2. Reports -/

/-- The parts that a fault shows, in order. -/
def spans (fault : PatternFault) : List Span :=
  match fault.earlier with
  | none => [fault.span]
  | some earlier =>
    if earlier.start < fault.span.start then [earlier, fault.span] else [fault.span, earlier]

/-- A line of a pattern and the marks below it, after margins of the same width. -/
def quoteLine (fault : PatternFault) (pattern : Text) (margin : Text) (number : Nat)
    (line : Text) : Text :=
  let parts := fault.spans.filterMap fun span =>
    let start := placeOf pattern span.start
    let stop := placeOf pattern span.stop
    if start.line = number ∧ stop.line = number then some (start.column, stop.column) else none
  margin ++ line ++ ['\n'] ++
    if parts = [] then []
    else List.replicate margin.length ' ' ++ marks 0 parts ++ ['\n']

/-- The note for a part that extends over several lines. -/
def noteFor (pattern : Text) (span : Span) : Text :=
  let start := placeOf pattern span.start
  let stop := placeOf pattern span.stop
  "on line ".toList ++ Text.ofNat (start.line + 1) ++ " (column ".toList ++
    Text.ofNat (start.column + 1) ++ ") through line ".toList ++ Text.ofNat (stop.line + 1) ++
    " (column ".toList ++ Text.ofNat stop.column ++ ")\n".toList

/-- The pattern with its faulty parts marked, if it has one line. -/
def quotation (fault : PatternFault) (pattern : Text) : Text :=
  fault.quoteLine pattern [' ', ' ', ' ', ' '] 0 pattern

/-- The pattern with its faulty parts marked and its lines numbered, between two dividing lines;
below are the notes for parts that extend over several lines. -/
def numberedQuotation (fault : PatternFault) (pattern : Text) : Text :=
  let divider := List.replicate 79 '~' ++ ['\n']
  let width := (Text.ofNat (pattern.count '\n' + 1)).length
  let quoted := (linesOf pattern).zipIdx.flatMap fun (line, i) =>
    let number := Text.ofNat (i + 1)
    let margin := List.replicate (width - number.length) ' ' ++ number ++ [':', ' ']
    fault.quoteLine pattern margin i line
  let long := fault.spans.filter fun span =>
    (placeOf pattern span.start).line ≠ (placeOf pattern span.stop).line
  divider ++ quoted ++ divider ++ long.flatMap (noteFor pattern)

/-- What is said of a fault of a pattern. -/
def report (pattern : Text) (fault : PatternFault) : Text :=
  "regex parse error:\n".toList ++
    (if pattern.contains '\n' then fault.numberedQuotation pattern else fault.quotation pattern) ++
    "error: ".toList ++ fault.error.message

end PatternFault

end LookupLog
