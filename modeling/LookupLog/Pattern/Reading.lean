import LookupLog.Pattern.Bracket

/-!
# Written patterns

A written pattern is a regular expression: characters, classes, groups, alternatives, repetitions
and assertions. `Pattern.ofText` reads it, or says what is wrong with it.
-/

namespace LookupLog.Pattern

/-! ## 1. Flags in groups -/

/-- The flags with the one of a letter switched on or off. How greedy a repetition is makes no
difference to whether a text has a part that fits. -/
def Flags.set (flags : Flags) (letter : Char) (on : Bool) : Flags :=
  match letter with
  | 'i' => { flags with caseless := on }
  | 'm' => { flags with multiLine := on }
  | 's' => { flags with dotAll := on }
  | 'u' => { flags with unicode := on }
  | 'R' => { flags with anyBreak := on }
  | 'x' => { flags with verbose := on }
  | _ => flags

/-- The flags after some letters; those after a hyphen are switched off. -/
def Flags.setAll (flags : Flags) (letters : Text) : Flags :=
  let switchedOff := (letters.dropWhile (· ≠ '-')).drop 1
  let flags := (letters.takeWhile (· ≠ '-')).foldl (fun f c => f.set c true) flags
  switchedOff.foldl (fun f c => f.set c false) flags

namespace Reader

/-- Checks a letter among flags that begin at a place and of which some stand before it. -/
def checkFlag (start : Nat) (before : Text) (c : Char) : Reader Unit := do
  let span : Span := ⟨start + before.length, start + before.length + 1⟩
  match before.findIdx? (· = c) with
  | some i =>
    let error := if c = '-' then PatternError.flagNegationTwice else .flagTwice
    throw { error, span, earlier := some ⟨start + i, start + i + 1⟩ }
  | none =>
    if ! ['-', 'i', 'm', 's', 'U', 'u', 'R', 'x'].contains c then fail .flagUnknown span

/-- Checks the letters of flags from left to right. -/
def checkFlags (start : Nat) (before : Text) : Text → Reader Unit
  | [] => return
  | c :: letters => do
    checkFlag start before c
    checkFlags start (before ++ [c]) letters

/-- Reads the letters of flags, after which a colon or a closing parenthesis comes. -/
def flagLetters : Reader Text := do
  let start ← place
  let letters := (← rest).takeWhile fun c => c ≠ ':' && c ≠ ')'
  checkFlags start [] letters
  pass letters.length
  if (← next?).isNone then fail .flagsOpen (.at (← place))
  if letters.getLast? = some '-' then
    fail .flagNegationLast ⟨start + letters.length - 1, start + letters.length⟩
  return letters

/-! ## 2. Openings of groups -/

/-- What an opening parenthesis begins. -/
inductive Opening where
  /-- A group in which flags hold. -/
  | group (flags : Flags)
  /-- No group, but flags for what follows. -/
  | setting (flags : Flags)
  deriving DecidableEq

/-- A character in the name of a group. -/
def isNameChar (first : Bool) (c : Char) : Bool :=
  c = '_' || Text.isAlphabetic c ||
    (! first && (c = '.' || c = '[' || c = ']' || (Text.Category.of c).group = 'N'))

/-- The length of the longest beginning of a text that may be a name. -/
def nameLength : (first : Bool) → Text → Nat
  | _, [] => 0
  | first, c :: text => if isNameChar first c then nameLength false text + 1 else 0

/-- Reads the name of a group and the mark after it. -/
def groupName : Reader Unit := do
  let start ← place
  let name := (← rest).takeWhile (· ≠ '>')
  let good := nameLength true name
  if good < name.length then fail .nameWrong ⟨start + good, start + good + 1⟩
  pass name.length
  if (← next?).isNone then fail .nameOpen (.at (← place))
  let span ← since start
  pass 1
  if name = [] then fail .nameEmpty (.at start)
  match (← get).names.lookup name with
  | some earlier => throw { error := .nameTwice, span, earlier := some earlier }
  | none => modify fun r => { r with names := (name, span) :: r.names }

/-- Reads what follows an opening parenthesis, which is the first character left. -/
def opening (flags : Flags) : Reader Opening := do
  let start ← place
  step flags
  let inside ← place
  for mark in ["?=", "?!", "?<=", "?<!"] do
    if ← passIf mark then fail .lookAround (← since start)
  let named ← do
    if ← passIf "?P<" then pure true else passIf "?<"
  if named then
    groupName
    return .group flags
  else if ← passIf "?" then
    if (← next?).isNone then fail .groupOpen ⟨start, start + 1⟩
    let letters ← flagLetters
    let isGroup := (← next?) = some ':'
    pass 1
    if isGroup then return .group (flags.setAll letters)
    else if letters = [] then fail .nothingToRepeat (.at inside)
    else return .setting (flags.setAll letters)
  else return .group flags

/-! ## 3. Repetitions -/

/-- Reads a decimal number with white space around it. The error is for one that is missing or too
large. -/
def decimal (flags : Flags) : Reader (Except PatternFault Nat) := do
  pass ((← rest).takeWhile Text.isSpace).length
  let start ← place
  let digits ← takeWhile flags Char.isDigit
  let span ← since start
  let _ ← takeWhile flags Text.isSpace
  if digits = [] then return .error { error := .countMissing, span }
  else if Text.toNat digits < 0x100000000 then return .ok (Text.toNat digits)
  else return .error { error := .numberTooLarge, span }

/-- Fails if nothing is left. -/
def orOpen (start : Nat) : Reader Unit := do
  if (← next?).isNone then fail .countOpen (← since start)

/-- Reads how often something is repeated, in braces. -/
def counts (flags : Flags) : Reader (Nat × Option Nat) := do
  let start ← place
  step flags
  orOpen start
  let first ← decimal flags
  orOpen start
  let found ← do
    if (← next?) = some ',' then
      step flags
      orOpen start
      if (← next?) = some '\x7d' then
        pure (← MonadExcept.ofExcept first, none)
      else
        let least ← MonadExcept.ofExcept first
        let most ← MonadExcept.ofExcept (← decimal flags)
        pure (least, some most)
    else
      let count ← MonadExcept.ofExcept first
      pure (count, some count)
  if (← next?) ≠ some '\x7d' then fail .countOpen (← since start)
  step flags
  let _ ← passIf "?"
  if found.2.any (· < found.1) then fail .countBackwards (← since start)
  return found

/-! ## 4. Parts -/

/-- A part of a pattern that was read. A setting of flags is a part without a pattern. -/
structure Part where
  pattern : Option Pattern
  span : Span
  nesting : Nesting := .flat
  deriving DecidableEq

/-- What was read of a group: the alternatives that are complete and the parts of the one from
`place` on, in both lists the last one first. -/
structure Branches where
  start : Nat
  place : Nat := start
  complete : List Part := []
  parts : List Part := []
  deriving DecidableEq

namespace Branches

/-- The last alternative, which ends at a place. -/
def last (b : Branches) (stop : Nat) : Part :=
  let span : Span := ⟨b.place, stop⟩
  let parts := b.parts.reverse
  { pattern := some (sequenceOf (parts.filterMap Part.pattern))
    span
    nesting := match parts with
      | [part] => part.nesting
      | [] => .flat
      | parts => .within span (.row (parts.map Part.nesting)) }

/-- All alternatives as one part, which ends at a place. -/
def whole (b : Branches) (stop : Nat) : Part :=
  let last := b.last stop
  match b.complete with
  | [] => last
  | complete =>
    let span : Span := ⟨b.start, stop⟩
    let parts := complete.reverse ++ [last]
    { pattern := some (choiceOf (parts.filterMap Part.pattern))
      span
      nesting := .within span (.row (parts.map Part.nesting)) }

/-- One more part. -/
def add (b : Branches) (part : Part) : Branches :=
  { b with parts := part :: b.parts }

/-- One more alternative, after a bar at a place. -/
def split (b : Branches) (bar : Nat) : Branches :=
  { b with place := bar + 1, complete := b.last bar :: b.complete, parts := [] }

end Branches

/-- A group that is open: its parenthesis, the flags outside of it and what stands before it. -/
structure OpenGroup where
  opened : Span
  flags : Flags
  before : Branches
  deriving DecidableEq

/-- The part for a group that was closed, with what it holds. -/
def OpenGroup.close (group : OpenGroup) (content : Part) (stop : Nat) : Part :=
  let span : Span := ⟨group.opened.start, stop⟩
  { content with span, nesting := .within span content.nesting }

/-- Repeats the last part; there must be one that is no setting. -/
def repeatLast (b : Branches) (counts : Reader (Nat × Option Nat)) : Reader Branches := do
  match b.parts with
  | { pattern := some p, span, nesting } :: parts =>
    let (least, most) ← counts
    let span ← since span.start
    let part : Part :=
      { pattern := some (.repeated p least most), span, nesting := .within span nesting }
    return { b with parts := part :: parts }
  | _ => fail .nothingToRepeat (.at (← place))

/-- Reads a sign for a repetition, after which a question mark makes no difference. -/
def sign (least : Nat) (most : Option Nat) : Reader (Nat × Option Nat) := do
  pass 1
  let _ ← passIf "?"
  return (least, most)

/-- Reads a dot. -/
def dot (flags : Flags) : Reader CharSet := do
  let span ← nextSpan
  pass 1
  if ! flags.unicode then note .notText span
  if flags.dotAll then return .all
  else if flags.anyBreak then return .complement (.union (.single '\n') (.single '\r'))
  else return .complement (.single '\n')

/-- The pattern of an atom outside of brackets. -/
def ofAtom (flags : Flags) (span : Span) : Atom → Reader Pattern
  | .literal c byte => do
    if ! flags.unicode && byte && 0x80 ≤ c.toNat then note .notText span
    return .char (flags.fold (.single c))
  | .set s => return .char s
  | .place a => return .place a

/-- The assertion that a line begins; with one line only, the text. -/
def lineStart (flags : Flags) : Assertion :=
  if flags.multiLine then (if flags.anyBreak then .anyLineStart else .lineStart) else .textStart

/-- The assertion that a line ends; with one line only, the text. -/
def lineEnd (flags : Flags) : Assertion :=
  if flags.multiLine then (if flags.anyBreak then .anyLineEnd else .lineEnd) else .textEnd

/-- Reads the pattern of a part that is no group, no set in brackets and no repetition. -/
def simplePattern (flags : Flags) (c : Char) : Reader Pattern := do
  let start ← place
  match c with
  | '\\' =>
    let atom ← escape flags
    ofAtom flags (← since start) atom
  | '.' => return .char (← dot flags)
  | '^' =>
    pass 1
    return .place (lineStart flags)
  | '$' =>
    pass 1
    return .place (lineEnd flags)
  | c =>
    pass 1
    ofAtom flags (← since start) (.literal c false)

/-- Reads a part that is no group and no repetition. -/
def simplePart (flags : Flags) (c : Char) : Reader Part := do
  let start ← place
  if c = '[' then
    let found ← bracket flags
    return { pattern := some (.char found.set), span := found.span, nesting := found.nesting }
  else
    let pattern ← simplePattern flags c
    return { pattern := some pattern, span := ← since start }

/-! ## 5. The pattern -/

/-- Reads the rest of a pattern in which some groups are open, the innermost first. -/
def parts : (fuel : Nat) → List OpenGroup → Flags → Branches → Reader Part
  | 0, _, _, b => do return b.whole (← place)
  | fuel + 1, groups, flags, b => do
    skip flags
    let start ← place
    match ← next? with
    | none =>
      match groups with
      | [] => return b.whole start
      | group :: _ => fail .groupOpen group.opened
    | some '(' =>
      match ← opening flags with
      | .setting flags =>
        parts fuel groups flags (b.add { pattern := none, span := ← since start })
      | .group inner =>
        let group : OpenGroup := { opened := ⟨start, start + 1⟩, flags, before := b }
        parts fuel (group :: groups) inner { start := ← place }
    | some ')' =>
      match groups with
      | [] => fail .groupNotOpen ⟨start, start + 1⟩
      | group :: groups =>
        pass 1
        parts fuel groups group.flags
          (group.before.add (group.close (b.whole start) (start + 1)))
    | some '|' =>
      pass 1
      parts fuel groups flags (b.split start)
    | some '?' => parts fuel groups flags (← repeatLast b (sign 0 (some 1)))
    | some '*' => parts fuel groups flags (← repeatLast b (sign 0 none))
    | some '+' => parts fuel groups flags (← repeatLast b (sign 1 none))
    | some '\x7b' => parts fuel groups flags (← repeatLast b (counts flags))
    | some c => parts fuel groups flags (b.add (← simplePart flags c))

end Reader

/-- How deep the parts of a pattern may lie. -/
def depthLimit : Nat := 250

/-- The pattern that a text writes. -/
def ofText (text : Text) : Except PatternFault Pattern :=
  match (Reader.parts (text.length + 1) [] {} { start := 0 }).run { rest := text } with
  | .error fault => .error fault
  | .ok (part, reading) =>
    match part.nesting.tooDeep? depthLimit, reading.deferred with
    | some span, _ => .error { error := .tooDeep, span }
    | none, some fault => .error fault
    | none, none => .ok (part.pattern.getD nothing)

end LookupLog.Pattern
