import LookupLog.Pattern.Escape

/-!
# Sets in brackets

A set in brackets lists characters, ranges, escapes and further sets, all of which it unites. Two
operators `&&`, `--` or `~~` in it take the intersection and the differences of what stands on
their sides, from left to right.
-/

namespace LookupLog.Pattern

/-! ## 1. Parts of sets -/

/-- A part of a set in brackets, or all of it. -/
structure BracketPart where
  set : CharSet
  span : Span
  nesting : Nesting := .flat
  deriving DecidableEq

/-- What was read of a set since its beginning or its last operator; the last part comes first. -/
structure Members where
  start : Nat
  parts : List BracketPart := []
  deriving DecidableEq

namespace Members

/-- One more part. -/
def add (m : Members) (part : BracketPart) : Members :=
  { m with parts := part :: m.parts }

/-- All parts as one. -/
def whole (m : Members) : BracketPart :=
  match m.parts with
  | [] => { set := .empty, span := .at m.start }
  | [part] => part
  | last :: earlier =>
    let first := earlier.getLast?.getD last
    let span : Span := ⟨first.span.start, last.span.stop⟩
    { set := earlier.foldl (fun s part => .union part.set s) last.set
      span
      nesting := .within span (.row (m.parts.reverse.map BracketPart.nesting)) }

end Members

/-- What an operator of two equal characters gives. -/
def operate (operator : Char) (s t : CharSet) : CharSet :=
  if operator = '&' then .inter s t
  else if operator = '-' then s.without t
  else s.either t

/-- The members that were read, with what stands before the last operator. -/
def operated (flags : Flags) (left : Option (Char × BracketPart)) (members : Members) :
    BracketPart :=
  let right := members.whole
  match left with
  | none => right
  | some (operator, left) =>
    let span : Span := ⟨left.span.start, right.span.stop⟩
    { set := operate operator (flags.fold left.set) (flags.fold right.set)
      span
      nesting := .within span (.beside left.nesting right.nesting) }

namespace Reader

/-! ## 2. Members -/

/-- A character in a set; without Unicode it must be ASCII. -/
def member (flags : Flags) (c : Char) (byte : Bool) (span : Span) : Reader Unit := do
  if ! flags.unicode && 0x80 ≤ c.toNat then note (if byte then .notText else .beyondAscii) span

/-- Reads an atom in a set, with the part of the pattern that it takes. -/
def bracketAtom (flags : Flags) : Reader (Atom × Span) := do
  let start ← place
  match ← next? with
  | none => return (.set .empty, .at start)
  | some '\\' =>
    let atom ← escape flags
    return (atom, ← since start)
  | some c =>
    pass 1
    return (.literal c false, ← since start)

/-- The set of an atom that stands alone. -/
def loneAtom (flags : Flags) (span : Span) : Atom → Reader CharSet
  | .literal c byte => do
    member flags c byte span
    return .single c
  | .set s => return s
  | .place _ => fail .assertionInClass span

/-- The character of an atom at an end of a range, and whether it is given as a byte. -/
def rangeEnd (span : Span) : Atom → Reader (Char × Bool)
  | .literal c byte => return (c, byte)
  | _ => fail .rangeWithoutCharacter span

/-- The character by which a hyphen is told from a range operator. White space before it does not
count where it means nothing, nor does the sign of a comment. -/
def afterHyphen? (flags : Flags) (text : Text) : Option Char :=
  if flags.verbose then
    match text.dropWhile Text.isSpace with
    | '#' :: comment => (comment.dropWhile Text.isSpace).head?
    | visible => visible.head?
  else text.head?

/-- Reads an atom or a range of characters; the set was opened by a part of the pattern. -/
def bracketItem (flags : Flags) (opened : Span) : Reader BracketPart := do
  let (first, firstSpan) ← bracketAtom flags
  skip flags
  match ← rest with
  | [] => fail .classOpen opened
  | c :: text =>
    if c ≠ '-' || [some ']', some '-'].contains (afterHyphen? flags text) then
      return { set := ← loneAtom flags firstSpan first, span := firstSpan }
    else
      step flags
      if (← next?).isNone then fail .classOpen opened
      let (last, lastSpan) ← bracketAtom flags
      let (a, aByte) ← rangeEnd firstSpan first
      let (b, bByte) ← rangeEnd lastSpan last
      let span : Span := ⟨firstSpan.start, lastSpan.stop⟩
      if b < a then fail .backwardsRange span
      member flags a aByte firstSpan
      member flags b bByte lastSpan
      return { set := .range a b, span }

/-- A named ASCII class at the beginning of a text: the class, whether its complement is meant, and
the length of it. -/
def namedClass? (text : Text) : Option (CharSet × Bool × Nat) :=
  match Text.after? ['[', ':'] text with
  | none => none
  | some inside =>
    let negated := inside.head? = some '^'
    let named := if negated then inside.tail else inside
    let name := named.takeWhile (· ≠ ':')
    if [':', ']'].isPrefixOf (named.drop name.length) then
      (namedAscii? (String.ofList name)).map fun s =>
        (s, negated, name.length + if negated then 5 else 4)
    else none

/-! ## 3. Brackets -/

/-- The beginning of a set: where it stands, whether its complement is meant, and its first
members. -/
structure BracketHead where
  opened : Span
  negated : Bool
  members : Members

/-- Reads a character as a member, after which the set must go on; else `unclosed` is the part of
the pattern that shows the fault. -/
def literalMember (flags : Flags) (unclosed : Reader Span) (members : Members) (c : Char) :
    Reader Members := do
  let span ← nextSpan
  step flags
  if (← next?).isNone then fail .classOpen (← unclosed)
  return members.add { set := .single c, span }

/-- Reads hyphens as members. -/
def hyphens (flags : Flags) (start : Nat) : (fuel : Nat) → Members → Reader Members
  | 0, members => return members
  | fuel + 1, members => do
    if (← next?) = some '-' then
      hyphens flags start fuel (← literalMember flags (return .at start) members '-')
    else return members

/-- Reads the beginning of a set. Hyphens at the beginning are members, and so is a closing bracket
that comes first. -/
def bracketHead (flags : Flags) : Reader BracketHead := do
  let start ← place
  step flags
  if (← next?).isNone then fail .classOpen (← since start)
  let negated := (← next?) = some '^'
  if negated then
    step flags
    if (← next?).isNone then fail .classOpen (← since start)
  let members ← hyphens flags start (← rest).length { start := ← place }
  let members ←
    if members.parts = [] ∧ (← next?) = some ']' then
      literalMember flags (since start) members ']'
    else pure members
  return { opened := ← since start, negated, members }

/-- Reads the members of a set and its closing bracket. -/
def bracketBody (flags : Flags) (head : BracketHead) :
    (fuel : Nat) → Option (Char × BracketPart) → Members → Reader BracketPart
  | 0, _, members => return members.whole
  | fuel + 1, left, members => do
    skip flags
    let start ← place
    let text ← rest
    match text with
    | [] => fail .classOpen head.opened
    | ']' :: _ =>
      pass 1
      let content := operated flags left members
      let span ← since head.opened.start
      let set ← negateIf flags head.negated span (flags.fold content.set)
      return { set, span, nesting := .within span content.nesting }
    | '[' :: _ =>
      match namedClass? text with
      | some (s, negated, length) =>
        pass length
        let span ← since start
        let set ← negateIf flags negated span (flags.fold s)
        bracketBody flags head fuel left (members.add { set, span })
      | none =>
        let inner ← bracketHead flags
        let part ← bracketBody flags inner fuel none inner.members
        bracketBody flags head fuel left (members.add part)
    | c :: after =>
      if (c = '&' ∨ c = '-' ∨ c = '~') ∧ after.head? = some c then
        pass 2
        let left := (c, operated flags left members)
        bracketBody flags head fuel (some left) { start := ← place }
      else
        let part ← bracketItem flags head.opened
        bracketBody flags head fuel left (members.add part)

/-- Reads a set in brackets. -/
def bracket (flags : Flags) : Reader BracketPart := do
  let fuel := (← rest).length
  let head ← bracketHead flags
  bracketBody flags head fuel none head.members

end Reader

end LookupLog.Pattern
