import LookupLog.Text.Utf8

/-!
# Control sequences of a terminal

A terminal takes some characters as commands: controls, and sequences that begin with the escape
character. `Terminal.plain` is what a text shows without them. Line breaks, tabs and form feeds are
kept; every other control is dropped.
-/

namespace LookupLog.Terminal

/-- What is being read of a control sequence. -/
inductive State where
  /-- No sequence: characters are shown. -/
  | ground
  /-- An escape character was read. -/
  | escape
  /-- An escape character and intermediate characters were read. -/
  | escapeRest
  /-- A sequence of parameters, which ends with its final character. -/
  | control
  /-- A command to the operating system, which ends with a bell. -/
  | command
  /-- The beginning of a device control string. -/
  | device
  /-- The parameters of a device control string. -/
  | deviceParameters
  /-- The intermediate characters of a device control string. -/
  | deviceRest
  /-- A string for a device or an application. -/
  | data
  deriving DecidableEq

/-- A character between two others, both included, by their code points. -/
def within (first last : Nat) (c : Char) : Bool :=
  first ≤ c.toNat && c.toNat ≤ last

/-- White space that is shown although it is a control. -/
def isShownControl (c : Char) : Bool :=
  c = '\t' || c = '\n' || c = '\x0c' || c = '\r'

/-- The UTF-8 form of the character has the byte that ends a string. -/
def hasTerminator (c : Char) : Bool :=
  (Utf8.encode [c]).contains 0x9c

/-! ## 1. Steps -/

/-- The state after a character that is no ASCII control and not the delete character. -/
def afterCharacter (c : Char) : State → State
  | .ground => .ground
  | .escape =>
    if within 0x20 0x2f c then .escapeRest
    else if c = 'P' then .device
    else if c = 'X' || c = '^' || c = '_' then .data
    else if c = '[' then .control
    else if c = ']' then .command
    else .ground
  | .escapeRest => if within 0x20 0x2f c then .escapeRest else .ground
  | .control => if within 0x20 0x3f c then .control else .ground
  | .command => .command
  | .device =>
    if within 0x20 0x2f c then .deviceRest
    else if within 0x30 0x3f c then .deviceParameters
    else .data
  | .deviceParameters =>
    if within 0x20 0x2f c then .deviceRest
    else if within 0x30 0x3b c then .deviceParameters
    else .data
  | .deviceRest => if within 0x20 0x2f c then .deviceRest else .data
  | .data => .data

/-- An ASCII control or white space is shown in this state, which ends the sequence. -/
def showsControls : State → Bool
  | .ground | .escape | .escapeRest | .control => true
  | _ => false

/-- The state after a character, and whether the character is shown. -/
def step (state : State) (c : Char) : State × Bool :=
  if c = '\x1b' then (.escape, false)
  else if c = '\x18' || c = '\x1a' then (.ground, false)
  else if state = .data then (if hasTerminator c then .ground else .data, false)
  else if state = .command then (if c = '\x07' then .ground else .command, false)
  else if c.toNat < 0x20 then
    if isShownControl c && showsControls state then (.ground, true) else (state, false)
  else if state = .ground then (.ground, c ≠ '\x7f')
  else if 0x7f ≤ c.toNat then (state, false)
  else (afterCharacter c state, false)

/-! ## 2. Texts -/

/-- What a text shows from a state on. -/
def plainFrom : State → Text → Text
  | _, [] => []
  | state, c :: text =>
    match step state c with
    | (state, true) => c :: plainFrom state text
    | (state, false) => plainFrom state text

/-- What a text shows. -/
def plain (text : Text) : Text :=
  plainFrom .ground text

end LookupLog.Terminal
