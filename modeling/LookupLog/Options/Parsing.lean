import LookupLog.Options.Basic

/-!
# Reading a command line

The arguments are read once from left to right. An option takes its value from the same argument
(`--name=value`, `-nvalue`, `-n=value`) or from the next one, which then must not look like an
option. After `--` no argument is an option any more. The only other argument is the identifier of
the run.

An option whose value stands in an argument of its own is settled only when the next option or the
identifier is reached, so that an error found before comes first.
-/

namespace LookupLog

/-- An option that is not settled yet, with its value once that was read. -/
structure Pending where
  option : OptionName
  value : Option Text
  deriving DecidableEq

/-- What was read of a command line. -/
structure CommandLine where
  k : Option Text := none
  template : Option Text := none
  config : Option Text := none
  format : Option ReportFormat := none
  series : Option Text := none
  pending : Option Pending := none
  /-- No more options are read. -/
  trailing : Bool := false
  deriving DecidableEq

namespace CommandLine

/-! ## 1. Settling -/

/-- The option has been settled before. -/
def isGiven (c : CommandLine) : OptionName → Bool
  | .template => c.template.isSome
  | .config => c.config.isSome
  | .format => c.format.isSome
  | .series => c.series.isSome

/-- The value of an option, if it is allowed: a path is not empty and a format exists. -/
def set? (c : CommandLine) (option : OptionName) (value : Text) : Option CommandLine :=
  match option with
  | .template => some { c with template := some value }
  | .config => if value = [] then none else some { c with config := some value }
  | .format => (ReportFormat.ofName? value).map fun format => { c with format := some format }
  | .series => if value = [] then none else some { c with series := some value }

/-- The command line with an option and its value. -/
def give (c : CommandLine) (option : OptionName) (value : Text) : Except Stop CommandLine :=
  if c.isGiven option then .error (.usage .repeatedOption)
  else match c.set? option value with
    | some c => .ok c
    | none => .error (.usage .invalidValue)

/-- The command line with its pending option settled. -/
def settle (c : CommandLine) : Except Stop CommandLine :=
  match c.pending with
  | none => .ok c
  | some { option := _, value := none } => .error (.usage .invalidValue)
  | some { option, value := some value } => { c with pending := none }.give option value

/-! ## 2. Arguments -/

/-- An option, with the value that stands in the same argument. -/
def readOption (c : CommandLine) (option : OptionName) (value : Option Text) :
    Except Stop CommandLine := do
  let c ← c.settle
  match value with
  | some value => c.give option value
  | none => return { c with pending := some { option, value := none } }

/-- A request for help or for the version; what was read before has to be right. -/
def readRequest (c : CommandLine) (request : Stop) : Except Stop CommandLine := do
  let _ ← c.settle
  throw request

/-- What follows two hyphens. -/
def readLong (c : CommandLine) (text : Text) : Except Stop CommandLine :=
  let name := text.takeWhile (· ≠ '=')
  let value := (text.dropWhile (· ≠ '=')).tail?
  if name = "help".toList ∨ name = "version".toList then
    if value.isSome then .error (.usage .needlessValue)
    else c.readRequest (if name = "help".toList then .help true else .version)
  else match OptionName.all.find? fun option => option.long = name with
    | some option => c.readOption option value
    | none => .error (.usage .unknownArgument)

/-- What follows one hyphen: a letter, and perhaps a value. -/
def readShort (c : CommandLine) (letter : Char) (rest : Text) : Except Stop CommandLine :=
  if letter = 'h' then c.readRequest (.help false)
  else if letter = 'V' then c.readRequest .version
  else match OptionName.all.find? fun option => option.short? = some letter with
    | none => .error (.usage .unknownArgument)
    | some option =>
      match rest with
      | [] => c.readOption option none
      | '=' :: value => c.readOption option (some value)
      | value => c.readOption option (some value)

/-- The identifier of the run. -/
def readIdentifier (c : CommandLine) (text : Text) : Except Stop CommandLine :=
  if c.k.isSome then .error (.usage .unknownArgument)
  else do
    let c ← c.settle
    return { c with k := some text }

/-- An argument that is no option. -/
def readPlain (c : CommandLine) (text : Text) : Except Stop CommandLine :=
  match c.pending with
  | some { option, value := none } => .ok { c with pending := some { option, value := some text } }
  | _ => c.readIdentifier text

/-- One more argument. -/
def read (c : CommandLine) (argument : Text) : Except Stop CommandLine :=
  if c.trailing then c.readIdentifier argument
  else match argument with
    | ['-', '-'] => .ok { c with trailing := true }
    | '-' :: '-' :: text => c.readLong text
    | '-' :: letter :: rest => c.readShort letter rest
    | text => c.readPlain text

/-! ## 3. The whole command line -/

/-- The options once all arguments were read. -/
def finish (c : CommandLine) : Except Stop Options := do
  let c ← c.settle
  match c.k with
  | none => throw (.usage .missingArgument)
  | some k =>
    return { k, template := c.template, config := c.config, format := c.format, series := c.series }

end CommandLine

/-- The options that some arguments write. -/
def Options.ofArguments (arguments : List Text) : Except Stop Options := do
  let c ← arguments.foldlM CommandLine.read {}
  c.finish

end LookupLog
