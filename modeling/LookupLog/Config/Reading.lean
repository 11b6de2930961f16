import LookupLog.Config.Basic
import LookupLog.Files.Access
import LookupLog.Toml.Document

/-!
# Reading a configuration

A config file is a TOML document with at most the keys `transcript-template` and `format`. An error
of the document comes first, then the first wrong key in the order of the document, and last a
template without a placeholder.
-/

namespace LookupLog.Config

/-- The key of the template. -/
def templateKey : Text := "transcript-template".toList

/-- The key of the format. -/
def formatKey : Text := "format".toList

/-- The template that a value sets. -/
def templateOf : Toml.Value → Except ConfigFault Text
  | .string template => .ok template
  | value => .error (.wrongType value.describe)

/-- A format by its name. -/
def formatNamed (name : Text) : Except ConfigFault ReportFormat :=
  match ReportFormat.ofName? name with
  | some format => .ok format
  | none => .error (.unknownFormat name)

/-- An array or a table without anything in it. -/
def isEmptyContainer : Toml.Value → Bool
  | .array [] => true
  | .table _ [] => true
  | _ => false

/-- The format that a value sets: by its name, or by a table with this name as its only key and
nothing below it. -/
def formatOf : Toml.Value → Except ConfigFault ReportFormat
  | .string name => formatNamed name
  | .table _ [(name, body)] => do
    let format ← formatNamed name
    if isEmptyContainer body then .ok format else .error .noFormatName
  | _ => .error .noFormatName

/-- The configuration with what one more entry sets. -/
def set (config : Config) (entry : Text × Toml.Value) : Except ConfigFault Config :=
  let (key, value) := entry
  if key = templateKey then
    (templateOf value).map fun template => { config with template := some template }
  else if key = formatKey then
    (formatOf value).map fun format => { config with format := some format }
  else .error (.unknownKey key)

/-- The configuration that the entries of a document set. -/
def ofEntries (entries : Toml.Entries) : Except ConfigFault Config :=
  entries.foldlM set {}

/-- The configuration that a text writes. -/
def ofText (text : Text) : Except ConfigError Config :=
  match Toml.document? text with
  | none => .error (.malformed .noDocument)
  | some entries =>
    match ofEntries entries with
    | .error fault => .error (.malformed fault)
    | .ok config =>
      match config.template with
      | none => .ok config
      | some template => (Settings.checkTemplate template).map fun _ => config

/-- The configuration in what was opened at a path. -/
def ofOpened (path : Text) (opened : Except FileError Node) : Except ConfigError Config :=
  match opened.bind Node.text? with
  | .error cause => .error (.unreadable path cause)
  | .ok text => ofText text

end LookupLog.Config
