import LookupLog.Files.Error
import LookupLog.Report.Format
import LookupLog.Template

/-!
# Configurations and settings

A configuration holds what a config file sets and leaves the rest open. Settings leave nothing open:
each comes from the command line, else from the configuration, else from the standard values.
-/

namespace LookupLog

/-- What a config file sets. -/
structure Config where
  template : Option Text := none
  format : Option ReportFormat := none
  deriving DecidableEq

/-- What a run is carried out with. -/
structure Settings where
  template : Text
  format : ReportFormat
  deriving DecidableEq

/-! ## 1. Errors -/

/-- What is wrong with the content of a config file. -/
inductive ConfigFault where
  /-- The text is no TOML document. -/
  | noDocument
  /-- A key that no configuration has. -/
  | unknownKey (key : Text)
  /-- A format that does not exist. -/
  | unknownFormat (name : Text)
  /-- A template that is no string, with what it is instead. -/
  | wrongType (found : Text)
  /-- A format that is neither a string nor a table that names one format. -/
  | noFormatName
  deriving DecidableEq

/-- Why a configuration cannot be used. -/
inductive ConfigError where
  /-- The file at a path cannot be read. -/
  | unreadable (path : Text) (cause : FileError)
  /-- The content is no configuration. -/
  | malformed (fault : ConfigFault)
  /-- A template does not tell runs apart. -/
  | noPlaceholder (template : Text)
  deriving DecidableEq

namespace ConfigFault

/-- The wording of a fault. -/
def message : ConfigFault → Text
  | noDocument => "invalid TOML document".toList
  | unknownKey key =>
    "unknown field `".toList ++ key ++ "`, expected `transcript-template` or `format`".toList
  | unknownFormat name =>
    "unknown variant `".toList ++ name ++ "`, expected `text` or `json`".toList
  | wrongType found => "invalid type: ".toList ++ found ++ ", expected a string".toList
  | noFormatName => "wanted string or table with one element".toList

end ConfigFault

namespace ConfigError

/-- The wording of an error. -/
def message : ConfigError → Text
  | unreadable path cause =>
    "Failed to read config file: ".toList ++ path ++ ": ".toList ++ cause.message
  | malformed fault => "Failed to parse config file: ".toList ++ fault.message
  | noPlaceholder template =>
    "Transcript template `".toList ++ template ++ "` does not contain the ".toList ++
      Template.placeholder ++ " placeholder".toList

end ConfigError

/-! ## 2. Settings -/

namespace Settings

/-- A template that has a placeholder. -/
def checkTemplate (template : Text) : Except ConfigError Unit :=
  if Template.hasPlaceholder template then .ok () else .error (.noPlaceholder template)

/-- The settings for what the command line and a configuration say, with the command line first. -/
def resolve (template : Option Text) (format : Option ReportFormat) (config : Config) :
    Except ConfigError Settings := do
  let template := (template.or config.template).getD Template.standard
  checkTemplate template
  return { template, format := (format.or config.format).getD .text }

/-- The path of the transcript of a run. -/
def transcriptPath (settings : Settings) (k : Text) : Text :=
  Template.fill k settings.template

end Settings

end LookupLog
