import LookupLog.Options.Basic

/-!
# Help

What is shown when help or the version is asked for, and when a command line is refused.
-/

namespace LookupLog.Help

/-- Some lines, each with a line feed. -/
def ofLines (lines : List String) : Text :=
  lines.flatMap fun line => line.toList ++ ['\n']

/-- What both helps begin with. -/
def summary : List String := [
  "Summarise a DHT simulator transcript: average lookup latency, average bandwidth and lookup " ++
    "failure rate",
  "",
  "Usage: dhtsim-log-analyzer [OPTIONS] <K>",
  "",
  "Arguments:"]

/-- The help with a paragraph for each argument. -/
def full : Text := ofLines (summary ++ [
  "  <K>",
  "          Run identifier, substituted for `\x7bk\x7d` in the transcript template",
  "",
  "Options:",
  "  -t, --template <TEMPLATE>",
  "          Transcript path template, e.g. `/tmp/log_k\x7bk\x7d.txt`",
  "",
  "  -c, --config <CONFIG>",
  "          TOML config file providing `transcript-template` and `format`",
  "",
  "  -f, --format <FORMAT>",
  "          Report format",
  "",
  "          Possible values:",
  "          - text: Four plain lines, one value per line",
  "          - json: One pretty-printed JSON object",
  "",
  "      --series <SERIES>",
  "          Also write the bandwidth samples to this file as JSON",
  "",
  "  -h, --help",
  "          Print help (see a summary with '-h')",
  "",
  "  -V, --version",
  "          Print version"])

/-- The help with a line for each argument. -/
def short : Text := ofLines (summary ++ [
  "  <K>  Run identifier, substituted for `\x7bk\x7d` in the transcript template",
  "",
  "Options:",
  "  -t, --template <TEMPLATE>  Transcript path template, e.g. `/tmp/log_k\x7bk\x7d.txt`",
  "  -c, --config <CONFIG>      TOML config file providing `transcript-template` and `format`",
  "  -f, --format <FORMAT>      Report format [possible values: text, json]",
  "      --series <SERIES>      Also write the bandwidth samples to this file as JSON",
  "  -h, --help                 Print help (see more with '--help')",
  "  -V, --version              Print version"])

/-- The name of the program and its version. -/
def version : Text := ofLines ["dhtsim-log-analyzer 0.1.0"]

/-- What is wrong with a command line. -/
def usageMessage : UsageError → String
  | .unknownArgument => "error: unexpected argument found"
  | .invalidValue => "error: a value is missing or not allowed"
  | .missingArgument => "error: the required argument <K> was not provided"
  | .repeatedOption => "error: an option cannot be used multiple times"
  | .needlessValue => "error: unexpected value found"

/-- What is shown when a command line is refused. -/
def refusal (e : UsageError) : Text := ofLines [
  usageMessage e,
  "",
  "Usage: dhtsim-log-analyzer [OPTIONS] <K>",
  "",
  "For more information, try '--help'."]

end LookupLog.Help
