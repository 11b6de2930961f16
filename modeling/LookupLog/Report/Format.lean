import LookupLog.Text.Basic

/-!
# Report formats
-/

namespace LookupLog

/-- How a report is written. -/
inductive ReportFormat where
  /-- Four plain lines, one value per line. -/
  | text
  /-- One JSON object. -/
  | json
  deriving DecidableEq

namespace ReportFormat

/-- The name of a format in a config file and on the command line. -/
def name : ReportFormat → Text
  | text => ['t', 'e', 'x', 't']
  | json => ['j', 's', 'o', 'n']

/-- The format of a given name. -/
def ofName? (name : Text) : Option ReportFormat :=
  if name = text.name then some text
  else if name = json.name then some json
  else none

@[simp] theorem ofName?_name (f : ReportFormat) : ofName? f.name = some f := by
  cases f <;> rfl

/-- A text names a format exactly if it is the name of that format. -/
theorem ofName?_eq_some_iff {n : Text} {f : ReportFormat} : ofName? n = some f ↔ n = f.name := by
  refine ⟨fun h => ?_, fun h => h ▸ ofName?_name f⟩
  unfold ofName? at h
  split at h
  · simp_all
  · split at h <;> simp_all

end ReportFormat

end LookupLog
