import LookupLog.Log.Level
import LookupLog.Pattern.Reading
import LookupLog.Pattern.Size

/-!
# Log filters

A filter has directives, each of which sets a threshold for the origins that begin with its scope;
the one with the longest scope decides. It may also have a pattern that has to occur in a message.
A setting writes directives, with commas between them, and the pattern after a slash; what cannot
be read is a fault and is left out.
-/

namespace LookupLog

/-- A threshold for the origins that begin with a scope; without a scope, for all. -/
structure Directive where
  scope : Option Text
  threshold : Threshold
  deriving DecidableEq

/-- What is shown. -/
structure LogFilter where
  directives : List Directive
  /-- What has to occur in a message that is shown. -/
  pattern : Option Pattern := none
  deriving DecidableEq

/-! ## 1. Filters -/

namespace LogFilter

/-- The filter with a directive in place of the one with the same scope. -/
def add (filter : LogFilter) (d : Directive) : LogFilter :=
  { filter with
    directives := filter.directives.filter (fun other => other.scope ≠ d.scope) ++ [d] }

/-- The threshold of an origin: that of the longest scope it begins with. -/
def threshold (filter : LogFilter) (origin : Text) : Threshold :=
  let fitting := filter.directives.filter fun d => (d.scope.getD []).isPrefixOf origin
  let longest := fitting.foldl
    (fun best d => match best with
      | none => some d
      | some b => if (b.scope.getD []).length ≤ (d.scope.getD []).length then some d else some b)
    (none : Option Directive)
  match longest with
  | none => 0
  | some d => d.threshold

/-- A message of a level from an origin is shown. -/
def shows (filter : LogFilter) (origin : Text) (level : Level) (message : Text) : Bool :=
  level.rank ≤ filter.threshold origin && filter.pattern.all fun p => p.occursIn message

end LogFilter

/-! ## 2. Settings -/

namespace LogSetting

/-- What is wrong with a setting or with a part of it. -/
inductive Fault where
  /-- A text in the place of a threshold that names none, or a part with two equals signs. -/
  | notReadable (text : Text)
  /-- The setting has more than one slash, so none of it is read. -/
  | tooManySlashes (setting : Text)
  /-- What follows the slash is no pattern. -/
  | badPattern (text : Text) (fault : PatternFault)
  /-- The pattern is too large to be searched for. -/
  | largePattern
  deriving DecidableEq

/-- The wording of a fault. -/
def Fault.message : Fault → Text
  | notReadable text => "invalid logging spec '".toList ++ text ++ "'".toList
  | tooManySlashes setting =>
    "invalid logging spec '".toList ++ setting ++ "' (too many '/'s)".toList
  | badPattern text fault => "invalid regex filter - ".toList ++ fault.report text
  | largePattern =>
    "invalid regex filter - Compiled regex exceeds size limit of ".toList ++
      Text.ofNat Pattern.sizeLimit ++ " bytes.".toList

/-- A text without the white space around it. -/
def trim (text : Text) : Text :=
  ((text.dropWhile Text.isSpace).reverse.dropWhile Text.isSpace).reverse

/-- The directive that a part writes: a threshold, a scope, or both with an equals sign between
them. A scope alone shows everything. -/
def directive (part : Text) : Except Fault Directive :=
  match part.splitOn '=' with
  | [word] =>
    match Threshold.ofName? word with
    | some threshold => .ok { scope := none, threshold }
    | none => .ok { scope := some word, threshold := .all }
  | [scope, word] =>
    if trim word = [] then .ok { scope := some scope, threshold := .all }
    else match Threshold.ofName? (trim word) with
      | some threshold => .ok { scope := some scope, threshold }
      | none => .error (.notReadable (trim word))
  | _ => .error (.notReadable part)

/-- What the parts before the slash of a setting write. -/
def readDirectives (setting : Text) : List (Except Fault Directive) :=
  if 1 < setting.count '/' then [.error (.tooManySlashes setting)]
  else
    let parts := ((setting.takeWhile (· ≠ '/')).splitOn ',').map trim
    (parts.filter (· ≠ [])).map directive

/-- The pattern that a text writes, if it is one and not too large. -/
def patternOf (text : Text) : Except Fault Pattern :=
  match Pattern.ofText text with
  | .error fault => .error (.badPattern text fault)
  | .ok p => if p.isTooLarge then .error .largePattern else .ok p

/-- The pattern after the slash of a setting; `none` without a slash. -/
def readPattern (setting : Text) : Option (Except Fault Pattern) :=
  if setting.count '/' = 1 then some (patternOf (setting.dropWhile (· ≠ '/')).tail) else none

/-- The directives of a setting. -/
def directives (setting : Text) : List Directive :=
  (readDirectives setting).filterMap Except.toOption

/-- The pattern of a setting. -/
def pattern (setting : Text) : Option Pattern :=
  (readPattern setting).bind Except.toOption

/-- What is wrong with something that was read. -/
def faultOf : Except Fault α → Option Fault
  | .error fault => some fault
  | .ok _ => none

/-- The faults of a setting. -/
def faults (setting : Text) : List Fault :=
  (readDirectives setting).filterMap faultOf ++ ((readPattern setting).bind faultOf).toList

end LogSetting

end LookupLog
