import LookupLog.Run.Execution

/-!
# The command line program

Files and the standard output are those of the operating system; everything else is `execute`.
-/

namespace LookupLog

/-- An error number, which some operations give with its sign reversed. -/
def errorNumber (code : UInt32) : UInt32 :=
  if code < 0x80000000 then code else 0 - code

/-- The cause in an error of the operating system. -/
def FileError.ofIO : IO.Error → FileError
  | .inappropriateType _ code _ => if errorNumber code = 21 then .isADirectory else .notADirectory
  | .invalidArgument _ code _ => if errorNumber code = 36 then .nameTooLong else .nullInPath
  | _ => .notFound

/-- The operating system. -/
def system : Host IO where
  openNode path := do
    try
      return .ok (.file (← IO.FS.readBinFile (String.ofList path)).data.toList)
    catch e =>
      match FileError.ofIO e with
      | .isADirectory => return .ok .directory
      | cause => return .error cause
  create path content := do
    try
      IO.FS.writeBinFile (String.ofList path) content.toByteArray
      return .ok ()
    catch e => return .error (.ofIO e)
  print text := do
    (← IO.getStdout).putStr (String.ofList text)

end LookupLog

open LookupLog in
/-- Runs the program on its arguments. -/
def main (arguments : List String) : IO UInt32 := do
  let setting ← IO.getEnv "RUST_LOG"
  let result ← execute system (setting.getD "").toList (arguments.map String.toList)
  (← IO.getStderr).putStr (String.ofList result.stderr)
  return result.exitCode.toUInt32
