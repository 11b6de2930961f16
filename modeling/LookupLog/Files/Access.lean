import LookupLog.Text.Utf8
import LookupLog.Files.Error

/-!
# Access to files

The two things the program does with files, opening one for reading and creating one, for any monad
`m`: the operating system provides them in `IO`, a `Store` provides them as pure functions of the
files it holds.
-/

namespace LookupLog

/-- What stands at a path. -/
inductive Node where
  | file (content : Bytes)
  | directory
  deriving DecidableEq

/-- Opening and creating files in a monad. -/
structure FileAccess (m : Type → Type) where
  /-- Opens what stands at a path for reading; a directory can be opened, but not read. -/
  openNode : (path : Text) → m (Except FileError Node)
  /-- Creates or replaces the file at a path together with its content. -/
  create : (path : Text) → (content : Bytes) → m (Except FileError Unit)

/-- The whole text of an opened node. -/
def Node.text? : Node → Except FileError Text
  | .directory => .error .isADirectory
  | .file content =>
    match Utf8.decode? content with
    | some text => .ok text
    | none => .error .notUtf8

end LookupLog
