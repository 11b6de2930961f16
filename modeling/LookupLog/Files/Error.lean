import LookupLog.Text.Basic

/-!
# File errors

Why a file could not be opened, read or created, with the wording of the operating system.
-/

namespace LookupLog

/-- Why an operation on a file failed. -/
inductive FileError where
  /-- There is no such file, or no such directory on the way to it. -/
  | notFound
  /-- The path names a directory. -/
  | isADirectory
  /-- A file stands where the path needs a directory. -/
  | notADirectory
  /-- The path or one of its names is too long. -/
  | nameTooLong
  /-- The path contains a null character. -/
  | nullInPath
  /-- The content is not UTF-8. -/
  | notUtf8
  deriving DecidableEq

namespace FileError

/-- The wording of the operating system. -/
def message : FileError → Text
  | notFound => "No such file or directory (os error 2)".toList
  | isADirectory => "Is a directory (os error 21)".toList
  | notADirectory => "Not a directory (os error 20)".toList
  | nameTooLong => "File name too long (os error 36)".toList
  | nullInPath => "file name contained an unexpected NUL byte".toList
  | notUtf8 => "stream did not contain valid UTF-8".toList

end FileError

end LookupLog
