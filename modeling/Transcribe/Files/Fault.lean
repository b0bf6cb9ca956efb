/-!
# `Files.Fault` — why reading or writing a file failed

The faults that a conversion can meet on a file system, with the operating system's
wording (Linux), which reports show as the cause of an error.
-/

namespace Transcribe

/-- A failed file operation. -/
inductive Fault where
  /-- No file or directory is at the path, or a directory on the way is missing. -/
  | notFound
  /-- A directory is where a file was expected. -/
  | isDirectory
  /-- A file is where a directory was expected on the way. -/
  | notDirectory
  /-- The file's bytes are not UTF-8 text. -/
  | notUtf8
  deriving DecidableEq, Repr

/-- The operating system's wording of a fault. -/
def Fault.message : Fault → String
  | .notFound => "No such file or directory (os error 2)"
  | .isDirectory => "Is a directory (os error 21)"
  | .notDirectory => "Not a directory (os error 20)"
  | .notUtf8 => "stream did not contain valid UTF-8"

/-- What looking for a text file at a path finds. -/
inductive FileText where
  /-- No regular file is there. -/
  | missing
  /-- A regular file is there but cannot be read as text. -/
  | unreadable (f : Fault)
  /-- The file's text. -/
  | text (s : String)
  deriving DecidableEq, Repr

end Transcribe
