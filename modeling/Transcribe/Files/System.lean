import Transcribe.Files.Tree
/-!
# `Files.System` — what a program asks of a file system

A program that reads and writes files is written once against `FileSystem`, the
four questions it asks: what kind of entry is at a path, the bytes of a file, writing
a file, and the entries of a directory. A tree held as a value answers them in
`StateM Tree`, so a run can be computed and reasoned about without touching a disk;
the command line answers them from the disk.

A text file is a file whose bytes are UTF-8.
-/

namespace Transcribe.Files

/-- The file-system questions a program asks. -/
class FileSystem (m : Type → Type) where
  /-- What kind of entry is at a path, if any. -/
  kind? : String → m (Option EntryKind)
  /-- The bytes of the file at a path. -/
  readBytes : String → m (Except Fault ByteArray)
  /-- Writes a file, replacing one that is there. -/
  writeBytes : String → ByteArray → m (Except Fault Unit)
  /-- The names and kinds of the entries in a directory. -/
  children : String → m (Except Fault (List (String × EntryKind)))

/-- A tree held as a value answers the questions. -/
instance : FileSystem (StateM Tree) where
  kind? p := do return (← get).kind? p
  readBytes p := do return (← get).read p
  writeBytes p b := do
    match (← get).write p b with
    | .ok t => set t; return .ok ()
    | .error f => return .error f
  children p := do return (← get).children p

variable {m : Type → Type} [Monad m] [FileSystem m]

/-- Whether a directory is at a path. -/
def isDir (p : String) : m Bool := do return (← FileSystem.kind? p) == some .dir

/-- Whether a file is at a path. -/
def isFile (p : String) : m Bool := do return (← FileSystem.kind? p) == some .file

/-- Whether anything is at a path. -/
def exists? (p : String) : m Bool := do return (← FileSystem.kind? p).isSome

/-- The text of a file. -/
def readText (p : String) : m (Except Fault String) := do
  match ← FileSystem.readBytes p with
  | .ok b =>
    match String.fromUTF8? b with
    | some s => return .ok s
    | none => return .error .notUtf8
  | .error f => return .error f

/-- Writes a text file. -/
def writeText (p : String) (text : String) : m (Except Fault Unit) :=
  FileSystem.writeBytes p text.toUTF8

end Transcribe.Files
