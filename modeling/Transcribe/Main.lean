import Transcribe.Cli.Run
import Std.Time
/-!
# `Main` — the command line on the disk

The run of `Cli.Run` is computed against `FileSystem`; here the disk answers its
questions, the environment gives the log filter (`RUST_LOG`), the clock gives the
stamp of generated files, and what the run printed goes to the two streams.

Errors of the operating system become the faults that messages name: a missing entry
on the way is *not found*, a directory where a file was expected *is a directory*, a
file where a directory was expected *not a directory*.
-/

namespace Transcribe

open Transcribe.Files

/-- The fault behind an error of the operating system. -/
def faultOf : IO.Error → Fault
  | .inappropriateType _ 21 _ => .isDirectory
  | .inappropriateType _ 20 _ => .notDirectory
  | .otherError 21 _ => .isDirectory
  | .otherError 20 _ => .notDirectory
  | _ => .notFound

/-- The kind of an entry from its metadata. -/
def kindOf (m : IO.FS.Metadata) : Option EntryKind :=
  match m.type with
  | .dir => some .dir
  | .file => some .file
  | _ => none

/-- The metadata of a path on the disk, following links. -/
def diskMetadata (p : String) : IO IO.FS.Metadata := (System.mkFilePath [p]).metadata

/-- The disk answers the file-system questions. -/
instance : FileSystem IO where
  kind? p := do
    try return kindOf (← diskMetadata p)
    catch _ => return none
  readBytes p := do
    try return .ok (← IO.FS.readBinFile p)
    catch e => return .error (faultOf e)
  writeBytes p b := do
    try
      IO.FS.writeBinFile p b
      return .ok ()
    catch e => return .error (faultOf e)
  children p := do
    try
      let entries ← (System.mkFilePath [p]).readDir
      let kids ← entries.toList.filterMapM fun e => do
        try return (kindOf (← diskMetadata (p ++ "/" ++ e.fileName))).map (e.fileName, ·)
        catch _ => return none
      return .ok kids
    catch e => return .error (faultOf e)

/-- The local time, as generated files are stamped. -/
def stampNow : IO Stamp := do
  let t ← Std.Time.PlainDateTime.now
  return ⟨t.date.year.toInt.toNat, t.date.month.val.toNat, t.date.day.val.toNat,
    t.time.hour.val.toNat, t.time.minute.val.toNat, t.time.second.val.toNat⟩

end Transcribe

/-- Runs the command line on the disk. -/
def main (args : List String) : IO UInt32 := do
  let outcome ← Transcribe.Cli.run (m := IO) args (← IO.getEnv "RUST_LOG") (← Transcribe.stampNow)
  IO.print outcome.stdout
  IO.eprint outcome.stderr
  return outcome.exitCode.toUInt32
