import Transcribe.Failure
import Transcribe.Files.Find
/-!
# `Batch` — converting files and directories of files

A recorded test `dir/name.html` is converted into `dir/<prefix>name<postfix>.php`
(the `.html` is dropped once, by exact spelling; other names keep their extension).
A destination directory, when given, replaces `dir`: as given if it is a directory,
else looked up below the directory being converted, and then it must exist.

Converting one file reads it, converts it, and writes the result; each step that fails
says which file it was working on. Converting a directory converts every file in it
that matches the file pattern (`*.html`), or every such file below it when recursive,
in path order. A file that fails does not stop the others: it is recorded with its
error in one line, and noted as an error. A directory without any such file is an
error.

Notes are returned beside the results, in the order they arise: the conversion's own,
then a note for every file written or failed.
-/

namespace Transcribe

open Transcribe.Files

/-- How files are found and named. -/
structure BatchSettings where
  /-- The directory that generated files go to; next to each input when absent. -/
  dest : Option String := none
  phpPrefix : String := ""
  phpPostfix : String := "Test"
  /-- Whether a directory's subdirectories are converted too. -/
  recursive : Bool := false
  /-- The pattern of recorded test file names. -/
  htmlPattern : String := "*.html"
  deriving DecidableEq, Repr

/-- What converting a directory did: the files written, and the inputs that failed
with their errors. -/
structure BatchReport where
  converted : List String := []
  failed : List (String × String) := []
  deriving DecidableEq, Repr

/-- Whether nothing failed. -/
def BatchReport.success (r : BatchReport) : Bool := r.failed.isEmpty

/-- A file name without one final `.html`. -/
def stripHtml (name : String) : String :=
  if name.endsWith ".html" then String.ofList (name.toList.take (name.length - 5)) else name

variable {m : Type → Type} [Monad m] [FileSystem m]

/-- Where the PHP file for an input goes. -/
def outputPath (s : BatchSettings) (htmlPath sourceBase : String) : m (Except Failure String) := do
  let dir : Except Failure String ← match s.dest with
    | some d =>
      if ← isDir d then pure (.ok d)
      else
        let relative := join sourceBase d
        if ← isDir relative then pure (.ok relative)
        else pure (.error ⟨"Directory \"" ++ relative ++ "\" not found", []⟩)
    | none => pure (.ok (parentDir htmlPath))
  return dir.map fun d =>
    join d (s.phpPrefix ++ stripHtml ((fileName? htmlPath).getD "") ++ s.phpPostfix ++ ".php")

/-- What looking up a configured template finds. -/
def templateText (template : Option String) : m FileText := do
  match template with
  | none => return .missing
  | some p =>
    if !(← isFile p) then return .missing
    match ← readText p with
    | .ok t => return .text t
    | .error f => return .unreadable f

/-- Converts one file and writes the result to `phpPath`, or to its output path. -/
def convertFile (config : Config) (stamp : Stamp) (s : BatchSettings) (htmlPath : String)
    (phpPath : Option String) (sourceBase : String) : m (List Note × Except Failure String) := do
  match ← readText htmlPath with
  | .error f => return ([], .error (f.failure.context ("Cannot open file \"" ++ htmlPath ++ "\"")))
  | .ok html =>
    let template ← templateText config.template
    let notes := convertNotes config html none
    match convertDocument config stamp (fun _ => template) html none with
    | .error e => return (notes, .error (e.failure.context ("Failed to convert " ++ htmlPath)))
    | .ok php =>
      let output : Except Failure String ← match phpPath with
        | some p => pure (.ok p)
        | none => outputPath s htmlPath sourceBase
      match output with
      | .error f => return (notes, .error f)
      | .ok out =>
        match ← writeText out php with
        | .error f => return (notes, .error (f.failure.context ("Failed to write " ++ out)))
        | .ok () => return (notes ++ [⟨.info, .batch, htmlPath ++ " -> " ++ out⟩], .ok out)

/-- Converts a single file, next to which its output goes by default. -/
def convertSingle (config : Config) (stamp : Stamp) (s : BatchSettings) (htmlPath : String)
    (phpPath : Option String) : m (List Note × Except Failure String) :=
  convertFile config stamp s htmlPath phpPath (parentDir htmlPath)

/-- The recorded tests in a directory, in path order. -/
def collectInputs (s : BatchSettings) (dir : String) : m (Except Failure (List String)) := do
  if s.recursive then
    match Pattern.read s.htmlPattern with
    | .error e => return .error ⟨"Invalid file pattern: " ++ s.htmlPattern, [e.message]⟩
    | .ok pat =>
      let files ← walkFiles dir
      return .ok (sortPaths (files.filter fun f => pat.matches ((fileName? f).getD "")))
  else
    let pattern := join dir s.htmlPattern
    match ← glob pattern with
    | .error e => return .error ⟨"Invalid file pattern: " ++ pattern, [e.message]⟩
    | .ok found => return .ok (sortPaths (← found.filterM isFile))

/-- Converts the next recorded test of a directory and adds it to the notes and the report:
its output when it was written, else the file with its error in one line. -/
def convertNext (config : Config) (stamp : Stamp) (s : BatchSettings) (dir : String)
    (acc : List Note × BatchReport) (file : String) : m (List Note × BatchReport) := do
  let (notes, report) := acc
  let (more, result) ← convertFile config stamp s file none dir
  match result with
  | .ok out => return (notes ++ more, { report with converted := report.converted ++ [out] })
  | .error f =>
    return (notes ++ more ++ [⟨.error, .batch, file ++ ": " ++ f.oneLine⟩],
      { report with failed := report.failed ++ [(file, f.oneLine)] })

/-- Converts every recorded test of a directory. -/
def convertDirectory (config : Config) (stamp : Stamp) (s : BatchSettings) (dir : String) :
    m (List Note × Except Failure BatchReport) := do
  match ← collectInputs s dir with
  | .error f => return ([], .error f)
  | .ok [] =>
    return ([], .error ⟨"Files \"" ++ s.htmlPattern ++ "\" not found in \"" ++ dir ++ "\"", []⟩)
  | .ok files =>
    let (notes, report) ← files.foldlM (convertNext config stamp s dir) ([], {})
    return (notes, .ok report)

end Transcribe
