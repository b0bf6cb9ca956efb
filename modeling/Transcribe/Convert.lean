import Transcribe.Script.Document
import Transcribe.Translate.Translator
import Transcribe.Assemble.Skeleton
import Transcribe.Files.Fault
/-!
# `Convert` — from a recorded document to a PHP test file

A conversion reads the document (`Script.read`), translates its steps in order, and
assembles the file (`Assemble.Skeleton`). The first error wins: a document without a
table, then the first step that cannot be translated, then a template that cannot be
read. With `continueOnError` a step that cannot be translated becomes the single line
`// selenium2php: cannot convert <step>: <reason>` and the conversion goes on; steps
never see each other (`translateSteps`).

Notes are computed beside the result (`convertNotes`): the count of steps read, the
variant, every step without a rule of its own, the translator's warnings, and every
skipped step, up to the step that stops the conversion.
-/

namespace Transcribe

/-- Why a document cannot be converted. -/
inductive ConvertError where
  | read (e : ReadError)
  | target (e : TargetError)
  /-- The template path names no regular file. -/
  | templateNotFound (path : String)
  /-- The template file cannot be read as text. -/
  | templateUnreadable (path : String) (f : Fault)
  deriving DecidableEq, Repr

namespace ConvertError

/-- The message of a conversion error. -/
def message : ConvertError → String
  | .read e => e.message
  | .target e => e.message
  | .templateNotFound p => "Template file " ++ p ++ " is not accessible"
  | .templateUnreadable p f => "Failed to read " ++ p ++ ": " ++ f.message

/-- The causes behind the message, outermost first. -/
def causes : ConvertError → List String
  | .templateUnreadable _ f => [f.message]
  | _ => []

end ConvertError

/-- What the reader is told for a configuration and a caller's test name. -/
def readSettings (config : Config) (testName : Option String) : ReadSettings :=
  ⟨testName, config.testUrl, config.defaultTestName, config.defaultTestUrl⟩

/-- Reads a document under a configuration. -/
def parseDocument (config : Config) (html : String) (testName : Option String) :
    Except ConvertError Script :=
  (Script.read (readSettings config testName) html).mapError .read

/-- The line that stands for a step that cannot be translated. -/
def skippedStepLine (c : Command) (e : TargetError) : String :=
  "// selenium2php: cannot convert " ++ c.display ++ ": " ++ e.message

/-- One step's lines under a configuration. -/
def translateStep (config : Config) (c : Command) : Except ConvertError (List String) :=
  match (Translator.ofConfig config).translate c with
  | .ok lines => .ok lines
  | .error e => if config.continueOnError then .ok [skippedStepLine c e] else .error (.target e)

/-- Every step's lines, in order; the first step that cannot be translated stops it
unless `continueOnError` is set. -/
def translateSteps (config : Config) (commands : List Command) :
    Except ConvertError (List (List String)) :=
  commands.mapM (translateStep config)

/-- The file for a read script and its translated steps; `read` looks up a template. -/
def assembleFile (config : Config) (stamp : Stamp) (read : String → FileText) (script : Script)
    (steps : List (List String)) : Except ConvertError String :=
  let content := methodContent config steps
  match config.template with
  | none => .ok (skeleton config stamp script content)
  | some path =>
    match read path with
    | .missing => .error (.templateNotFound path)
    | .unreadable f => .error (.templateUnreadable path f)
    | .text t => .ok ((templateContext config stamp script content).render t)

/-- Converts a recorded document into the text of a PHP test file. -/
def convertDocument (config : Config) (stamp : Stamp) (read : String → FileText) (html : String)
    (testName : Option String) : Except ConvertError String := do
  let script ← parseDocument config html testName
  let steps ← translateSteps config script.commands
  assembleFile config stamp read script steps

/-- The note that reading a document leaves. -/
def readNote (s : Script) : Note :=
  ⟨.debug, .reader, "Parsed " ++ toString s.commands.length ++ " commands (test name: " ++
    s.testName ++ ", base url: " ++ s.baseUrl ++ ")"⟩

/-- The notes of translating steps, one after the other, up to a step that stops it. -/
def stepNotes (config : Config) : List Command → List Note
  | [] => []
  | c :: cs =>
    let t := Translator.ofConfig config
    let here := (if t.handles c.name then []
      else [⟨.debug, .converter, c.name ++ " has no dedicated rule, emitting a direct call"⟩]) ++
      t.notes c
    match t.translate c with
    | .ok _ => here ++ stepNotes config cs
    | .error e =>
      if config.continueOnError then
        here ++ [⟨.warn, .converter, "Skipping " ++ c.display ++ ": " ++ e.message⟩] ++
          stepNotes config cs
      else here

/-- The notes of translating a script's steps. -/
def translateNotes (config : Config) (commands : List Command) : List Note :=
  ⟨.debug, .converter, "Translating " ++ toString commands.length ++ " commands for " ++
    config.variant.noteName⟩ :: stepNotes config commands

/-- The notes of converting a document. -/
def convertNotes (config : Config) (html : String) (testName : Option String) : List Note :=
  match parseDocument config html testName with
  | .ok s => readNote s :: translateNotes config s.commands
  | .error _ => []

end Transcribe
