import Transcribe.Assemble.Template
import Transcribe.Assemble.Stamp
import Transcribe.Config.Basic
import Transcribe.Naming
import Transcribe.Script.Document
/-!
# `Assemble.Skeleton` — the PHP file around the translated steps

The body of the test method is the steps' lines in order, where the effective
command terminator (`Config.effectiveCommandEol`), if any, is appended to the last
line of every step that has lines (`methodContent`).

Without a template the file is the built-in skeleton, its lines joined by the
configured line separator: `<?php`, the generated comment, the configured lines
before the class (framed by empty lines), the class line, the configured class-body
lines indented by four, a `setUp` method that sets browser, base URL and, when set,
remote host and remotePort number, and the test method with the body indented by
eight.

With a template, the placeholders `comment`, `className`, `browser`, `testUrl`,
`remoteHost` (the configured host unless empty, else `127.0.0.1`), `remotePort`
(default `4444`), `testMethodName`, `testMethodContent` (the body as one block,
indented by eight after its first line), `customParam1` and `customParam2` are
filled in.
-/

namespace Transcribe

/-- Indentation of class members. -/
def classIndent : Nat := 4

/-- Indentation of method bodies. -/
def methodIndent : Nat := 8

/-- The host that a template names when none is set. -/
def defaultRemoteHost : String := "127.0.0.1"

/-- The remotePort number that a template names when none is set. -/
def defaultRemotePort : UInt16 := 4444

/-- `n` spaces. -/
def spaces (n : Nat) : String := String.ofList (List.replicate n ' ')

/-- One step's lines, walked with their positions: the terminator is appended to the line
at the last position, the count of lines less one (zero for a step without lines). -/
def terminateStep (eol : Option String) (lines : List String) : List String :=
  let last := lines.length - 1
  lines.mapIdx fun i line =>
    match eol with
    | some e => if i == last then line ++ e else line
    | none => line

/-- The lines of the test method's body. -/
def methodContent (config : Config) (steps : List (List String)) : List String :=
  steps.flatMap (terminateStep config.effectiveCommandEol)

/-- The comment at the top of a generated file. -/
def generatedComment (config : Config) (stamp : Stamp) : String :=
  config.eol.intercalate
    ["/*", "* Autogenerated from Selenium html test case by selenium2php.", "* " ++ stamp.text, "*/"]

/-- The lines of the `setUp` method's body. -/
def setUpLines (config : Config) (script : Script) : List String :=
  let r := config.receiver
  [r ++ "->setBrowser(\"" ++ config.browser ++ "\");",
   r ++ "->setBrowserUrl(\"" ++ script.baseUrl ++ "\");"] ++
  (match config.remoteHost with
    | some h => if h.isEmpty then [] else [r ++ "->setHost(\"" ++ h ++ "\");"]
    | none => []) ++
  (match config.remotePort with
    | some p => [r ++ "->setPort(\"" ++ toString p ++ "\");"]
    | none => [])

/-- The lines of the built-in skeleton. -/
def skeletonLines (config : Config) (stamp : Stamp) (script : Script) (content : List String) :
    List String :=
  let names := TestNames.of config.classPrefix script.testName
  ["<?php", generatedComment config stamp] ++
  (if config.preClassLines.isEmpty then [] else [""] ++ config.preClassLines ++ [""]) ++
  ["class " ++ names.className ++ " extends " ++ config.effectiveParentClass ++ " \x7b", ""] ++
  (if config.classBodyLines.isEmpty then []
   else config.classBodyLines.map (spaces classIndent ++ ·) ++ [""]) ++
  [spaces classIndent ++ "function setUp() \x7b"] ++
  (setUpLines config script).map (spaces methodIndent ++ ·) ++
  [spaces classIndent ++ "\x7d", ""] ++
  [spaces classIndent ++ "function " ++ names.methodName ++ "() \x7b"] ++
  content.map (spaces methodIndent ++ ·) ++
  [spaces classIndent ++ "\x7d", "", "\x7d"]

/-- The values that a template's placeholders are filled with. -/
def templateContext (config : Config) (stamp : Stamp) (script : Script) (content : List String) :
    TemplateContext :=
  let names := TestNames.of config.classPrefix script.testName
  let host := match config.remoteHost with
    | some h => if h.isEmpty then defaultRemoteHost else h
    | none => defaultRemoteHost
  ({} : TemplateContext)
    |>.set "comment" (generatedComment config stamp)
    |>.set "className" names.className
    |>.set "browser" config.browser
    |>.set "testUrl" script.baseUrl
    |>.set "remoteHost" host
    |>.set "remotePort" (toString (config.remotePort.getD defaultRemotePort))
    |>.set "testMethodName" names.methodName
    |>.set "testMethodContent" (indentBlock content methodIndent config.eol)
    |>.set "customParam1" config.customParam1
    |>.set "customParam2" config.customParam2

/-- The text of the built-in skeleton. -/
def skeleton (config : Config) (stamp : Stamp) (script : Script) (content : List String) : String :=
  config.eol.intercalate (skeletonLines config stamp script content)

end Transcribe
