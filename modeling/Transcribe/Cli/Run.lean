import Transcribe.Cli.Args
import Transcribe.Cli.LogFilter
import Transcribe.Batch
import Transcribe.Config.OfYaml
/-!
# `Cli.Run` — a run of the command line

A run reads its arguments, then its settings: those of the configuration file if one
is given (a YAML file; a file that cannot be read or parsed ends the run), with the
command line's options over them. It prints a header naming the input and the kind of
test case, and converts the input: every recorded test of a directory, or a single
file, to the output file if one is given. It lists the files written (`✓`) and the
failures (`✗`), and ends with `OK.` when nothing failed.

The run is computed, not performed: it is written against `FileSystem`, and gives
what it printed on each stream and its exit code — `0` for success, help and
version, `1` for a failure (reported as `Error: …` with its causes), `2` for a refused
command line. Notes go to the error stream as lines `[LEVEL origin] text`, as far as
the log filter shows them; warnings about the filter itself come first.
-/

namespace Transcribe.Cli

open Transcribe.Files

/-- What a run printed, and its exit code. -/
structure Outcome where
  exitCode : Nat
  stdout : String
  stderr : String
  deriving DecidableEq, Repr

/-- The command line's options over a configuration. -/
def Invocation.configure (inv : Invocation) (c : Config) : Config :=
  let c := if inv.selenium2 then { c with variant := .webDriver } else c
  let c := if inv.continueOnError then { c with continueOnError := true } else c
  let c := match inv.browser with | some b => { c with browser := b } | none => c
  let c := match inv.browserUrl with | some u => { c with testUrl := some u } | none => c
  let c := match inv.remoteHost with | some h => { c with remoteHost := some h } | none => c
  let c := match inv.remotePort with | some p => { c with remotePort := some p.toUInt16 } | none => c
  let c := match inv.classPrefix with | some p => { c with classPrefix := p } | none => c
  let c := match inv.tpl with | some t => { c with template := some t } | none => c
  let c := match inv.customParam1 with | some p => { c with customParam1 := p } | none => c
  let c := match inv.customParam2 with | some p => { c with customParam2 := p } | none => c
  match inv.parentClass with | some p => { c with parentClass := some p } | none => c

/-- How the command line finds and names files. -/
def Invocation.batch (inv : Invocation) : BatchSettings :=
  { dest := inv.dest, recursive := inv.recursive, phpPrefix := inv.phpPrefix.getD "",
    phpPostfix := inv.phpPostfix.getD "Test" }

/-- The name of the kind of test case a variant generates. -/
def testCaseName : Variant → String
  | .legacy => "SeleniumTestCase"
  | .webDriver => "Selenium2TestCase"

variable {m : Type → Type} [Monad m] [FileSystem m]

/-- The settings of a run. -/
def loadConfig (inv : Invocation) : m (Except Failure Config) := do
  let base : Except Failure Config ← match inv.config with
    | none => pure (.ok {})
    | some path =>
      match ← readText path with
      | .error f => pure (.error (f.failure.context ("Failed to read config file: " ++ path)))
      | .ok text =>
        match Config.ofYaml text with
        | .ok c => pure (.ok c)
        | .error e => pure (.error ⟨"Failed to parse config file: " ++ path, [e.message]⟩)
  return base.map inv.configure

/-- The lines that list written files. -/
def writtenLines (paths : List String) : String :=
  String.join (paths.map fun p => "  ✓ " ++ p ++ "\n")

/-- The lines that list failed files. -/
def failedLines (failed : List (String × String)) : String :=
  String.join (failed.map fun (p, e) => "  ✗ " ++ p ++ ": " ++ e ++ "\n")

/-- Runs the command line with its arguments, the log filter spec from the
environment, and the time stamped into generated files. -/
def run (args : List String) (logSpec : Option String) (stamp : Stamp) : m Outcome := do
  let (filter, warnings) := LogFilter.read (logSpec.getD "warn")
  let warned := String.join (warnings.map (· ++ "\n"))
  let logged (notes : List Note) := String.join ((notes.filter filter.shows).map (·.line ++ "\n"))
  match readArgs args with
  | .help => return ⟨0, helpText, warned⟩
  | .version => return ⟨0, versionText, warned⟩
  | .refused e => return ⟨2, "", warned ++ e.render⟩
  | .run inv =>
    match ← loadConfig inv with
    | .error f => return ⟨1, "", warned ++ f.report⟩
    | .ok config =>
      let header := "selenium2php " ++ inv.input ++ " (" ++ testCaseName config.variant ++ ")\n"
      if ← isDir inv.input then
        if inv.output.isSome then
          return ⟨1, header,
            warned ++ Failure.report ⟨"An output file can only be given for a single input file", []⟩⟩
        let (notes, result) ← convertDirectory config stamp inv.batch inv.input
        match result with
        | .error f => return ⟨1, header, warned ++ logged notes ++ f.report⟩
        | .ok report =>
          let listed := header ++ writtenLines report.converted ++ failedLines report.failed
          if report.success then return ⟨0, listed ++ "OK.\n", warned ++ logged notes⟩
          else
            let failed := report.failed.length
            let total := failed + report.converted.length
            return ⟨1, listed, warned ++ logged notes ++
              Failure.report ⟨toString failed ++ " of " ++ toString total ++ " files failed", []⟩⟩
      else
        let (notes, result) ← convertSingle config stamp inv.batch inv.input inv.output
        match result with
        | .error f => return ⟨1, header, warned ++ logged notes ++ f.report⟩
        | .ok written => return ⟨0, header ++ writtenLines [written] ++ "OK.\n", warned ++ logged notes⟩

end Transcribe.Cli
