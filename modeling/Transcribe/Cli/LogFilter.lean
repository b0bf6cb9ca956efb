import Transcribe.Log
import Transcribe.Text.Blank
import Transcribe.Regex.Pattern
/-!
# `Cli.LogFilter` — which notes the command line shows

The notes shown are chosen by a filter spec, `warn` unless the environment sets one
(`RUST_LOG`). A spec is a comma-separated list of directives, optionally followed by
`/` and a regular expression that shown notes must match somewhere. A directive is a level (`off`, `error`,
`warn`, `info`, `debug`, `trace`, in any case), which applies to every note; a name,
which shows every note of the parts whose name starts with it; or `name=level`. A
later directive for the same name replaces an earlier one. Directives that cannot be
read are skipped with a warning, as is a regular expression that cannot be read.
Without any directive, errors are shown.

A note is decided by the directive with the longest name that starts its origin's
name; it is shown when its level is within that directive's.
-/

namespace Transcribe.Cli

/-- A directive: a name (none for all notes) and the highest rank it shows (`0` shows
nothing). -/
structure Directive where
  name : Option String
  limit : Nat
  deriving DecidableEq, Repr

/-- A filter of notes. -/
structure LogFilter where
  /-- The directives, shortest name first. -/
  directives : List Directive
  /-- A pattern that shown notes must match. -/
  needle : Option Regex.Node := none
  deriving DecidableEq, Repr

/-- The rank a level name stands for, in any case. -/
def levelLimit? (s : String) : Option Nat :=
  ["off", "error", "warn", "info", "debug", "trace"].findIdx? (· == s.toLower)

/-- The warning for a part of a spec that cannot be read. -/
def badSpec (part : String) : String := "warning: invalid logging spec '" ++ part ++ "', ignoring it"

/-- Reads one directive, or the warning it gives. -/
def readDirective (s : String) : Except String Directive :=
  match s.splitOn "=" with
  | [name] =>
    match levelLimit? name with
    | some l => .ok ⟨none, l⟩
    | none => .ok ⟨some name, 5⟩
  | [name, level] =>
    let level := Text.trimString level
    if level.isEmpty then .ok ⟨some name, 5⟩
    else match levelLimit? level with
      | some l => .ok ⟨some name, l⟩
      | none => .error (badSpec level)
  | _ => .error (badSpec s)

/-- Adds a directive, replacing one with the same name. -/
def insertDirective (ds : List Directive) (d : Directive) : List Directive :=
  if ds.any (·.name == d.name) then ds.map fun x => if x.name == d.name then d else x
  else ds ++ [d]

/-- The length of a directive's name, in UTF-8 bytes. -/
def Directive.nameLength (d : Directive) : Nat := (d.name.getD "").utf8ByteSize

/-- Reads a filter spec, with the warnings it gives. -/
def LogFilter.read (spec : String) : LogFilter × List String :=
  let parts := spec.splitOn "/"
  if parts.length > 2 then
    (⟨[⟨none, 1⟩], none⟩, [badSpec spec ++ " (too many '/'s)"])
  else
    let (ds, warnings) := ((parts.headD "").splitOn ",").foldl (fun (ds, ws) piece =>
      let piece := Text.trimString piece
      if piece.isEmpty then (ds, ws)
      else match readDirective piece with
        | .ok d => (insertDirective ds d, ws)
        | .error w => (ds, ws ++ [w])) (([] : List Directive), ([] : List String))
    let ds := if ds.isEmpty then [⟨none, 1⟩] else ds.mergeSort fun a b => a.nameLength ≤ b.nameLength
    match parts[1]? with
    | none => (⟨ds, none⟩, warnings)
    | some pattern =>
      match Regex.parsePattern pattern with
      | .ok n => (⟨ds, some n⟩, warnings)
      | .error e => (⟨ds, none⟩, warnings ++ ["warning: invalid regex filter - " ++ e.render pattern])

/-- Whether a filter shows a note. -/
def LogFilter.shows (f : LogFilter) (n : Note) : Bool :=
  let target := n.origin.path
  let decided := f.directives.reverse.find? fun d =>
    match d.name with
    | some name => target.startsWith name
    | none => true
  let byLevel := match decided with
    | some d => n.level.rank ≤ d.limit
    | none => false
  byLevel && (match f.needle with
    | some pattern => pattern.search n.text
    | none => true)

end Transcribe.Cli
