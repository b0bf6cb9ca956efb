import Transcribe.Markup.Tag
import Transcribe.Markup.Cell
import Transcribe.Markup.Head
import Transcribe.Naming
import Transcribe.Script.Command
/-!
# `Script.Document` — reading a recorded test

A recorded test is an HTML document whose first `<table …>` holds the steps. The
table runs from its opening tag to the first `</table>` (any case, blanks allowed
before `>`), or to the end of the document. Its rows are the `<tr …>` elements,
stopping at the next `tr`, `tbody`, `thead` or `tfoot` tag; a row's cells are its
`<td …>` elements, stopping at the next `td` or `th` tag (`Markup.Tag.elements`).

A row gives a step when it has at least three cells and its first cell is not
blank: the name is the first cell without its surrounding blanks, target and value
are the second and third cells' text (`Markup.Cell`), absent when that text is
empty. Other rows, header rows among them, are skipped.

The test name is the caller's, if not empty; else the document's title made an
identifier (`normalizeTitle`), if not empty; else the caller's default. The base
URL is the caller's, if not empty; else the document's base link (`Markup.Head`),
which may be empty; else the caller's default. A document without a table is an
error.
-/

namespace Transcribe

open Transcribe.Text Transcribe.Markup

/-- A recorded test: its name, base URL and steps in order. -/
structure Script where
  testName : String
  baseUrl : String
  commands : List Command
  deriving DecidableEq, Repr

/-- What the caller knows before reading. -/
structure ReadSettings where
  testName : Option String
  baseUrl : Option String
  defaultTestName : String
  defaultBaseUrl : String
  deriving DecidableEq, Repr

/-- Why a document cannot be read. -/
inductive ReadError where
  /-- The document has no `<table>`. -/
  | noTable
  deriving DecidableEq, Repr

/-- The message of a read error. -/
def ReadError.message : ReadError → String
  | .noTable => "HTML parse error: no command table found"

/-- The content of the first table. -/
def tableContent? (html : List Char) : Option (List Char) :=
  (findOpenTag? "table".toList html).map fun t =>
    match splitAtClosingTag? "table".toList t.rest with
    | some (inner, _) => inner
    | none => t.rest

/-- The tags at which a row stops. -/
def rowStops : List (List Char) := ["tr".toList, "tbody".toList, "thead".toList, "tfoot".toList]

/-- The tags at which a cell stops. -/
def cellStops : List (List Char) := ["td".toList, "th".toList]

/-- A cell's text, absent when empty. -/
def cellArgument (raw : List Char) : Option String :=
  match decodeCellText (String.ofList raw) with
  | "" => none
  | text => some text

/-- The step that a row's cells give, if any. -/
def stepOfCells : List (List Char) → Option Command
  | first :: second :: third :: _ =>
    match trim first with
    | [] => none
    | name => some ⟨String.ofList name, cellArgument second, cellArgument third⟩
  | _ => none

/-- The steps of a table's content, in order. -/
def stepsOfTable (content : List Char) : List Command :=
  (elements "tr".toList rowStops content).filterMap fun row =>
    stepOfCells (elements "td".toList cellStops row)

/-- A non-empty text. -/
def nonEmpty? : Option String → Option String
  | some "" => none
  | o => o

/-- Reads a recorded test from its document. -/
def Script.read (settings : ReadSettings) (html : String) : Except ReadError Script :=
  let doc := html.toList
  match tableContent? doc with
  | none => .error .noTable
  | some content =>
    let baseUrl := ((nonEmpty? settings.baseUrl).orElse fun _ => baseLink? doc).getD
      settings.defaultBaseUrl
    let fromTitle := (title? doc).map fun t => normalizeTitle (String.ofList t)
    let testName := (nonEmpty? ((nonEmpty? settings.testName).orElse fun _ => fromTitle)).getD
      settings.defaultTestName
    .ok ⟨testName, baseUrl, stepsOfTable content⟩

end Transcribe
