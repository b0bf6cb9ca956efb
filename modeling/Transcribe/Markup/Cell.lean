import Transcribe.Markup.Entity
import Transcribe.Text.Blank
import Transcribe.Text.Caseless
/-!
# `Markup.Cell` — the text of a table cell as a PHP string body

A cell's markup becomes text that can stand between the double quotes of a PHP
string literal, in four steps, each over the whole text and left to right:

1. `&nbsp;`, spelled in exactly that case, becomes a plain space;
2. character references are decoded (`Markup.Entity`);
3. a line break tag — `<br`, in any case, then any blanks, an optional `/`, and
   `>` — becomes the two characters `\n`, which PHP reads back as a newline;
4. every double quote gets a backslash before it.

The order matters: a `&lt;br&gt;` written in the recording decodes to `<br>` in
step 2 and then becomes a line break in step 3, and a `&quot;` is escaped in step 4.
-/

namespace Transcribe.Markup

open Transcribe.Text

/-- A line break tag at the front of a text: the text after its `>`. -/
def lineBreakAt? : List Char → Option (List Char)
  | '<' :: cs =>
    match stripCaseless "br".toList cs with
    | some r =>
      match r.dropWhile isBlank with
      | '>' :: rest => some rest
      | '/' :: '>' :: rest => some rest
      | _ => none
    | none => none
  | _ => none

/-- Writes each line break tag as the two characters `\n`. -/
def markLineBreaks (cs : List Char) : List Char :=
  substitute (fun cs => (lineBreakAt? cs).map fun rest => (['\\', 'n'], rest)) cs

/-- Puts a backslash before every double quote. -/
def escapeQuotes (cs : List Char) : List Char :=
  cs.flatMap fun c => if c == '"' then ['\\', '"'] else [c]

/-- The text of a cell's markup, ready to stand inside a double-quoted PHP string. -/
def decodeCellText (raw : String) : String :=
  let spaced := replaceAll "&nbsp;" " " raw
  let decoded := decodeEntities spaced
  String.ofList (escapeQuotes (markLineBreaks decoded.toList))

example : decodeCellText "a<BR />b&lt;br/&gt;c &quot;d&quot;&nbsp;e" =
    "a\\nb\\nc \\\"d\\\" e" := by decide +kernel

end Transcribe.Markup
