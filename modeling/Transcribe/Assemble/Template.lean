import Transcribe.Text.Search
/-!
# `Assemble.Template` — `{$name}` templates

A template is text with placeholders `{$name}`, the name a non-empty run of ASCII
letters, digits and `_`. Rendering replaces, left to right in one pass, every
placeholder whose name the context knows by its value; other placeholders stay as
written, and a value put in is never looked at again, so values may hold `{$…}`,
`$1` or anything else.

A context is a finite map from names to values kept as a list in the order names were
first set: setting a name that is there replaces the value of its first entry in place.
-/

namespace Transcribe

open Transcribe.Text

/-- Values for the placeholders of a template. -/
structure TemplateContext where
  entries : List (String × String) := []
  deriving DecidableEq, Repr

namespace TemplateContext

/-- The value of a name. -/
def get? (ctx : TemplateContext) (name : String) : Option String := ctx.entries.lookup name

/-- Entries with a name's value set: the first entry with the name takes the value, and a
name that is not there is added last. -/
def setEntries (name value : String) : List (String × String) → List (String × String)
  | [] => [(name, value)]
  | e :: es => if e.1 == name then (e.1, value) :: es else e :: setEntries name value es

/-- Sets a name's value, replacing the value it had. -/
def set (ctx : TemplateContext) (name value : String) : TemplateContext :=
  ⟨setEntries name value ctx.entries⟩

/-- A character of a placeholder name. -/
def isNameChar (c : Char) : Bool := c.isAlphanum || c == '_'

/-- A placeholder at the front of a text: its name and the text after its `}`. -/
def placeholderAt? : List Char → Option (List Char × List Char)
  | '\x7b' :: '$' :: cs =>
    match cs.takeWhile isNameChar, cs.dropWhile isNameChar with
    | name@(_ :: _), '\x7d' :: rest => some (name, rest)
    | _, _ => none
  | _ => none

/-- Replaces every placeholder that the context knows, in one pass. -/
def render (ctx : TemplateContext) (template : String) : String :=
  String.ofList (substitute (fun cs =>
    match placeholderAt? cs with
    | some (name, rest) =>
      match ctx.get? (String.ofList name) with
      | some v => some (v.toList, rest)
      | none => some ('\x7b' :: '$' :: name ++ ['\x7d'], rest)
    | none => none) template.toList)

end TemplateContext

/-- Joins lines with `eol`, putting `size` spaces before every line but the first, which
lands where the placeholder stands. -/
def indentBlock (lines : List String) (size : Nat) (eol : String) : String :=
  match lines with
  | [] => ""
  | first :: rest =>
    eol.intercalate (first :: rest.map fun line => String.ofList (List.replicate size ' ') ++ line)

end Transcribe
