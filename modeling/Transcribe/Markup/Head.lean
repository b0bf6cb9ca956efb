import Transcribe.Markup.Tag
import Transcribe.Markup.Entity
/-!
# `Markup.Head` — the title and the base link of a recorded document

A recording names its test in a `<title>` element and its base URL in the `href`
of a `<link>` tag:

* the *title* is the content of the first `<title …>` element that has a closing
  `</title>` after it, up to the first such closing tag;
* the *base link* is read from the first `<link …>` tag only. Its `href` is the first
  attribute whose name ends in `href` after a non-word character (so `data-href`
  counts), any case, with blanks allowed around `=`, and a value in double quotes,
  in single quotes, or bare (up to a blank, a quote or `>`). Character references in
  the value are decoded. The first link without such an attribute gives no base
  link, even when a later link has one; a quoted empty value gives the empty text.
-/

namespace Transcribe.Markup

open Transcribe.Text

/-- The content of a `<title>` element at the front of a text. -/
def titleAt? (cs : List Char) : Option (List Char) :=
  match openTagAt? "title".toList cs with
  | some t => (splitAtClosingTag? "title".toList t.rest).map Prod.fst
  | none => none

/-- The content of the first title element. -/
def title? (html : List Char) : Option (List Char) := firstMatch titleAt? html

/-- A non-empty run of the characters that a bare attribute value may hold. -/
def bareValue? (cs : List Char) : Option (List Char) :=
  match cs.takeWhile fun c => !(isBlank c || c == '"' || c == '\'' || c == '>') with
  | [] => none
  | v => some v

/-- A quoted value: the text up to the closing quote `q`. -/
def quotedValue? (q : Char) (cs : List Char) : Option (List Char) :=
  match cs.dropWhile (· != q) with
  | _ :: _ => some (cs.takeWhile (· != q))
  | [] => none

/-- The value of an `href` attribute at the front of a text. -/
def hrefAt? (cs : List Char) : Option (List Char) :=
  match stripCaseless "href".toList cs with
  | some r =>
    match r.dropWhile isBlank with
    | '=' :: r =>
      match r.dropWhile isBlank with
      | '"' :: v => quotedValue? '"' v
      | '\'' :: v => quotedValue? '\'' v
      | v => bareValue? v
    | _ => none
  | none => none

/-- The first `href` value of an attribute text; `prev` is the character before it,
if any, which decides the word boundary before the attribute name. -/
def href? : Option Char → List Char → Option (List Char)
  | _, [] => none
  | prev, c :: cs =>
    let here := if prev.all (fun p => !isWordChar p) then hrefAt? (c :: cs) else none
    match here with
    | some v => some v
    | none => href? (some c) cs

/-- The base link of a document, decoded; `none` when the first link has no `href`
or there is no link. -/
def baseLink? (html : List Char) : Option String :=
  match findOpenTag? "link".toList html with
  | some t => (href? none t.attrs).map fun v => decodeEntities (String.ofList v)
  | none => none

end Transcribe.Markup
