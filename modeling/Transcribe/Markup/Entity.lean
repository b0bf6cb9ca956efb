import Transcribe.Text.Search
/-!
# `Markup.Entity` — character references

A recorded document escapes characters as *references*: `&#` and decimal digits,
`&#x` (or `&#X`) and hexadecimal digits, or `&` and a name of a letter followed by
letters and digits, each closed by `;`. Decoding reads the text from the left and
replaces every reference it can decode:

* a numeric reference decodes when its number is a Unicode scalar value (at most
  U+10FFFF and not a surrogate; NUL included);
* a named reference decodes when the name is one of the thirty-three of
  `namedTable`, spelled in exactly that case.

A reference that does not decode stays as written, and the walk goes on after it,
so `&amp;lt;` becomes `&lt;` and is not decoded again. Digits and names are
*maximal runs*: `&#12a;` is no reference, because the digits are not followed by
`;`.
-/

namespace Transcribe.Markup

open Transcribe.Text

/-- A character reference as written between `&` and `;`. -/
inductive CharRef where
  /-- `&#` and decimal digits. -/
  | decimal (digits : List Char)
  /-- `&#x` or `&#X` (the `marker`) and hexadecimal digits. -/
  | hex (marker : Char) (digits : List Char)
  /-- `&` and a name. -/
  | named (name : List Char)
  deriving DecidableEq, Repr

/-- The named references that decode, with their characters. -/
def namedTable : List (String × Char) :=
  [("amp", '&'), ("lt", '<'), ("gt", '>'), ("quot", '"'), ("apos", '\''),
   ("nbsp", ' '), ("copy", '©'), ("reg", '®'), ("trade", '™'),
   ("hellip", '…'), ("mdash", '—'), ("ndash", '–'), ("lsquo", '‘'),
   ("rsquo", '’'), ("ldquo", '“'), ("rdquo", '”'), ("laquo", '«'),
   ("raquo", '»'), ("bull", '•'), ("middot", '·'), ("deg", '°'),
   ("times", '×'), ("divide", '÷'), ("plusmn", '±'), ("sect", '§'),
   ("para", '¶'), ("euro", '€'), ("pound", '£'), ("yen", '¥'),
   ("cent", '¢'), ("iexcl", '¡'), ("iquest", '¿'), ("shy", '\u00AD')]

/-- An ASCII hexadecimal digit. -/
def isHexDigit (c : Char) : Bool :=
  c.isDigit || ('a' ≤ c && c ≤ 'f') || ('A' ≤ c && c ≤ 'F')

/-- The value of a hexadecimal digit. -/
def hexValue (c : Char) : Nat :=
  if c.isDigit then c.toNat - '0'.toNat
  else if 'a' ≤ c && c ≤ 'f' then c.toNat - 'a'.toNat + 10
  else c.toNat - 'A'.toNat + 10

/-- The number written by digits in a base, most significant first. -/
def digitsValue (base : Nat) (value : Char → Nat) (ds : List Char) : Nat :=
  ds.foldl (fun n d => n * base + value d) 0

/-- The character with code point `n`, when `n` is a Unicode scalar value. -/
def scalar? (n : Nat) : Option Char :=
  if n.isValidChar then some (Char.ofNat n) else none

/-- The characters a reference stands for, when it decodes. -/
def CharRef.decode? : CharRef → Option Char
  | .decimal ds => scalar? (digitsValue 10 (fun d => d.toNat - '0'.toNat) ds)
  | .hex _ ds => scalar? (digitsValue 16 hexValue ds)
  | .named n => (namedTable.lookup (String.ofList n))

/-- The reference as written, from `&` to `;`. -/
def CharRef.text : CharRef → List Char
  | .decimal ds => '&' :: '#' :: ds ++ [';']
  | .hex x ds => '&' :: '#' :: x :: ds ++ [';']
  | .named n => '&' :: n ++ [';']

/-- A run of at least one character of a class, closed by `;`: the run and what
follows the `;`. -/
def closedRun (p : Char → Bool) (cs : List Char) : Option (List Char × List Char) :=
  let run := cs.takeWhile p
  match run, cs.dropWhile p with
  | _ :: _, ';' :: rest => some (run, rest)
  | _, _ => none

/-- Reads a reference at the front of a text: the reference and the text after its `;`.
The decimal form is tried before the hexadecimal one, as `&#` starts both. -/
def CharRef.read? : List Char → Option (CharRef × List Char)
  | '&' :: '#' :: cs =>
    match closedRun Char.isDigit cs with
    | some (ds, rest) => some (.decimal ds, rest)
    | none =>
      match cs with
      | x :: cs' =>
        if x == 'x' || x == 'X' then
          (closedRun isHexDigit cs').map fun (ds, rest) => (.hex x ds, rest)
        else none
      | [] => none
  | '&' :: c :: cs =>
    if c.isAlpha then
      (closedRun Char.isAlphanum (c :: cs)).map fun (n, rest) => (.named n, rest)
    else none
  | _ => none

/-- The decoding step at the front of a text: a reference that decodes, replaced by
its character, or one that does not, kept as written. -/
def referenceAt (cs : List Char) : Option (List Char × List Char) :=
  (CharRef.read? cs).map fun (r, rest) =>
    match r.decode? with
    | some c => ([c], rest)
    | none => (r.text, rest)

/-- Decodes every character reference of a text, left to right. -/
def decodeEntities (s : String) : String :=
  String.ofList (substitute referenceAt s.toList)

example : decodeEntities "&lt;b&gt; &amp;amp; &#65;&#x42;&#X43; &#12a; &bogus; &#xD800;" =
    "<b> &amp; ABC &#12a; &bogus; &#xD800;" := by decide +kernel

end Transcribe.Markup
