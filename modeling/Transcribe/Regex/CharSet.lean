import Transcribe.Text.Blank
import Transcribe.Text.Word
import Transcribe.Unicode.CaseFold
import Transcribe.Regex.Property
/-!
# `Regex.CharSet` — the sets of characters a pattern names

A pattern names characters one by one, by ranges (`a-z`), by the Perl classes `\d`,
`\s` and `\w`, by the ASCII classes of a bracketed class (`[:alpha:]`), by Unicode
properties (`\pL`), and by combining sets: union, intersection (`&&`), difference
(`--`), symmetric difference (`~~`) and complement (`[^…]`, `\D`).

The Perl classes are Unicode's: `\d` is the decimal numbers (category Nd), `\s` is
White_Space, and `\w` is the word characters of `Text.isWordChar`. Without Unicode
(the flag `u` turned off) they are ASCII's instead.

Matching without regard to case closes a set under case folding: `fold s` holds a
character when some character that folds alike with it is in `s`. Without Unicode
only the ASCII letters fold, each with its other case (`asciiFold`). Where the folding
is applied, and whether before or after a complement, is decided when a pattern is
translated, so that `[^a]` refuses `A` as well.
-/

namespace Transcribe.Regex

open Transcribe.Text
open Transcribe.Unicode

/-- The Perl classes. -/
inductive PerlClass where
  | digit
  | space
  | word
  deriving DecidableEq, Repr

/-- The ASCII classes of bracketed classes. -/
inductive AsciiClass where
  | alnum
  | alpha
  | ascii
  | blank
  | cntrl
  | digit
  | graph
  | lower
  | print
  | punct
  | space
  | upper
  | word
  | xdigit
  deriving DecidableEq, Repr

/-- The ASCII class of a name. -/
def AsciiClass.ofName? : String → Option AsciiClass
  | "alnum" => some .alnum
  | "alpha" => some .alpha
  | "ascii" => some .ascii
  | "blank" => some .blank
  | "cntrl" => some .cntrl
  | "digit" => some .digit
  | "graph" => some .graph
  | "lower" => some .lower
  | "print" => some .print
  | "punct" => some .punct
  | "space" => some .space
  | "upper" => some .upper
  | "word" => some .word
  | "xdigit" => some .xdigit
  | _ => none

/-- The ASCII class a Perl class stands for without Unicode. -/
def PerlClass.asAscii : PerlClass → AsciiClass
  | .digit => .digit
  | .space => .space
  | .word => .word

/-- Whether a code lies in one of the inclusive ranges. -/
def inRanges (c : Char) (ranges : List (Nat × Nat)) : Bool :=
  ranges.any fun (lo, hi) => lo ≤ c.toNat && c.toNat ≤ hi

/-- Whether a character is in an ASCII class. -/
def AsciiClass.holds : AsciiClass → Char → Bool
  | .alnum, c => c.isAlphanum
  | .alpha, c => c.isAlpha
  | .ascii, c => c.toNat < 0x80
  | .blank, c => c == ' ' || c == '\t'
  | .cntrl, c => c.toNat < 0x20 || c.toNat == 0x7F
  | .digit, c => c.isDigit
  | .graph, c => 0x21 ≤ c.toNat && c.toNat ≤ 0x7E
  | .lower, c => c.isLower
  | .print, c => 0x20 ≤ c.toNat && c.toNat ≤ 0x7E
  | .punct, c => inRanges c [(0x21, 0x2F), (0x3A, 0x40), (0x5B, 0x60), (0x7B, 0x7E)]
  | .space, c => c == ' ' || c == '\t' || c == '\n' || c == '\x0B' || c == '\x0C' || c == '\r'
  | .upper, c => c.isUpper
  | .word, c => c.isAlphanum || c == '_'
  | .xdigit, c => c.isDigit || inRanges c [(0x41, 0x46), (0x61, 0x66)]

/-- Whether a character is in a Perl class. -/
def PerlClass.holds : PerlClass → Char → Bool
  | .digit, c => generalCategory c == .decimalNumber
  | .space, c => BinaryProperty.whiteSpace.holds c
  | .word, c => isWordChar c

/-- The character of the other case of an ASCII letter. -/
def asciiOtherCase (c : Char) : Option Char :=
  if c.isUpper then some (Char.ofNat (c.toNat + 32))
  else if c.isLower then some (Char.ofNat (c.toNat - 32))
  else none

/-- A set of characters. -/
inductive CharSet where
  | range (lo hi : Char)
  | perl (k : PerlClass)
  | ascii (k : AsciiClass)
  | property (k : PropertySet)
  | union (a b : CharSet)
  | inter (a b : CharSet)
  | diff (a b : CharSet)
  | symDiff (a b : CharSet)
  | compl (a : CharSet)
  /-- The set closed under simple case folding. -/
  | fold (a : CharSet)
  /-- The set closed under the case folding of ASCII letters. -/
  | asciiFold (a : CharSet)
  | nothing
  deriving DecidableEq, Repr

/-- Whether a set holds a character. -/
def CharSet.holds : CharSet → Char → Bool
  | .range lo hi, c => lo ≤ c && c ≤ hi
  | .perl k, c => k.holds c
  | .ascii k, c => k.holds c
  | .property k, c => k.holds c
  | .union a b, c => a.holds c || b.holds c
  | .inter a b, c => a.holds c && b.holds c
  | .diff a b, c => a.holds c && !b.holds c
  | .symDiff a b, c => a.holds c != b.holds c
  | .compl a, c => !a.holds c
  | .fold a, c => (caseVariants c).any a.holds
  | .asciiFold a, c => a.holds c || ((asciiOtherCase c).map a.holds).getD false
  | .nothing, _ => false

/-- Folding only adds characters: a set's characters are in its closure. -/
theorem CharSet.holds_fold_of_holds (a : CharSet) (c : Char) (h : a.holds c = true) :
    (CharSet.fold a).holds c = true := by
  simp only [CharSet.holds, List.any_eq_true]
  exact ⟨c, mem_caseVariants_self c, h⟩

/-- The union of a list of sets. -/
def CharSet.unionAll : List CharSet → CharSet
  | [] => .nothing
  | [s] => s
  | s :: rest => .union s (unionAll rest)

end Transcribe.Regex
