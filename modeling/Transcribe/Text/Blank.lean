/-!
# `Text.Blank` — the blank characters and trimming

A character is *blank* when Unicode gives it the `White_Space` property: the five
ASCII controls from tab to carriage return, the space, next-line, the no-break
space, the Ogham space mark, the eleven spaces from en quad to hair space, the
line and paragraph separators, the narrow no-break space, the medium
mathematical space and the ideographic space — twenty-five in all.

This is the class that trimming removes and that a `\s` in a pattern stands for.
It is wider than core's `Char.isWhitespace` (which knows ASCII only) and narrower
than "not printable": the zero-width space U+200B is *not* blank.

Trimming works on `List Char` so that lemmas about it are lemmas about
`dropWhile`; `trim` removes blanks from both ends.
-/

namespace Transcribe.Text

/-- A character is blank exactly when it has Unicode's `White_Space` property. -/
def isBlank (c : Char) : Bool :=
  let n := c.toNat
  (0x09 ≤ n && n ≤ 0x0D) || n == 0x20 || n == 0x85 || n == 0xA0 || n == 0x1680 ||
    (0x2000 ≤ n && n ≤ 0x200A) || n == 0x2028 || n == 0x2029 || n == 0x202F ||
    n == 0x205F || n == 0x3000

/-- Drops the blanks at the front. -/
def trimStart (cs : List Char) : List Char := cs.dropWhile isBlank

/-- Drops the blanks at the back. -/
def trimEnd (cs : List Char) : List Char := (cs.reverse.dropWhile isBlank).reverse

/-- Drops the blanks at both ends. -/
def trim (cs : List Char) : List Char := trimEnd (trimStart cs)

/-- `trimEnd` on strings. -/
def trimEndString (s : String) : String := String.ofList (trimEnd s.toList)

/-- `trim` on strings. -/
def trimString (s : String) : String := String.ofList (trim s.toList)

/-- Every ASCII whitespace character that core knows is blank. -/
theorem isBlank_of_isWhitespace (c : Char) (h : c.isWhitespace = true) : isBlank c = true := by
  simp only [Char.isWhitespace, Bool.or_eq_true, decide_eq_true_eq] at h
  simp only [isBlank, Bool.or_eq_true, Bool.and_eq_true, decide_eq_true_eq, beq_iff_eq]
  rcases h with ((h | h) | h) | h <;> subst h <;> decide

end Transcribe.Text
