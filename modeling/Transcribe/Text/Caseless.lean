/-!
# `Text.Caseless` — matching a fixed word without regard to case

Tag and attribute names in a recorded document may be written in any case:
`<TD>`, `<Td>` and `<td>` open the same cell. A pattern word is written in lower
case and a character of the text matches a pattern character when the two fold
to the same character under Unicode's simple case folding. For the ASCII
letters that is the other case, and two characters outside ASCII fold onto
ASCII letters: the Kelvin sign U+212A onto `k` and the long s U+017F onto `s`.
No other character folds onto an ASCII letter.
-/

namespace Transcribe.Text

/-- The text character `c` matches the pattern character `p` when case is ignored. -/
def matchesCaseless (p c : Char) : Bool :=
  c == p || (p.isAlpha && (c == p.toUpper || c == p.toLower)) ||
    (p.toLower == 'k' && c == '\u212A') || (p.toLower == 's' && c == '\u017F')

/-- Strips the pattern word `w` from the front of a text, ignoring case: the rest of
the text, or `none` when the text does not start with the word. -/
def stripCaseless : List Char → List Char → Option (List Char)
  | [], cs => some cs
  | _ :: _, [] => none
  | p :: ps, c :: cs => if matchesCaseless p c then stripCaseless ps cs else none

/-- What `stripCaseless` leaves is a part of the text no longer than the text less the word. -/
theorem length_stripCaseless {w cs r : List Char} (h : stripCaseless w cs = some r) :
    r.length + w.length = cs.length := by
  induction w generalizing cs with
  | nil => simp [stripCaseless] at h; simp [h]
  | cons p ps ih =>
    cases cs with
    | nil => simp [stripCaseless] at h
    | cons c cs =>
      simp only [stripCaseless] at h
      split at h
      · have := ih h; simp; omega
      · simp at h

example : stripCaseless "link".toList "LINK>".toList = some ['>'] := by decide
example : stripCaseless "link".toList "linK".toList = some [] := by decide

end Transcribe.Text
