import Transcribe.Regex.Lower
import Transcribe.Regex.Size
/-!
# `Regex.Pattern` — reading a pattern to match with

A pattern is read into its tree, checked for too deep a nesting, and translated into
what is matched; the same tree, simplified as the compiler takes it, must also compile
within the size limit of `Regex.Size`, forwards and backwards. The first fault in that
order is the one reported.
-/

namespace Transcribe.Regex

/-- Why a pattern cannot be used: a fault of the pattern, or a compiled size over the
limit. -/
inductive PatternError where
  | refused (e : RegexError)
  | tooLarge
  deriving Repr

/-- The message of a pattern that cannot be used. -/
def PatternError.render (e : PatternError) (pattern : String) : String :=
  match e with
  | .refused e => e.render pattern
  | .tooLarge => "Compiled regex exceeds size limit of " ++ toString sizeLimit ++ " bytes."

/-- Reads a pattern and turns it into what is matched, or the refusal of its first
fault: a fault of reading, then too deep a nesting, then a fault of translation, then
a compiled size over the limit. -/
def parsePattern (pattern : String) : Except PatternError Node :=
  let read : Except RegexError (Node × Expr) := do
    let a ← readPattern pattern
    a.checkNesting
    let (n, _) ← a.translate {}
    let h ← a.toExpr
    pure (n, h)
  match read with
  | .error e => .error (.refused e)
  | .ok (n, h) => if h.fitsLimit then .ok n else .error .tooLarge

end Transcribe.Regex
