/-!
# `Php.Code` — lines of PHP test code

Builders for the few shapes of PHP that generated tests are made of. Arguments are
put between double quotes as they are: the text of a recorded step is already
escaped for a double-quoted PHP string when it is read (`Markup.Cell`).

* `call r m t v` is the statement `r->m("t", "v");` with a present value, written
  with an empty first argument when the target is absent; `r->m("t");` with a
  target only; `r->m();` with neither.
* A recorder's *wildcard pattern* is matched with PCRE: every `?` of the pattern
  becomes `[\s\S]`, one character of any kind, and the pattern is anchored at both
  ends. Other characters are kept, so a pattern must not hold regex syntax.
-/

namespace Transcribe.Php

/-- The method call statement `receiver->method(…);` with the arguments that are present. -/
def call (receiver method : String) (target value : Option String) : String :=
  match target, value with
  | t, some v => receiver ++ "->" ++ method ++ "(\"" ++ t.getD "" ++ "\", \"" ++ v ++ "\");"
  | some t, none => receiver ++ "->" ++ method ++ "(\"" ++ t ++ "\");"
  | none, none => receiver ++ "->" ++ method ++ "();"

/-- The call expression `receiver->method("arg")`. -/
def callExpr (receiver method arg : String) : String :=
  receiver ++ "->" ++ method ++ "(\"" ++ arg ++ "\")"

/-- The assertion that an expression is true. -/
def assertTrue (receiver expr : String) : String := receiver ++ "->assertTrue(" ++ expr ++ ");"

/-- The assertion that an expression is false. -/
def assertFalse (receiver expr : String) : String := receiver ++ "->assertFalse(" ++ expr ++ ");"

/-- The PCRE body of a wildcard pattern. -/
def patternToRegex (pattern : String) : String :=
  String.ofList (pattern.toList.flatMap fun c => if c == '?' then "[\\s\\S]".toList else [c])

/-- The boolean expression that matches `subject` against a wildcard pattern. -/
def patternMatch (pattern subject : String) : String :=
  "(bool)preg_match('/^" ++ patternToRegex pattern ++ "$/', " ++ subject ++ ")"

/-- Puts `size` spaces before every line. -/
def indentLines (lines : List String) (size : Nat) : List String :=
  lines.map fun line => String.ofList (List.replicate size ' ') ++ line

theorem indentLines_four (lines : List String) : indentLines lines 4 = lines.map ("    " ++ ·) := by
  simp [indentLines]

end Transcribe.Php
