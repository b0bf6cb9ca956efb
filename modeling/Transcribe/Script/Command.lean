/-!
# `Script.Command` — one recorded step

A recorded step has a command name and up to two arguments, the *target* (usually a
selector) and the *value*. An argument may be absent; a reader of recordings
never yields a present but empty argument, but a caller may.

`display` writes a step the way messages quote it: `name('target', 'value')`,
dropping an absent value, and writing an absent target as `''` when a value
follows. Quotes inside the arguments are not escaped.
-/

namespace Transcribe

/-- A recorded step. -/
structure Command where
  name : String
  target : Option String
  value : Option String
  deriving DecidableEq, Repr

namespace Command

/-- The target, or the empty text when absent. -/
def targetText (c : Command) : String := c.target.getD ""

/-- The value, or the empty text when absent. -/
def valueText (c : Command) : String := c.value.getD ""

/-- The step as messages quote it. -/
def display (c : Command) : String :=
  match c.target, c.value with
  | some t, some v => c.name ++ "('" ++ t ++ "', '" ++ v ++ "')"
  | some t, none => c.name ++ "('" ++ t ++ "')"
  | none, some v => c.name ++ "('', '" ++ v ++ "')"
  | none, none => c.name ++ "()"

end Command

end Transcribe
