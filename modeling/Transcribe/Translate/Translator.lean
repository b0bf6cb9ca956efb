import Transcribe.Translate.Legacy
import Transcribe.Translate.WebDriver
/-!
# `Translate.Translator` — one step at a time, in either variant

A translator is a variant with the receiver expression and timing that generated code
uses. It tells whether a command name has a rule of its own (`handles`), gives the
lines of a step or the error that refuses it (`translate`), and the notes that
translating the step leaves (`notes`). Steps are translated independently: nothing is
carried from one step to the next.
-/

namespace Transcribe

open Transcribe.Translate

/-- What translating needs: the variant, the receiver expression and the timing. -/
structure Translator where
  variant : Variant
  receiver : String
  timing : Timing
  deriving DecidableEq, Repr

namespace Translator

/-- The translator that a configuration asks for. -/
def ofConfig (c : Config) : Translator := ⟨c.variant, c.receiver, c.timing⟩

/-- Whether a command name has a rule of its own in the translator's variant. -/
def handles (t : Translator) (name : String) : Bool :=
  match t.variant with
  | .legacy => (Legacy.Rule.ofName? name).isSome
  | .webDriver => (WebDriver.Rule.ofName? name).isSome

/-- The lines of a step, or why it cannot be translated. -/
def translate (t : Translator) (c : Command) : Except TargetError (List String) :=
  match t.variant with
  | .legacy => .ok (Legacy.translate t.receiver t.timing c)
  | .webDriver => WebDriver.translate t.receiver t.timing c

/-- The notes that translating a step leaves. -/
def notes (t : Translator) (c : Command) : List Note :=
  match t.variant with
  | .legacy => []
  | .webDriver => WebDriver.notes c

end Translator

/-- The variant's name in notes. -/
def Variant.noteName : Variant → String
  | .legacy => "Legacy"
  | .webDriver => "WebDriver"

end Transcribe
