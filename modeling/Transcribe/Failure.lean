import Transcribe.Convert
/-!
# `Failure` — an error with the errors behind it

When a step fails because of something underneath (a file cannot be converted because
its template cannot be read, because the template is not UTF-8), the message says
what failed and the *causes* say why, outermost first. A failure reads in one line as
the message and the causes joined by `: `. The command line's final report puts the
causes under `Caused by:`, one per line, numbered from `0` when there are several.
-/

namespace Transcribe

/-- An error and its causes, outermost first. -/
structure Failure where
  message : String
  causes : List String := []
  deriving DecidableEq, Repr

namespace Failure

/-- A failure inside a step that says what it was doing. -/
def context (step : String) (f : Failure) : Failure := ⟨step, f.message :: f.causes⟩

/-- The message and the causes in one line. -/
def oneLine (f : Failure) : String := ": ".intercalate (f.message :: f.causes)

/-- A number right-aligned in five columns. -/
def padNumber (n : Nat) : String :=
  let s := toString n
  String.ofList (List.replicate (5 - s.length) ' ') ++ s

/-- A cause in the report: indented, with its number when there are several; its
further lines line up under its first. -/
def causeLines (number : Option Nat) (text : String) : String :=
  let lead := match number with
    | some n => padNumber n ++ ": "
    | none => "    "
  let more := match number with
    | some _ => "       "
    | none => "    "
  lead ++ ("\n" ++ more).intercalate (text.splitOn "\n")

/-- The final report of a failed run. -/
def report (f : Failure) : String :=
  let numbered := f.causes.length > 1
  "Error: " ++ f.message ++
    (if f.causes.isEmpty then ""
     else "\n\nCaused by:" ++ String.join (f.causes.zipIdx.map fun (c, i) =>
       "\n" ++ causeLines (if numbered then some i else none) c)) ++ "\n"

end Failure

/-- A conversion error as a failure. -/
def ConvertError.failure (e : ConvertError) : Failure := ⟨e.message, e.causes⟩

/-- A file fault as a failure. -/
def Fault.failure (f : Fault) : Failure := ⟨f.message, []⟩

end Transcribe
