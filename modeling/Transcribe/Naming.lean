/-!
# `Naming` — test names from titles, and the names derived from a test name

A recorded test's title is turned into a PHP identifier character by character:
the first character of every word is put in upper case (ASCII letters only), and
every character that is not an ASCII letter or digit becomes `_`. A word starts
at the beginning and after each space, tab, carriage return, line feed, vertical
tab or form feed. The result has as many characters as the title.

From a test name `N` and a class prefix `P` the generated code takes the class
`PNTest` and the test method `testN`.
-/

namespace Transcribe

/-- The characters after which a new word of a title starts. -/
def isTitleBreak (c : Char) : Bool :=
  c == ' ' || c == '\t' || c == '\r' || c == '\n' || c == '\x0b' || c == '\x0c'

/-- The identifier characters of a title, given whether it starts a word. -/
def identifierChars : Bool → List Char → List Char
  | _, [] => []
  | atWordStart, c :: cs =>
    let c := if atWordStart then c.toUpper else c
    (if c.isAlphanum then c else '_') :: identifierChars (isTitleBreak c) cs

/-- The test name that a title stands for. -/
def normalizeTitle (title : String) : String :=
  String.ofList (identifierChars true title.toList)

/-- The class and method names of a generated test. -/
structure TestNames where
  className : String
  methodName : String
  deriving DecidableEq, Repr

/-- The names for test name `name` under class prefix `classPrefix`. -/
def TestNames.of (classPrefix name : String) : TestNames :=
  ⟨classPrefix ++ name ++ "Test", "test" ++ name⟩

theorem length_identifierChars (b : Bool) (cs : List Char) :
    (identifierChars b cs).length = cs.length := by
  induction cs generalizing b with
  | nil => rfl
  | cons c cs ih => simp [identifierChars, ih]

example : normalizeTitle "smoke-test #2" = "Smoke_test__2" := by decide +kernel

end Transcribe
