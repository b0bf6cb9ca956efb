/-!
# `Config.Basic` — the settings of a conversion

Generated tests target one of two test-case APIs, the *variant*: the remote-control
API (`legacy`) or the WebDriver API (`webdriver`, also spelled `selenium2`). The
variant decides the default parent class and whether a line break closes every
step. *Timing* holds the four waiting budgets written into generated code.

Every setting has a default, and a configuration file or the command line changes
only what it names. Where a setting is optional (`none`), its effect is decided
here: `parentClass` and `commandEol` give the effective values.
-/

namespace Transcribe

/-- The test-case API that generated code targets. -/
inductive Variant where
  | legacy
  | webDriver
  deriving DecidableEq, Repr

/-- The waiting budgets written into generated code. -/
structure Timing where
  /-- Rounds of the remote-control polling loop before it fails with "timeout". -/
  waitLoopIterations : UInt32 := 60
  /-- Seconds of sleep between two rounds of the polling loop. -/
  waitLoopIntervalSecs : UInt32 := 1
  /-- Milliseconds that a remote-control `clickAndWait` waits for the page. -/
  pageLoadTimeoutMs : UInt64 := 30000
  /-- Milliseconds that a WebDriver wait waits. -/
  waitUntilTimeoutMs : UInt64 := 8000
  deriving DecidableEq, Repr

/-- The settings of a conversion. -/
structure Config where
  variant : Variant := .legacy
  /-- The browser string passed to `setBrowser`. -/
  browser : String := "*firefox"
  /-- The test URL; it wins over the document's base link. -/
  testUrl : Option String := none
  /-- The test URL when neither the caller nor the document gives one. -/
  defaultTestUrl : String := "http://example.com"
  /-- The test name when neither the caller nor the document's title gives one. -/
  defaultTestName : String := "some"
  remoteHost : Option String := none
  remotePort : Option UInt16 := none
  classPrefix : String := ""
  /-- Lines written before the class declaration. -/
  preClassLines : List String := []
  /-- Lines written at the top of the class body. -/
  classBodyLines : List String := []
  /-- The parent class; by default it follows the variant. -/
  parentClass : Option String := none
  customParam1 : String := ""
  customParam2 : String := ""
  /-- The path of a template file; the built-in skeleton is used without one. -/
  template : Option String := none
  /-- The line separator of the generated file. -/
  eol : String := "\n"
  /-- Appended to the last line of every step; by default it follows the variant. -/
  commandEol : Option String := none
  /-- The expression that generated calls are made on. -/
  receiver : String := "$this"
  /-- Whether a step that cannot be translated becomes a comment instead of an error. -/
  continueOnError : Bool := false
  timing : Timing := {}
  deriving DecidableEq, Repr

/-- The parent class of the remote-control API. -/
def legacyParentClass : String := "PHPUnit_Extensions_SeleniumTestCase"

/-- The parent class of the WebDriver API. -/
def webDriverParentClass : String := "PHPUnit_Extensions_Selenium2TestCase"

/-- The parent class in effect: the one set, even if empty, else the variant's. -/
def Config.effectiveParentClass (c : Config) : String :=
  c.parentClass.getD (match c.variant with
    | .legacy => legacyParentClass
    | .webDriver => webDriverParentClass)

/-- What closes every step in effect: a set terminator unless it is empty; by default
nothing under the remote-control API and a line feed under WebDriver. -/
def Config.effectiveCommandEol (c : Config) : Option String :=
  match c.commandEol, c.variant with
  | some "", _ => none
  | some e, _ => some e
  | none, .legacy => none
  | none, .webDriver => some "\n"

end Transcribe
