import Transcribe.Php.Code
import Transcribe.Script.Command
import Transcribe.Config.Basic
/-!
# `Translate.Legacy` — steps as remote-control API calls

The remote-control test case has a method for nearly every recorded command, so a
step becomes one call `$this->name("target", "value");` (`Php.call`), except for
twelve commands with a rule of their own (`Rule`):

* `clickAndWait` clicks and then waits for the page, `pageLoadTimeoutMs` long;
* `assertText` compares the value with the element's text;
* element and text presence become `assertTrue`/`assertFalse` of `isElementPresent`
  or `isTextPresent`, and the four waits for them become a polling loop (`waitLoop`)
  that gives up after `waitLoopIterations` rounds, sleeping `waitLoopIntervalSecs`
  between rounds and ignoring exceptions raised while it checks;
* `assertConfirmation` matches the confirmation against the target as a wildcard
  pattern (`Php.patternMatch`), and `verifyConfirmation` does the same but records a
  failure instead of stopping the test.

No step fails to translate under this API: targets are passed on as written.
-/

namespace Transcribe.Translate.Legacy

open Transcribe.Php

/-- The commands with a rule of their own. -/
inductive Rule where
  | clickAndWait
  | assertText
  | assertElementPresent
  | assertElementNotPresent
  | waitForElementPresent
  | waitForElementNotPresent
  | waitForTextPresent
  | waitForTextNotPresent
  | assertConfirmation
  | verifyConfirmation
  | assertTextPresent
  | assertTextNotPresent
  deriving DecidableEq, Repr

/-- The rule of a command name, if it has one. -/
def Rule.ofName? : String → Option Rule
  | "clickAndWait" => some .clickAndWait
  | "assertText" => some .assertText
  | "assertElementPresent" => some .assertElementPresent
  | "assertElementNotPresent" => some .assertElementNotPresent
  | "waitForElementPresent" => some .waitForElementPresent
  | "waitForElementNotPresent" => some .waitForElementNotPresent
  | "waitForTextPresent" => some .waitForTextPresent
  | "waitForTextNotPresent" => some .waitForTextNotPresent
  | "assertConfirmation" => some .assertConfirmation
  | "verifyConfirmation" => some .verifyConfirmation
  | "assertTextPresent" => some .assertTextPresent
  | "assertTextNotPresent" => some .assertTextNotPresent
  | _ => none

/-- The polling loop that ends once `expr` holds and fails after the configured rounds. -/
def waitLoop (receiver : String) (timing : Timing) (expr : String) : List String :=
  [ "for ($second = 0; ; $second++) \x7b",
    "    if ($second >= " ++ toString timing.waitLoopIterations ++ ") " ++ receiver ++
      "->fail(\"timeout\");",
    "    try \x7b",
    "        if (" ++ expr ++ ") break;",
    "    \x7d catch (Exception $e) \x7b\x7d",
    "    sleep(" ++ toString timing.waitLoopIntervalSecs ++ ");",
    "\x7d" ]

/-- Whether the element of the step's target is present. -/
def elementPresent (receiver : String) (c : Command) : String :=
  callExpr receiver "isElementPresent" c.targetText

/-- Whether the step's target text is on the page. -/
def textPresent (receiver : String) (c : Command) : String :=
  callExpr receiver "isTextPresent" c.targetText

/-- Whether the confirmation matches the step's target as a wildcard pattern. -/
def confirmationMatches (receiver : String) (c : Command) : String :=
  patternMatch c.targetText (receiver ++ "->getConfirmation()")

/-- The lines of a step under its rule. -/
def Rule.lines (receiver : String) (timing : Timing) (c : Command) : Rule → List String
  | .clickAndWait =>
    [ call receiver "click" (some c.targetText) none,
      call receiver "waitForPageToLoad" (some (toString timing.pageLoadTimeoutMs)) none ]
  | .assertText =>
    [ receiver ++ "->assertEquals(\"" ++ c.valueText ++ "\", " ++
        callExpr receiver "getText" c.targetText ++ ");" ]
  | .assertElementPresent => [assertTrue receiver (elementPresent receiver c)]
  | .assertElementNotPresent => [assertFalse receiver (elementPresent receiver c)]
  | .waitForElementPresent => waitLoop receiver timing (elementPresent receiver c)
  | .waitForElementNotPresent => waitLoop receiver timing ("!" ++ elementPresent receiver c)
  | .waitForTextPresent => waitLoop receiver timing (textPresent receiver c)
  | .waitForTextNotPresent => waitLoop receiver timing ("!" ++ textPresent receiver c)
  | .assertConfirmation => [assertTrue receiver (confirmationMatches receiver c)]
  | .verifyConfirmation =>
    [ "try \x7b",
      "    " ++ assertTrue receiver (confirmationMatches receiver c),
      "\x7d catch (PHPUnit_Framework_AssertionFailedError $e) \x7b",
      "    array_push(" ++ receiver ++ "->verificationErrors, $e->toString());",
      "\x7d" ]
  | .assertTextPresent => [assertTrue receiver (textPresent receiver c)]
  | .assertTextNotPresent => [assertFalse receiver (textPresent receiver c)]

/-- The lines of a step: its rule's, or the direct call. -/
def translate (receiver : String) (timing : Timing) (c : Command) : List String :=
  match Rule.ofName? c.name with
  | some r => r.lines receiver timing c
  | none => [call receiver c.name c.target c.value]

end Transcribe.Translate.Legacy
