import Transcribe.Php.Code
import Transcribe.Script.Command
import Transcribe.Config.Basic
import Transcribe.Locator
import Transcribe.Log
import Transcribe.Text.Blank
import Transcribe.Text.Search
/-!
# `Translate.WebDriver` — steps as WebDriver API code

Under the WebDriver test case, element commands resolve their target into a
`Locator` and act on the element it finds; a target that does not resolve makes the
step fail with `TargetError.unknownSelector`. Twenty-three command names have a rule
(`Rule.ofName?`): `clickAndWait` is a plain click, as WebDriver waits for pages
itself, and the three confirmation and alert checks share one rule. Any other
command becomes the direct call, as under the remote-control API.

Waits are one `waitUntil` call with `waitUntilTimeoutMs`, whose closure takes the
test case as `$testCase` and looks elements up on it, whatever the configured
receiver (`waitUntil`).

Rules for other commands decide from their arguments:

* `select` picks an option by the first `label=` in the value that has text after
  it, else by the first such `value=`; the text runs to the end of its line. Any
  other option is refused (`TargetError.unknownOptionSelector`); the element is
  resolved first, so an unknown selector wins over an unknown option.
* `storeAttribute` splits its target into an element part and an attribute name at
  the first place where the rest is `/@name` or `@name`, the name being non-empty,
  without blanks, and running to the end; the element part is at least one character
  and holds no line feed (`splitAttribute?`). Without such a place the step is
  refused (`TargetError.missingAttribute`).

Four text commands are deprecated and a direct call with a value names a command
this API does not know; both leave a warning note (`notes`).
-/

namespace Transcribe.Translate.WebDriver

open Transcribe.Php Transcribe.Text

/-- The name of the test case inside a `waitUntil` closure. -/
def closureReceiver : String := "$testCase"

/-- The exception class of failed WebDriver calls. -/
def webDriverException : String := "PHPUnit_Extensions_Selenium2TestCase_WebDriverException"

/-- The code of the exception raised when no element is found. -/
def noSuchElement : String := "PHPUnit_Extensions_Selenium2TestCase_WebDriverException::NoSuchElement"

/-- The commands with a rule of their own. -/
inductive Rule where
  | openUrl
  | typeText
  | sendKeys
  | click
  | select
  | assertText
  | assertNotText
  | assertElementPresent
  | assertElementNotPresent
  | waitForElementPresent
  | waitForElementNotPresent
  | waitForTextPresent
  | waitForTextNotPresent
  | waitForText
  | waitForNotText
  | assertAlert
  | assertTextPresent
  | assertTextNotPresent
  | storeAttribute
  | runScript
  deriving DecidableEq, Repr

/-- The rule of a command name, if it has one. -/
def Rule.ofName? : String → Option Rule
  | "open" => some .openUrl
  | "type" => some .typeText
  | "sendKeys" => some .sendKeys
  | "click" => some .click
  | "clickAndWait" => some .click
  | "select" => some .select
  | "assertText" => some .assertText
  | "assertNotText" => some .assertNotText
  | "assertElementPresent" => some .assertElementPresent
  | "assertElementNotPresent" => some .assertElementNotPresent
  | "waitForElementPresent" => some .waitForElementPresent
  | "waitForElementNotPresent" => some .waitForElementNotPresent
  | "waitForTextPresent" => some .waitForTextPresent
  | "waitForTextNotPresent" => some .waitForTextNotPresent
  | "waitForText" => some .waitForText
  | "waitForNotText" => some .waitForNotText
  | "assertConfirmation" => some .assertAlert
  | "verifyConfirmation" => some .assertAlert
  | "assertAlert" => some .assertAlert
  | "assertTextPresent" => some .assertTextPresent
  | "assertTextNotPresent" => some .assertTextNotPresent
  | "storeAttribute" => some .storeAttribute
  | "runScript" => some .runScript
  | _ => none

/-- The deprecated text commands. -/
def Rule.deprecated : Rule → Bool
  | .waitForTextPresent | .waitForTextNotPresent | .assertTextPresent | .assertTextNotPresent =>
    true
  | _ => false

/-- The lookup statement for a target on a receiver. -/
def find (selector receiver : String) : Except TargetError String :=
  (Locator.resolve selector).map (·.toPhp receiver)

/-- A `waitUntil` call whose closure runs `body`. -/
def waitUntil (receiver : String) (timing : Timing) (body : List String) : List String :=
  [receiver ++ "->waitUntil(function(" ++ closureReceiver ++ ") \x7b"] ++ indentLines body 4 ++
    ["\x7d, " ++ toString timing.waitUntilTimeoutMs ++ ");"]

/-- The end of a `try` whose `catch` takes a missing element as success. -/
def noSuchElementIsSuccess : List String :=
  [ "\x7d catch (" ++ webDriverException ++ " $e) \x7b",
    "    if (" ++ noSuchElement ++ " == $e->getCode()) \x7b",
    "        return true;",
    "    \x7d",
    "\x7d" ]

/-- The position of a text in the page body, or `false`. -/
def bodyTextPosition (receiver text : String) : String :=
  "strpos(" ++ receiver ++ "->byTag('body')->text(), \"" ++ text ++ "\")"

/-- Whether a text is in the page body. -/
def isTextPresent (receiver text : String) : String :=
  "(bool)(" ++ bodyTextPosition receiver text ++ " !== false)"

/-- `$input`'s text is empty for an empty value, or contains a non-empty one. -/
def textMatches (v : String) : String :=
  "(\"" ++ v ++ "\" === '' && $input->text() === '') || strpos($input->text(), \"" ++ v ++
    "\") !== false"

/-- `$input`'s text is non-empty for an empty value, or lacks a non-empty one. -/
def textDiffers (v : String) : String :=
  "(\"" ++ v ++ "\" === '' && $input->text() !== '') || strpos($input->text(), \"" ++ v ++
    "\") === false"

/-- The text after the first `key` in an option that has text after it, up to the end
of its line. -/
def optionArgument? (key : String) (option : String) : Option String :=
  firstMatch (fun cs =>
    if key.toList.isPrefixOf cs then
      match (cs.drop key.length).takeWhile (· != '\n') with
      | [] => none
      | arg => some (String.ofList arg)
    else none) option.toList

/-- The attribute name at the front of the rest of a `storeAttribute` target. -/
def attributeTail? : List Char → Option (List Char)
  | '/' :: '@' :: s => if s != [] && s.all (fun c => !isBlank c) then some s else none
  | '@' :: s => if s != [] && s.all (fun c => !isBlank c) then some s else none
  | _ => none

/-- Splits a `storeAttribute` target after the element part `acc` (reversed) read so far. -/
def splitAttributeFrom (acc : List Char) : List Char → Option (List Char × List Char)
  | [] => none
  | c :: cs =>
    if c == '\n' then none
    else
      match attributeTail? cs with
      | some a => some ((c :: acc).reverse, a)
      | none => splitAttributeFrom (c :: acc) cs

/-- A `storeAttribute` target split into its element part and attribute name. -/
def splitAttribute? (target : String) : Option (String × String) :=
  (splitAttributeFrom [] target.toList).map fun (e, a) => (String.ofList e, String.ofList a)

/-- The lines of a step under its rule. -/
def Rule.lines (r : String) (timing : Timing) (c : Command) : Rule → Except TargetError (List String)
  | .openUrl => .ok [call r "url" (some c.targetText) none]
  | .typeText => do
    let lookup ← find c.targetText r
    pure ["$input = " ++ lookup, "$input->clear();", "$input->value(\"" ++ c.valueText ++ "\");"]
  | .sendKeys => do
    let lookup ← find c.targetText r
    pure ["$input = " ++ lookup, "$input->value(\"" ++ c.valueText ++ "\");"]
  | .click => do
    let lookup ← find c.targetText r
    pure ["$input = " ++ lookup, "$input->click();"]
  | .select => do
    let lookup ← find c.targetText r
    let head := ["$element = " ++ lookup, "$selectElement = " ++ r ++ "->select($element);"]
    match optionArgument? "label=" c.valueText with
    | some label => pure (head ++ ["$selectElement->selectOptionByLabel(\"" ++ label ++ "\");"])
    | none =>
      match optionArgument? "value=" c.valueText with
      | some v => pure (head ++ ["$selectElement->selectOptionByValue(\"" ++ v ++ "\");"])
      | none => throw (.unknownOptionSelector c.valueText)
  | .assertText => do
    let lookup ← find c.targetText r
    pure ["$input = " ++ lookup,
      r ++ "->assertEquals(\"" ++ c.valueText ++ "\", $input->text());"]
  | .assertNotText => do
    let lookup ← find c.targetText r
    pure [ "try \x7b",
      "    $input = " ++ lookup,
      "    " ++ assertTrue r (textDiffers c.valueText),
      "\x7d catch (" ++ webDriverException ++ " $e) \x7b",
      "    " ++ r ++ "->assertEquals(" ++ noSuchElement ++ ", $e->getCode());",
      "\x7d" ]
  | .assertElementPresent => do
    let lookup ← find c.targetText r
    pure [ "try \x7b",
      "    " ++ lookup,
      "    " ++ assertTrue r "true",
      "\x7d catch (" ++ webDriverException ++ " $e) \x7b",
      "    if (" ++ noSuchElement ++ " === $e->getCode()) \x7b",
      "        " ++ assertTrue r "false",
      "    \x7d else \x7b",
      "        throw $e;",
      "    \x7d",
      "\x7d" ]
  | .assertElementNotPresent => do
    let lookup ← find c.targetText r
    pure [ "try \x7b",
      "    " ++ lookup,
      "    " ++ assertTrue r "false",
      "\x7d catch (" ++ webDriverException ++ " $e) \x7b",
      "    " ++ r ++ "->assertEquals(" ++ noSuchElement ++ ", $e->getCode());",
      "\x7d" ]
  | .waitForElementPresent => do
    let lookup ← find c.targetText closureReceiver
    pure (waitUntil r timing [ "try \x7b",
      "    $element = " ++ lookup,
      "    if ($element->displayed()) \x7b",
      "        return true;",
      "    \x7d",
      "\x7d catch (" ++ webDriverException ++ " $e) \x7b\x7d" ])
  | .waitForElementNotPresent => do
    let lookup ← find c.targetText closureReceiver
    pure (waitUntil r timing (["try \x7b", "    " ++ lookup] ++ noSuchElementIsSuccess))
  | .waitForTextPresent =>
    .ok (waitUntil r timing [
      "if (" ++ bodyTextPosition closureReceiver c.targetText ++ " !== false) \x7b",
      "    return true;",
      "\x7d" ])
  | .waitForTextNotPresent =>
    .ok (waitUntil r timing [
      "if (" ++ bodyTextPosition closureReceiver c.targetText ++ " === false) \x7b",
      "    return true;",
      "\x7d" ])
  | .waitForText => do
    let lookup ← find c.targetText closureReceiver
    pure (waitUntil r timing [ "$input = " ++ lookup,
      "if (" ++ textMatches c.valueText ++ ") \x7b",
      "    return true;",
      "\x7d" ])
  | .waitForNotText => do
    let lookup ← find c.targetText closureReceiver
    pure (waitUntil r timing ([ "try \x7b",
      "    $input = " ++ lookup,
      "    if (" ++ textDiffers c.valueText ++ ") \x7b",
      "        return true;",
      "    \x7d" ] ++ noSuchElementIsSuccess))
  | .assertAlert =>
    .ok [ "if ( !is_null(" ++ r ++ "->alertText()) ) \x7b",
      "    " ++ r ++ "->assertEquals(\"" ++ c.targetText ++ "\", " ++ r ++ "->alertText());",
      "\x7d",
      r ++ "->acceptAlert();" ]
  | .assertTextPresent => .ok [assertTrue r (isTextPresent r c.targetText)]
  | .assertTextNotPresent => .ok [assertFalse r (isTextPresent r c.targetText)]
  | .storeAttribute => do
    let (element, attr) ← match splitAttribute? c.targetText with
      | some p => pure p
      | none => throw (TargetError.missingAttribute c.targetText)
    let lookup ← find element r
    pure [ "//replacement for: " ++ c.targetText,
      "$element = " ++ lookup,
      "$" ++ c.valueText ++ " = $element->attribute('" ++ attr ++ "');" ]
  | .runScript =>
    .ok [ "$script = \"" ++ c.targetText ++ "\";",
      "$result = " ++ r ++ "->execute(array(",
      "    'script' => $script,",
      "    'args' => array()",
      "));" ]

/-- The lines of a step: its rule's, or the direct call. -/
def translate (receiver : String) (timing : Timing) (c : Command) :
    Except TargetError (List String) :=
  match Rule.ofName? c.name with
  | some r => r.lines receiver timing c
  | none => .ok [call receiver c.name c.target c.value]

/-- The warnings that translating a step leaves. -/
def notes (c : Command) : List Note :=
  match Rule.ofName? c.name with
  | some r =>
    if r.deprecated then [⟨.warn, .translator, "Deprecated command - " ++ c.display⟩] else []
  | none =>
    if c.value.isSome then [⟨.warn, .translator, "Unknown command - " ++ c.display⟩] else []

end Transcribe.Translate.WebDriver
