import Transcribe.Proofs.PhpLexing
import Transcribe.Proofs.Refusal
/-!
# `Proofs.StepTemplates` — the code of each rule, with the step's texts as holes

Every rule writes the same code around the texts it takes from a step. This module
writes that code once per rule as a `Template` whose holes (`Hole`) are those texts: the
receiver, the command name, the target and the value, what is derived from them (the
locator's method and value, a `select`'s option, a store's attribute name and
variable), and the timing numbers. `stepTemplate` picks a step's template from the
variant, the rule of its name and, for a direct call, the arguments present;
`stepEnv` gives the texts that fill its holes.

Main statements:

* `stepTemplate_check` — every template passes `Template.check`: its holes stand where
  their kinds keep the lexer's shape, only shared holes spell tokens outside literals
  and comments (and the store's variable, by design), and its brackets nest;
* `joinLines_translate` — a step's translated lines, joined by line feeds, are its
  template with its texts filled in.

The checks are one run of the lexer over each template; a template's fixed code is
turned into characters by `toList_eq_of_eq_ofList`, which costs the kernel nothing,
before `decide` runs it.
-/

namespace Transcribe

open Transcribe.Php Transcribe.Translate

/-- A string literal as its characters: the kernel reads a literal as `String.ofList` of
them, so `rfl` proves the hypothesis at once. -/
theorem toList_eq_of_eq_ofList {s : String} {l : List Char} (h : s = String.ofList l) :
    s.toList = l :=
  h ▸ String.toList_ofList

/-! ## Holes -/

/-- The texts that a step's code is made around. -/
inductive Hole where
  | receiver
  | command
  | target
  | value
  | lookup
  | locator
  | option
  | attribute
  | store
  | rounds
  | interval
  | pageLoad
  | waitMs
  deriving DecidableEq, Repr

/-- What may fill each hole: the receiver is a variable; the command name, the locator's
method and the store's variable are names; the rounds, the interval and the wait are
digits; the rest is text inside literals and comments. -/
def Hole.kind : Hole → HoleKind
  | .receiver => .variable
  | .command | .lookup | .store => .name
  | .rounds | .interval | .waitMs => .digits
  | .target | .value | .locator | .option | .attribute | .pageLoad => .plain

/-- The holes that two steps of one form fill alike: the translator's own texts, the
command name and the locator's method. -/
def Hole.shared : Hole → Bool
  | .receiver | .command | .lookup | .rounds | .interval | .pageLoad | .waitMs => true
  | .target | .value | .locator | .option | .attribute | .store => false

/-! ## Pieces of templates -/

/-- Fixed code. -/
def lit (s : String) : Slot Hole := .code s.toList

/-- The receiver. -/
def recv : Slot Hole := .hole .receiver

/-- The lookup statement `on->byX("locator");` of the step's locator. -/
def lookupOn (on : Slot Hole) : List (Slot Hole) :=
  [on, lit "->", .hole .lookup, lit "(\"", .hole .locator, lit "\");"]

/-- The call statement on the receiver, with the step's target and value as present. -/
def callOf (method : Slot Hole) (target value : Bool) : List (Slot Hole) :=
  if value then
    [recv, lit "->", method, lit "(\"", .hole .target, lit "\", \"", .hole .value, lit "\");"]
  else if target then [recv, lit "->", method, lit "(\"", .hole .target, lit "\");"]
  else [recv, lit "->", method, lit "();"]

/-- Lines indented by four spaces. -/
def indent (body : Template Hole) : Template Hole :=
  body.map fun line => .code (List.replicate 4 ' ') :: line

/-- A `waitUntil` call whose closure runs `body`. -/
def waitUntilOf (body : Template Hole) : Template Hole :=
  [[recv, lit "->waitUntil(function(", lit WebDriver.closureReceiver, lit ") \x7b"]] ++
    indent body ++ [[lit "\x7d, ", .hole .waitMs, lit ");"]]

/-- The end of a `try` whose `catch` takes a missing element as success. -/
def noSuchElementIsSuccessOf : Template Hole :=
  [ [lit "\x7d catch (", lit WebDriver.webDriverException, lit " $e) \x7b"],
    [lit "    if (", lit WebDriver.noSuchElement, lit " == $e->getCode()) \x7b"],
    [lit "        return true;"],
    [lit "    \x7d"],
    [lit "\x7d"] ]

/-- The position of the target in the page body, looked up on `on`. -/
def bodyTextPositionOf (on : Slot Hole) : List (Slot Hole) :=
  [lit "strpos(", on, lit "->byTag('body')->text(), \"", .hole .target, lit "\")"]

/-- `$input`'s text against the value, as `textMatches`. -/
def textMatchesOf : List (Slot Hole) :=
  [lit "(\"", .hole .value, lit "\" === '' && $input->text() === '') || strpos($input->text(), \"",
    .hole .value, lit "\") !== false"]

/-- `$input`'s text against the value, as `textDiffers`. -/
def textDiffersOf : List (Slot Hole) :=
  [lit "(\"", .hole .value, lit "\" === '' && $input->text() !== '') || strpos($input->text(), \"",
    .hole .value, lit "\") === false"]

/-! ## The templates of the rules -/

/-- The code of each WebDriver rule; a `select` picks by label or by value. -/
def webDriverTemplate (byLabel : Bool) : WebDriver.Rule → Template Hole
  | .openUrl => [callOf (lit "url") true false]
  | .typeText =>
    [lit "$input = " :: lookupOn recv, [lit "$input->clear();"],
      [lit "$input->value(\"", .hole .value, lit "\");"]]
  | .sendKeys => [lit "$input = " :: lookupOn recv, [lit "$input->value(\"", .hole .value, lit "\");"]]
  | .click => [lit "$input = " :: lookupOn recv, [lit "$input->click();"]]
  | .select =>
    [lit "$element = " :: lookupOn recv, [lit "$selectElement = ", recv, lit "->select($element);"],
      if byLabel then [lit "$selectElement->selectOptionByLabel(\"", .hole .option, lit "\");"]
      else [lit "$selectElement->selectOptionByValue(\"", .hole .option, lit "\");"]]
  | .assertText =>
    [lit "$input = " :: lookupOn recv,
      [recv, lit "->assertEquals(\"", .hole .value, lit "\", $input->text());"]]
  | .assertNotText =>
    [ [lit "try \x7b"],
      lit "    $input = " :: lookupOn recv,
      [lit "    ", recv, lit "->assertTrue("] ++ textDiffersOf ++ [lit ");"],
      [lit "\x7d catch (", lit WebDriver.webDriverException, lit " $e) \x7b"],
      [lit "    ", recv, lit "->assertEquals(", lit WebDriver.noSuchElement, lit ", $e->getCode());"],
      [lit "\x7d"] ]
  | .assertElementPresent =>
    [ [lit "try \x7b"],
      lit "    " :: lookupOn recv,
      [lit "    ", recv, lit "->assertTrue(", lit "true", lit ");"],
      [lit "\x7d catch (", lit WebDriver.webDriverException, lit " $e) \x7b"],
      [lit "    if (", lit WebDriver.noSuchElement, lit " === $e->getCode()) \x7b"],
      [lit "        ", recv, lit "->assertTrue(", lit "false", lit ");"],
      [lit "    \x7d else \x7b"],
      [lit "        throw $e;"],
      [lit "    \x7d"],
      [lit "\x7d"] ]
  | .assertElementNotPresent =>
    [ [lit "try \x7b"],
      lit "    " :: lookupOn recv,
      [lit "    ", recv, lit "->assertTrue(", lit "false", lit ");"],
      [lit "\x7d catch (", lit WebDriver.webDriverException, lit " $e) \x7b"],
      [lit "    ", recv, lit "->assertEquals(", lit WebDriver.noSuchElement, lit ", $e->getCode());"],
      [lit "\x7d"] ]
  | .waitForElementPresent =>
    waitUntilOf
      [ [lit "try \x7b"],
        lit "    $element = " :: lookupOn (lit WebDriver.closureReceiver),
        [lit "    if ($element->displayed()) \x7b"],
        [lit "        return true;"],
        [lit "    \x7d"],
        [lit "\x7d catch (", lit WebDriver.webDriverException, lit " $e) \x7b\x7d"] ]
  | .waitForElementNotPresent =>
    waitUntilOf
      ([[lit "try \x7b"], lit "    " :: lookupOn (lit WebDriver.closureReceiver)] ++
        noSuchElementIsSuccessOf)
  | .waitForTextPresent =>
    waitUntilOf
      [ lit "if (" :: bodyTextPositionOf (lit WebDriver.closureReceiver) ++ [lit " !== false) \x7b"],
        [lit "    return true;"],
        [lit "\x7d"] ]
  | .waitForTextNotPresent =>
    waitUntilOf
      [ lit "if (" :: bodyTextPositionOf (lit WebDriver.closureReceiver) ++ [lit " === false) \x7b"],
        [lit "    return true;"],
        [lit "\x7d"] ]
  | .waitForText =>
    waitUntilOf
      [ lit "$input = " :: lookupOn (lit WebDriver.closureReceiver),
        lit "if (" :: textMatchesOf ++ [lit ") \x7b"],
        [lit "    return true;"],
        [lit "\x7d"] ]
  | .waitForNotText =>
    waitUntilOf
      ([ [lit "try \x7b"],
        lit "    $input = " :: lookupOn (lit WebDriver.closureReceiver),
        lit "    if (" :: textDiffersOf ++ [lit ") \x7b"],
        [lit "        return true;"],
        [lit "    \x7d"] ] ++ noSuchElementIsSuccessOf)
  | .assertAlert =>
    [ [lit "if ( !is_null(", recv, lit "->alertText()) ) \x7b"],
      [lit "    ", recv, lit "->assertEquals(\"", .hole .target, lit "\", ", recv, lit "->alertText());"],
      [lit "\x7d"],
      [recv, lit "->acceptAlert();"] ]
  | .assertTextPresent =>
    [[recv, lit "->assertTrue(", lit "(bool)("] ++ bodyTextPositionOf recv ++
      [lit " !== false)", lit ");"]]
  | .assertTextNotPresent =>
    [[recv, lit "->assertFalse(", lit "(bool)("] ++ bodyTextPositionOf recv ++
      [lit " !== false)", lit ");"]]
  | .storeAttribute =>
    [ [lit "//replacement for: ", .hole .target],
      lit "$element = " :: lookupOn recv,
      [lit "$", .hole .store, lit " = $element->attribute('", .hole .attribute, lit "');"] ]
  | .runScript =>
    [ [lit "$script = \"", .hole .target, lit "\";"],
      [lit "$result = ", recv, lit "->execute(array("],
      [lit "    'script' => $script,"],
      [lit "    'args' => array()"],
      [lit "));"] ]

/-- The polling loop around `expr`, as `Legacy.waitLoop`. -/
def waitLoopOf (expr : List (Slot Hole)) : Template Hole :=
  [ [lit "for ($second = 0; ; $second++) \x7b"],
    [lit "    if ($second >= ", .hole .rounds, lit ") ", recv, lit "->fail(\"timeout\");"],
    [lit "    try \x7b"],
    lit "        if (" :: expr ++ [lit ") break;"],
    [lit "    \x7d catch (Exception $e) \x7b\x7d"],
    [lit "    sleep(", .hole .interval, lit ");"],
    [lit "\x7d"] ]

/-- The call expression `receiver->method("target")`. -/
def callExprOf (method : String) : List (Slot Hole) :=
  [recv, lit "->", lit method, lit "(\"", .hole .target, lit "\")"]

/-- The match of the confirmation against the target, as `Php.patternMatch`. -/
def confirmationOf : List (Slot Hole) :=
  [lit "(bool)preg_match('/^", .hole .target, lit "$/', ", recv, lit "->getConfirmation()", lit ")"]

/-- The code of each remote-control rule. -/
def legacyTemplate : Legacy.Rule → Template Hole
  | .clickAndWait =>
    [ callOf (lit "click") true false,
      [recv, lit "->", lit "waitForPageToLoad", lit "(\"", .hole .pageLoad, lit "\");"] ]
  | .assertText =>
    [[recv, lit "->assertEquals(\"", .hole .value, lit "\", "] ++ callExprOf "getText" ++ [lit ");"]]
  | .assertElementPresent => [[recv, lit "->assertTrue("] ++ callExprOf "isElementPresent" ++ [lit ");"]]
  | .assertElementNotPresent =>
    [[recv, lit "->assertFalse("] ++ callExprOf "isElementPresent" ++ [lit ");"]]
  | .waitForElementPresent => waitLoopOf (callExprOf "isElementPresent")
  | .waitForElementNotPresent => waitLoopOf (lit "!" :: callExprOf "isElementPresent")
  | .waitForTextPresent => waitLoopOf (callExprOf "isTextPresent")
  | .waitForTextNotPresent => waitLoopOf (lit "!" :: callExprOf "isTextPresent")
  | .assertConfirmation => [[recv, lit "->assertTrue("] ++ confirmationOf ++ [lit ");"]]
  | .verifyConfirmation =>
    [ [lit "try \x7b"],
      [lit "    ", recv, lit "->assertTrue("] ++ confirmationOf ++ [lit ");"],
      [lit "\x7d catch (PHPUnit_Framework_AssertionFailedError $e) \x7b"],
      [lit "    array_push(", recv, lit "->verificationErrors, $e->toString());"],
      [lit "\x7d"] ]
  | .assertTextPresent => [[recv, lit "->assertTrue("] ++ callExprOf "isTextPresent" ++ [lit ");"]]
  | .assertTextNotPresent =>
    [[recv, lit "->assertFalse("] ++ callExprOf "isTextPresent" ++ [lit ");"]]

/-- Whether a `select` picks its option by label. -/
def optionByLabel (c : Command) : Bool := (WebDriver.optionArgument? "label=" c.valueText).isSome

/-- A step's code as a template: its rule's, or the direct call with its arguments. -/
def stepTemplate (t : Translator) (c : Command) : Template Hole :=
  match t.variant with
  | .legacy =>
    match Legacy.Rule.ofName? c.name with
    | some ρ => legacyTemplate ρ
    | none => [callOf (.hole .command) c.target.isSome c.value.isSome]
  | .webDriver =>
    match WebDriver.Rule.ofName? c.name with
    | some ρ => webDriverTemplate (optionByLabel c) ρ
    | none => [callOf (.hole .command) c.target.isSome c.value.isSome]

/-- The hole that names a variable by design: a store's, under WebDriver. -/
def stepFree (t : Translator) (c : Command) : Option Hole :=
  if t.variant = .webDriver ∧ c.name = "storeAttribute" then some .store else none

/-! ## Every template passes the check -/

theorem webDriverTemplate_check (b : Bool) (ρ : WebDriver.Rule) :
    (webDriverTemplate b ρ).check Hole.kind Hole.shared
      (if ρ = .storeAttribute then some .store else none) = true := by
  cases ρ <;> (try cases b) <;>
  · simp only [webDriverTemplate, lookupOn, callOf, waitUntilOf, noSuchElementIsSuccessOf, indent,
      bodyTextPositionOf, textMatchesOf, textDiffersOf, WebDriver.closureReceiver,
      WebDriver.webDriverException, WebDriver.noSuchElement, lit, recv, -String.reduceToList]
    repeat rw [toList_eq_of_eq_ofList rfl]
    decide +kernel

theorem legacyTemplate_check (ρ : Legacy.Rule) :
    (legacyTemplate ρ).check Hole.kind Hole.shared none = true := by
  cases ρ <;>
  · simp only [legacyTemplate, callOf, callExprOf, waitLoopOf, confirmationOf, lit, recv,
      -String.reduceToList]
    repeat rw [toList_eq_of_eq_ofList rfl]
    decide +kernel

theorem callTemplate_check (target value : Bool) :
    Template.check Hole.kind Hole.shared none [callOf (.hole .command) target value] = true := by
  cases target <;> cases value <;>
  · simp only [callOf, lit, recv, -String.reduceToList]
    repeat rw [toList_eq_of_eq_ofList rfl]
    decide +kernel

/-- What holds of the code of every rule, with the store's variable free under WebDriver, holds
of the code of every step. -/
theorem stepTemplate_rec {P : Template Hole → Option Hole → Prop}
    (hw : ∀ b ρ, P (webDriverTemplate b ρ) (if ρ = .storeAttribute then some .store else none))
    (hl : ∀ ρ, P (legacyTemplate ρ) none)
    (hc : ∀ target value, P [callOf (.hole .command) target value] none) (t : Translator)
    (c : Command) : P (stepTemplate t c) (stepFree t c) := by
  unfold stepTemplate stepFree
  cases t.variant with
  | legacy =>
    simp only [reduceCtorEq, false_and, if_false]
    split
    · exact hl _
    · exact hc _ _
  | webDriver =>
    simp only [true_and]
    cases hρ : WebDriver.Rule.ofName? c.name with
    | some ρ =>
      -- the store's rule is the rule of exactly the name `storeAttribute`
      have hfree : (if c.name = "storeAttribute" then some Hole.store else none) =
          if ρ = .storeAttribute then some .store else none := by
        by_cases hn : c.name = "storeAttribute"
        · rw [if_pos hn, if_pos ((WebDriver.Rule.name_eq_iff hρ rfl).1 hn)]
        · rw [if_neg hn, if_neg fun h => hn ((WebDriver.Rule.name_eq_iff hρ rfl).2 h)]
      dsimp only
      rw [hfree]
      exact hw _ _
    | none =>
      have hn : c.name ≠ "storeAttribute" := by
        rintro h
        rw [h] at hρ
        cases hρ
      dsimp only
      rw [if_neg hn]
      exact hc _ _

/-- The code of every step passes the check, with the store's variable free under WebDriver. -/
theorem stepTemplate_check (t : Translator) (c : Command) :
    (stepTemplate t c).check Hole.kind Hole.shared (stepFree t c) = true :=
  @stepTemplate_rec (fun t free => t.check Hole.kind Hole.shared free = true)
    webDriverTemplate_check legacyTemplate_check callTemplate_check t c

/-! ## The texts of a step -/

/-- The target a step looks an element up by: for a store, the element part of its target. -/
def lookupTarget (c : Command) : String :=
  if c.name = "storeAttribute" then ((WebDriver.splitAttribute? c.targetText).map (·.1)).getD ""
  else c.targetText

/-- The locator a step looks up, if its target names one. -/
def lookupLocator? (c : Command) : Option Locator := (Locator.resolve (lookupTarget c)).toOption

/-- The option a `select` picks: the text after its first `label=`, else after its first
`value=`. -/
def selectedOption (v : String) : String :=
  match WebDriver.optionArgument? "label=" v with
  | some label => label
  | none => (WebDriver.optionArgument? "value=" v).getD ""

/-- The texts that fill the holes of a step's code under a translator. -/
def stepEnv (t : Translator) (c : Command) : Hole → List Char
  | .receiver => t.receiver.toList
  | .command => c.name.toList
  | .target => c.targetText.toList
  | .value => c.valueText.toList
  | .lookup => (((lookupLocator? c).map (·.strategy.method)).getD "").toList
  | .locator => (((lookupLocator? c).map (·.value)).getD "").toList
  | .option => (selectedOption c.valueText).toList
  | .attribute => (((WebDriver.splitAttribute? c.targetText).map (·.2)).getD "").toList
  | .store => c.valueText.toList
  | .rounds => (toString t.timing.waitLoopIterations).toList
  | .interval => (toString t.timing.waitLoopIntervalSecs).toList
  | .pageLoad => (toString t.timing.pageLoadTimeoutMs).toList
  | .waitMs => (toString t.timing.waitUntilTimeoutMs).toList

/-! ## Translated lines are filled templates -/

/-- Lines joined by line feeds, as characters. -/
def joinLines (ls : List String) : List Char := ['\n'].intercalate (ls.map String.toList)

theorem joinLines_eq_render {ls : List String} {t : Template Hole} {e : Hole → List Char}
    (h : ls.map String.toList = t.map fun line => line.flatMap (Slot.render e)) :
    joinLines ls = t.render e := by
  rw [joinLines, h]
  rfl

theorem find_eq_ok_iff (selector receiver line : String) :
    WebDriver.find selector receiver = .ok line ↔
      ∃ l, Locator.resolve selector = .ok l ∧ line = l.toPhp receiver := by
  unfold WebDriver.find
  cases Locator.resolve selector <;> simp [Except.map, eq_comm]

-- unfolding `patternMatch` by `simp` runs into its regular-expression literal; this
-- equation keeps that literal folded
theorem patternMatch_eq (p s : String) :
    Php.patternMatch p s = "(bool)preg_match('/^" ++ Php.patternToRegex p ++ "$/', " ++ s ++ ")" :=
  rfl

/-- A pattern without `?` is its own regular expression. -/
theorem patternToRegex_of_not_mem {s : String} (h : '?' ∉ s.toList) : Php.patternToRegex s = s := by
  unfold Php.patternToRegex
  have hself : (s.toList.flatMap fun c => if c == '?' then "[\\s\\S]".toList else [c]) = s.toList := by
    conv_rhs => rw [← List.flatMap_singleton' s.toList]
    refine List.flatMap_congr fun c hc => ?_
    have hc' : (c == '?') = false := by
      simpa using fun heq : c = '?' => h (heq ▸ hc)
    rw [hc', if_neg Bool.false_ne_true]
  rw [hself, String.ofList_toList]

section WebDriverLines

variable {c : Command} {r : String} {timing : Timing} {ls : List String}

/-- A rule other than the store's looks its element up by the step's whole target. -/
theorem lookupTarget_of_ne_store {ρ : WebDriver.Rule} (hρ : WebDriver.Rule.ofName? c.name = some ρ)
    (hne : ρ ≠ .storeAttribute) : lookupTarget c = c.targetText :=
  if_neg fun heq => hne ((WebDriver.Rule.name_eq_iff hρ rfl).1 heq)

/-- A `select` step's lines are its template, which picks the option by label or by value
as the step's value does. -/
theorem webDriver_select_lines_eq (hρ : WebDriver.Rule.ofName? c.name = some .select)
    (h : WebDriver.Rule.select.lines r timing c = .ok ls) :
    ls.map String.toList = (webDriverTemplate (optionByLabel c) .select).map
      (fun line => line.flatMap (Slot.render (stepEnv ⟨.webDriver, r, timing⟩ c))) := by
  simp only [WebDriver.Rule.lines, Except.bind_eq_ok_iff, find_eq_ok_iff] at h
  obtain ⟨_, ⟨l, hl, rfl⟩, h⟩ := h
  have hloc : lookupLocator? c = some l := by
    simp [lookupLocator?, lookupTarget_of_ne_store hρ (by decide), hl, Except.toOption]
  -- the option is read by label if the value has one, else by value
  cases hlab : WebDriver.optionArgument? "label=" c.valueText with
  | some label =>
    simp only [hlab, pure, Except.pure, Except.ok.injEq] at h
    subst h
    simp [webDriverTemplate, optionByLabel, selectedOption, hlab, lookupOn, lit, recv, stepEnv,
      Slot.render, hloc, Locator.toPhp, String.toList_append, -String.reduceToList,
      -String.reduceAppend]
  | none =>
    cases hv : WebDriver.optionArgument? "value=" c.valueText with
    | some v =>
      simp only [hlab, hv, pure, Except.pure, Except.ok.injEq] at h
      subst h
      simp [webDriverTemplate, optionByLabel, selectedOption, hlab, hv, lookupOn, lit, recv, stepEnv,
        Slot.render, hloc, Locator.toPhp, String.toList_append, -String.reduceToList,
        -String.reduceAppend]
    | none => simp [hlab, hv, throw, throwThe, MonadExceptOf.throw] at h

/-- A `storeAttribute` step's lines are its template, with the element part and the
attribute name of its target's split. -/
theorem webDriver_storeAttribute_lines_eq
    (hρ : WebDriver.Rule.ofName? c.name = some .storeAttribute)
    (h : WebDriver.Rule.storeAttribute.lines r timing c = .ok ls) :
    ls.map String.toList = (webDriverTemplate (optionByLabel c) .storeAttribute).map
      (fun line => line.flatMap (Slot.render (stepEnv ⟨.webDriver, r, timing⟩ c))) := by
  have hstore : c.name = "storeAttribute" := (WebDriver.Rule.name_eq_iff hρ rfl).2 rfl
  simp only [WebDriver.Rule.lines] at h
  cases hs : WebDriver.splitAttribute? c.targetText with
  | none => simp [hs, throw, throwThe, MonadExceptOf.throw, bind, Except.bind] at h
  | some p =>
    obtain ⟨element, attr⟩ := p
    simp only [hs, pure, Except.pure, bind, Except.bind] at h
    cases hf : WebDriver.find element r with
    | error e => simp [hf] at h
    | ok line =>
      obtain ⟨l, hl, rfl⟩ := (find_eq_ok_iff _ _ _).1 hf
      simp only [hf, Except.ok.injEq] at h
      subst h
      have hloc : lookupLocator? c = some l := by
        simp [lookupLocator?, lookupTarget, hstore, hs, hl, Except.toOption]
      simp [webDriverTemplate, lookupOn, lit, recv, stepEnv, Slot.render, hloc, hs,
        Locator.toPhp, String.toList_append, -String.reduceToList, -String.reduceAppend]

/-- A WebDriver rule's lines are its template filled with the step's texts. -/
theorem webDriver_lines_eq {ρ : WebDriver.Rule} (hρ : WebDriver.Rule.ofName? c.name = some ρ)
    (h : ρ.lines r timing c = .ok ls) :
    ls.map String.toList = (webDriverTemplate (optionByLabel c) ρ).map
      (fun line => line.flatMap (Slot.render (stepEnv ⟨.webDriver, r, timing⟩ c))) := by
  have hspace : " ".toList = [' '] := toList_eq_of_eq_ofList rfl
  cases ρ
  case select => exact webDriver_select_lines_eq hρ h
  case storeAttribute => exact webDriver_storeAttribute_lines_eq hρ h
  -- the rules that look nothing up write their texts as they are
  case openUrl | waitForTextPresent | waitForTextNotPresent | assertAlert | assertTextPresent |
      assertTextNotPresent | runScript =>
    simp only [WebDriver.Rule.lines, Except.ok.injEq] at h
    subst h
    simp [webDriverTemplate, callOf, waitUntilOf, indent, bodyTextPositionOf, lit, recv, stepEnv,
      Slot.render, Php.call, Php.assertTrue, Php.assertFalse, WebDriver.waitUntil,
      WebDriver.isTextPresent, WebDriver.bodyTextPosition, Php.indentLines, String.toList_append,
      hspace, -String.reduceToList, -String.reduceAppend]
  -- the rest look the target up first and write the lookup into fixed code
  all_goals
    simp only [WebDriver.Rule.lines, Except.bind_eq_ok_iff, find_eq_ok_iff] at h
    obtain ⟨_, ⟨l, hl, rfl⟩, h⟩ := h
    simp only [pure, Except.pure, Except.ok.injEq] at h
    subst h
    have hloc : lookupLocator? c = some l := by
      simp [lookupLocator?, lookupTarget_of_ne_store hρ (by decide), hl, Except.toOption]
    simp [webDriverTemplate, lookupOn, waitUntilOf, noSuchElementIsSuccessOf, indent, textMatchesOf,
      textDiffersOf, lit, recv, stepEnv, Slot.render, hloc, Locator.toPhp, Php.assertTrue,
      WebDriver.waitUntil, WebDriver.noSuchElementIsSuccess, WebDriver.textMatches,
      WebDriver.textDiffers, Php.indentLines, String.toList_append, hspace, -String.reduceToList,
      -String.reduceAppend]

end WebDriverLines

/-- A remote-control rule's lines are its template filled with the step's texts, for a
target without `?`, which the confirmation rules turn into a pattern. -/
theorem legacy_lines_eq (ρ : Legacy.Rule) (r : String) (timing : Timing) (c : Command)
    (hq : '?' ∉ c.targetText.toList) :
    (ρ.lines r timing c).map String.toList = (legacyTemplate ρ).map
      (fun line => line.flatMap (Slot.render (stepEnv ⟨.legacy, r, timing⟩ c))) := by
  cases ρ <;>
  simp only [Legacy.Rule.lines, legacyTemplate, callOf, callExprOf, waitLoopOf, confirmationOf,
    Legacy.waitLoop, Legacy.elementPresent, Legacy.textPresent, Legacy.confirmationMatches,
    patternMatch_eq, patternToRegex_of_not_mem hq, Php.call, Php.callExpr, Php.assertTrue,
    Php.assertFalse, lit, recv, stepEnv, Slot.render, Bool.false_eq_true, if_false, if_true,
    List.map_cons, List.map_nil, List.cons_append, List.nil_append, List.flatMap_cons,
    List.flatMap_nil, String.toList_append, List.append_assoc, List.append_nil]

/-- The direct call is its template, whose shape follows the arguments present. -/
theorem call_eq (t : Translator) (c : Command) :
    (Php.call t.receiver c.name c.target c.value).toList =
      (callOf (.hole .command) c.target.isSome c.value.isSome).flatMap (Slot.render (stepEnv t c)) := by
  obtain ⟨name, target, value⟩ := c
  cases target <;> cases value <;>
  simp [Php.call, callOf, lit, recv, stepEnv, Slot.render, Command.targetText, Command.valueText,
    String.toList_append, -String.reduceToList, -String.reduceAppend]

/-- A step's translated lines are its template's lines filled with its texts. -/
theorem translate_lines_eq {t : Translator} {c : Command} {ls : List String}
    (h : t.translate c = .ok ls) (hq : '?' ∉ c.targetText.toList) :
    ls.map String.toList = (stepTemplate t c).map fun line => line.flatMap (Slot.render (stepEnv t c)) := by
  obtain ⟨v, r, timing⟩ := t
  cases v with
  | legacy =>
    simp only [Translator.translate, Legacy.translate, Except.ok.injEq] at h
    subst h
    unfold stepTemplate
    cases hρ : Legacy.Rule.ofName? c.name with
    | some ρ => exact legacy_lines_eq ρ r timing c hq
    | none => simpa using call_eq ⟨.legacy, r, timing⟩ c
  | webDriver =>
    simp only [Translator.translate, WebDriver.translate] at h
    unfold stepTemplate
    cases hρ : WebDriver.Rule.ofName? c.name with
    | some ρ =>
      rw [hρ] at h
      exact webDriver_lines_eq hρ h
    | none =>
      rw [hρ, Except.ok.injEq] at h
      subst h
      simpa using call_eq ⟨.webDriver, r, timing⟩ c

/-- A step's translated lines, joined, are its template filled with its texts. -/
theorem joinLines_translate {t : Translator} {c : Command} {ls : List String}
    (h : t.translate c = .ok ls) (hq : '?' ∉ c.targetText.toList) :
    joinLines ls = (stepTemplate t c).render (stepEnv t c) :=
  joinLines_eq_render (translate_lines_eq h hq)

end Transcribe
