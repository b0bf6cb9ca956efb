import Transcribe.Proofs.Refusal
/-!
# `Proofs.WaitClosures` — a WebDriver wait is one `waitUntil` around a closure on `$testCase`

The six WebDriver waits wrap the code that polls the page in a closure handed to
`waitUntil`. The closure receives the test case as `$testCase` and must look the page up
on it, not on the receiver the translator was configured with, which the closure cannot see.

## What is proved, with every binder written out

`waits_look_up_on_testCase`: for every wait command `name` (`waitCommands`) and every value
`v` there is one closure body `body`, a list of lines built around a text `s`, such that for
every target `t`, every receiver `r` and every timing `T`

    translate r T ⟨name, t, v⟩ = (closureLookup ⟨name, t, v⟩).map fun s =>
      [r ++ "->waitUntil(function($testCase) {"] ++ (body s).map ("    " ++ ·) ++
        ["}, " ++ decimal T.waitUntilTimeoutMs ++ ");"]

and `s` stands in one of the lines of `body s`; for `waitForText` and `waitForNotText` the
value stands in one of them too. `closureLookup` is the lookup made on
`$testCase`: the element the target names, or for the two text waits the page body in which
the target is searched. So

* the output is the `waitUntil` frame with the configured timeout, the body indented by four
  spaces;
* the receiver reaches the first line only: for two receivers the outputs differ in their
  first line alone (`wait_outputs_differ_in_first_line`), and a wait is refused for one
  receiver exactly when it is for the other, with the same error;
* the target reaches the closure only through its lookup on `$testCase`, which is written
  into the body as it is, and the value of a text wait is written into the body as it is, so
  a target or a value holding `$this` or `$testCase` keeps that text.

## What it is NOT

It does not read the body as PHP: what the conditions of `waitForText` and `waitForNotText`
mean is `Proofs.TextConditions`, and text that breaks out of a literal is `Proofs.RecordedText`.
-/

namespace Transcribe.Translate.WebDriver

open Transcribe.Php

/-- The command names of the six waits. -/
def waitCommands : List String :=
  ["waitForElementPresent", "waitForElementNotPresent", "waitForTextPresent",
   "waitForTextNotPresent", "waitForText", "waitForNotText"]

/-- What a wait's closure looks up on its receiver `$testCase`: the page body, in which the
two text waits search their target, or the element that the target names. -/
def closureLookup (c : Command) : Except TargetError String :=
  if c.name = "waitForTextPresent" ∨ c.name = "waitForTextNotPresent" then
    .ok (bodyTextPosition closureReceiver c.targetText)
  else find c.targetText closureReceiver

/-- The frame of a wait: the opening line on the receiver, the body indented by four spaces,
and the closing line with the timeout in decimal. -/
theorem waitUntil_eq (r : String) (T : Timing) (body : List String) :
    waitUntil r T body = [r ++ "->waitUntil(function($testCase) \x7b"] ++ body.map ("    " ++ ·) ++
      ["\x7d, " ++ Nat.repr T.waitUntilTimeoutMs.toNat ++ ");"] := by
  simp only [waitUntil, indentLines_four, closureReceiver, String.append_assoc, String.reduceAppend]
  rfl

/-- A text stands in a list of lines when a line is the text with something around it. -/
theorem stands_in {s : String} {body : List String} (pre post : String)
    (h : pre ++ s ++ post ∈ body) : ∃ line ∈ body, ∃ pre post, line = pre ++ s ++ post :=
  ⟨_, h, pre, post, rfl⟩

/-- Every wait is the `waitUntil` frame on the receiver around one body, which depends on the
target only through the lookup that the closure makes on `$testCase` and holds that lookup;
the two waits that compare an element's text with the value hold the value as it is. -/
theorem waits_look_up_on_testCase {name : String} (hname : name ∈ waitCommands)
    (value : Option String) :
    ∃ body : String → List String,
      (∀ s, ∃ line ∈ body s, ∃ pre post, line = pre ++ s ++ post) ∧
      (name = "waitForText" ∨ name = "waitForNotText" →
        ∀ s, ∃ line ∈ body s, ∃ pre post, line = pre ++ value.getD "" ++ post) ∧
      ∀ (target : Option String) (r : String) (T : Timing),
        translate r T ⟨name, target, value⟩ = (closureLookup ⟨name, target, value⟩).map fun s =>
          [r ++ "->waitUntil(function($testCase) \x7b"] ++ (body s).map ("    " ++ ·) ++
            ["\x7d, " ++ Nat.repr T.waitUntilTimeoutMs.toNat ++ ");"] := by
  simp only [← waitUntil_eq]
  simp only [waitCommands, List.mem_cons, List.not_mem_nil, or_false] at hname
  -- in each case the body is read off the rule's lines by unification, before the target,
  -- the receiver and the timing are introduced, so that it cannot depend on them
  rcases hname with rfl | rfl | rfl | rfl | rfl | rfl
  · apply Exists.intro
    refine ⟨?lookup, ?value, ?frame⟩
    case frame =>
      intro target r T
      simp +decide only [translate, Rule.ofName?, Rule.lines, closureLookup, bind_pure_comp,
        if_false]
      rfl
    case lookup => exact fun s => stands_in "    $element = " "" (by simp)
    case value => exact fun h => absurd h (by decide)
  · apply Exists.intro
    refine ⟨?lookup, ?value, ?frame⟩
    case frame =>
      intro target r T
      simp +decide only [translate, Rule.ofName?, Rule.lines, closureLookup, bind_pure_comp,
        if_false]
      rfl
    case lookup => exact fun s => stands_in "    " "" (by simp)
    case value => exact fun h => absurd h (by decide)
  · apply Exists.intro
    refine ⟨?lookup, ?value, ?frame⟩
    case frame =>
      intro target r T
      simp +decide only [translate, Rule.ofName?, Rule.lines, closureLookup, if_true]
      -- the search in the page body is the lookup: the body is built around it
      generalize bodyTextPosition _ _ = s
      rfl
    case lookup => exact fun s => stands_in "if (" " !== false) \x7b" (by simp)
    case value => exact fun h => absurd h (by decide)
  · apply Exists.intro
    refine ⟨?lookup, ?value, ?frame⟩
    case frame =>
      intro target r T
      simp +decide only [translate, Rule.ofName?, Rule.lines, closureLookup, if_true]
      generalize bodyTextPosition _ _ = s
      rfl
    case lookup => exact fun s => stands_in "if (" " === false) \x7b" (by simp)
    case value => exact fun h => absurd h (by decide)
  · apply Exists.intro
    refine ⟨?lookup, ?value, ?frame⟩
    case frame =>
      intro target r T
      -- the value is read here, so that the body does not carry the target with it
      simp +decide only [translate, Rule.ofName?, Rule.lines, closureLookup, Command.valueText,
        bind_pure_comp, if_false]
      rfl
    case lookup => exact fun s => stands_in "$input = " "" (by simp)
    -- the value is the first text of the condition
    case value =>
      refine fun _ s => ⟨"if (" ++ textMatches (value.getD "") ++ ") \x7b", by simp,
        "if (" ++ "(\"", "\" === '' && $input->text() === '') || strpos($input->text(), \"" ++
          value.getD "" ++ "\") !== false" ++ ") \x7b", ?_⟩
      simp only [textMatches, String.append_assoc]
  · apply Exists.intro
    refine ⟨?lookup, ?value, ?frame⟩
    case frame =>
      intro target r T
      simp +decide only [translate, Rule.ofName?, Rule.lines, closureLookup, Command.valueText,
        bind_pure_comp, if_false]
      rfl
    case lookup => exact fun s => stands_in "    $input = " "" (by simp)
    case value =>
      refine fun _ s => ⟨"    if (" ++ textDiffers (value.getD "") ++ ") \x7b", by simp,
        "    if (" ++ "(\"", "\" === '' && $input->text() !== '') || strpos($input->text(), \"" ++
          value.getD "" ++ "\") === false" ++ ") \x7b", ?_⟩
      simp only [textDiffers, String.append_assoc]

/-- A target holding `$this` keeps it inside the lookup on `$testCase`. -/
example : translate "$this" {} ⟨"waitForElementPresent", some "xpath=//a[@title='$this']", none⟩ =
    .ok [ "$this->waitUntil(function($testCase) \x7b",
      "    try \x7b",
      "        $element = $testCase->byXPath(\"//a[@title='$this']\");",
      "        if ($element->displayed()) \x7b",
      "            return true;",
      "        \x7d",
      "    \x7d catch (PHPUnit_Extensions_Selenium2TestCase_WebDriverException $e) \x7b\x7d",
      "\x7d, 8000);" ] := by
  rfl

/-- `waitForText` with a value that names `$this`: the value stands in the closure as it is,
and the target's lookup on `$testCase` is the whole difference between two of its steps. -/
theorem text_wait_keeps_its_value :
    "waitForText" ∈ waitCommands ∧
      ∃ body : String → List String,
        (∀ s, ∃ line ∈ body s, ∃ pre post, line = pre ++ s ++ post) ∧
        ("waitForText" = "waitForText" ∨ "waitForText" = "waitForNotText" →
          ∀ s, ∃ line ∈ body s, ∃ pre post, line = pre ++ "$this->title" ++ post) ∧
        ∀ (target : Option String) (r : String) (T : Timing),
          translate r T ⟨"waitForText", target, some "$this->title"⟩ =
            (closureLookup ⟨"waitForText", target, some "$this->title"⟩).map fun s =>
              [r ++ "->waitUntil(function($testCase) \x7b"] ++ (body s).map ("    " ++ ·) ++
                ["\x7d, " ++ Nat.repr T.waitUntilTimeoutMs.toNat ++ ");"] :=
  ⟨by decide, waits_look_up_on_testCase (by decide) (some "$this->title")⟩

/-- For two receivers the lines of a wait differ in their first line alone, and the wait is
refused for both or for neither. -/
theorem wait_outputs_differ_in_first_line {c : Command} (hc : c.name ∈ waitCommands)
    (r₁ r₂ : String) (T : Timing) :
    (translate r₁ T c).map List.tail = (translate r₂ T c).map List.tail := by
  obtain ⟨name, target, value⟩ := c
  obtain ⟨body, -, -, h⟩ := waits_look_up_on_testCase hc value
  rw [h target r₁ T, h target r₂ T]
  cases closureLookup ⟨name, target, value⟩ <;> rfl

end Transcribe.Translate.WebDriver
