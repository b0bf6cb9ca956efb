import Transcribe.Text.Search
/-!
# `Locator` — how a target names an element

A target selects an element in one of five ways:

* a text that starts with `//` and has more after it is an XPath expression, whole;
* otherwise `prefix=rest`, where the prefix is the maximal run of lower-case ASCII
  letters at the start and the rest is everything after the `=` up to the first line
  feed, at least one character: `id`, `name`, `link` (link text), `xpath`, and `css`,
  whose rest has each `..` (left to right, without overlap) collapsed to `.`, as
  recorders double the dots of a CSS selector.

Any other target is refused. In WebDriver code a locator becomes a lookup call on a
receiver, `$this->byId("login");`.

The same module holds the errors of reading targets and values (`TargetError`).
-/

namespace Transcribe

open Transcribe.Text

/-- How an element is looked up. -/
inductive Strategy where
  | id
  | name
  | linkText
  | xpath
  | cssSelector
  deriving DecidableEq, Repr

/-- The test-case method that looks up an element by a strategy. -/
def Strategy.method : Strategy → String
  | .id => "byId"
  | .name => "byName"
  | .linkText => "byLinkText"
  | .xpath => "byXPath"
  | .cssSelector => "byCssSelector"

/-- A resolved target. -/
structure Locator where
  strategy : Strategy
  value : String
  deriving DecidableEq, Repr

/-- The lookup statement for a locator on a receiver. -/
def Locator.toPhp (l : Locator) (receiver : String) : String :=
  receiver ++ "->" ++ l.strategy.method ++ "(\"" ++ l.value ++ "\");"

/-- Why a step's target or value cannot be used. -/
inductive TargetError where
  /-- The target is no selector. -/
  | unknownSelector (selector : String)
  /-- The option of a `select` is neither `label=…` nor `value=…`. -/
  | unknownOptionSelector (option : String)
  /-- The target of `storeAttribute` has no `@attribute` at its end. -/
  | missingAttribute (target : String)
  deriving DecidableEq, Repr

/-- The message of a target error. -/
def TargetError.message : TargetError → String
  | .unknownSelector s => "Unknown selector '" ++ s ++ "'"
  | .unknownOptionSelector o => "Unknown option selector '" ++ o ++ "'"
  | .missingAttribute t => "Attribute locator '" ++ t ++ "' has no @attribute suffix"

/-- A lower-case ASCII letter. -/
def isLowerAscii (c : Char) : Bool := 'a' ≤ c && c ≤ 'z'

/-- A target in the form `prefix=rest`: the prefix and the rest up to the first line feed. -/
def prefixed? (cs : List Char) : Option (List Char × List Char) :=
  match cs.takeWhile isLowerAscii, cs.dropWhile isLowerAscii with
  | p@(_ :: _), '=' :: rest =>
    match rest.takeWhile (· != '\n') with
    | [] => none
    | r => some (p, r)
  | _, _ => none

/-- The strategy that a prefix names. -/
def Strategy.ofPrefix? : String → Option Strategy
  | "id" => some .id
  | "name" => some .name
  | "link" => some .linkText
  | "xpath" => some .xpath
  | "css" => some .cssSelector
  | _ => none

/-- Resolves a target into a locator. -/
def Locator.resolve (selector : String) : Except TargetError Locator :=
  match selector.toList with
  | '/' :: '/' :: _ :: _ => .ok ⟨.xpath, selector⟩
  | cs =>
    match prefixed? cs with
    | some (p, r) =>
      match Strategy.ofPrefix? (String.ofList p) with
      | some .cssSelector => .ok ⟨.cssSelector, replaceAll ".." "." (String.ofList r)⟩
      | some s => .ok ⟨s, String.ofList r⟩
      | none => .error (.unknownSelector selector)
    | none => .error (.unknownSelector selector)

example : (Locator.resolve "css=a..b").toOption = some ⟨.cssSelector, "a.b"⟩ := by decide +kernel
example : (Locator.resolve "//").toOption = none := by decide +kernel

end Transcribe
