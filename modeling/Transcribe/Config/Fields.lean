import Transcribe.Config.Basic
/-!
# `Config.Fields` — the settings by name

Configuration files name settings in camel case. This module lists the names of the
settings of a conversion and of its timing, in the order they are declared (a
configuration may also be given as a list of values in this order), with the kind of
value each takes, and sets a setting by name.
-/

namespace Transcribe

/-- The kinds of value a setting takes. -/
inductive FieldKind where
  /-- `legacy`, `webdriver` or `selenium2`. -/
  | variant
  /-- A text. -/
  | text
  /-- A text or nothing. -/
  | optText
  /-- A number from 0 to 65535, or nothing. -/
  | optPort
  /-- A list of texts. -/
  | lines
  /-- A file path or nothing. -/
  | optPath
  /-- A truth value. -/
  | flag
  /-- The timing settings. -/
  | timing
  deriving DecidableEq, Repr

/-- A decoded setting. -/
inductive FieldValue where
  | variant (v : Variant)
  | text (s : String)
  | optText (o : Option String)
  | optPort (o : Option UInt16)
  | lines (l : List String)
  | flag (b : Bool)
  | timing (t : Timing)
  deriving DecidableEq, Repr

/-- The settings of a conversion in declaration order. -/
def configFields : List (String × FieldKind) :=
  [("variant", .variant), ("browser", .text), ("testUrl", .optText),
   ("defaultTestUrl", .text), ("defaultTestName", .text), ("remoteHost", .optText),
   ("remotePort", .optPort), ("classPrefix", .text), ("preClassLines", .lines),
   ("classBodyLines", .lines), ("parentClass", .optText), ("customParam1", .text),
   ("customParam2", .text), ("template", .optPath), ("eol", .text), ("commandEol", .optText),
   ("receiver", .text), ("continueOnError", .flag), ("timing", .timing)]

/-- Sets a setting by name; a value of another kind, or an unknown name, changes nothing. -/
def Config.setField (c : Config) (name : String) (v : FieldValue) : Config :=
  match name, v with
  | "variant", .variant x => { c with variant := x }
  | "browser", .text x => { c with browser := x }
  | "testUrl", .optText x => { c with testUrl := x }
  | "defaultTestUrl", .text x => { c with defaultTestUrl := x }
  | "defaultTestName", .text x => { c with defaultTestName := x }
  | "remoteHost", .optText x => { c with remoteHost := x }
  | "remotePort", .optPort x => { c with remotePort := x }
  | "classPrefix", .text x => { c with classPrefix := x }
  | "preClassLines", .lines x => { c with preClassLines := x }
  | "classBodyLines", .lines x => { c with classBodyLines := x }
  | "parentClass", .optText x => { c with parentClass := x }
  | "customParam1", .text x => { c with customParam1 := x }
  | "customParam2", .text x => { c with customParam2 := x }
  | "template", .optText x => { c with template := x }
  | "eol", .text x => { c with eol := x }
  | "commandEol", .optText x => { c with commandEol := x }
  | "receiver", .text x => { c with receiver := x }
  | "continueOnError", .flag x => { c with continueOnError := x }
  | "timing", .timing x => { c with timing := x }
  | _, _ => c

/-- The timing settings in declaration order, with their width in bits. -/
def timingFields : List (String × Nat) :=
  [("waitLoopIterations", 32), ("waitLoopIntervalSecs", 32), ("pageLoadTimeoutMs", 64),
   ("waitUntilTimeoutMs", 64)]

/-- Sets a timing setting by name; the number is taken modulo the field's width. -/
def Timing.setField (t : Timing) (name : String) (n : Nat) : Timing :=
  match name with
  | "waitLoopIterations" => { t with waitLoopIterations := n.toUInt32 }
  | "waitLoopIntervalSecs" => { t with waitLoopIntervalSecs := n.toUInt32 }
  | "pageLoadTimeoutMs" => { t with pageLoadTimeoutMs := n.toUInt64 }
  | "waitUntilTimeoutMs" => { t with waitUntilTimeoutMs := n.toUInt64 }
  | _ => t

/-- The names that the variant is written as. -/
def Variant.ofName? : String → Option Variant
  | "legacy" => some .legacy
  | "webdriver" => some .webDriver
  | "selenium2" => some .webDriver
  | _ => none

/-- The names of the variants as messages list them. -/
def variantNames : List String := ["legacy", "selenium2", "webdriver"]

/-- The variant's name in configurations. -/
def Variant.name : Variant → String
  | .legacy => "legacy"
  | .webDriver => "webdriver"

end Transcribe
