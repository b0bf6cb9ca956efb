import Transcribe.Decimal.Shortest
import Transcribe.Text.Quoted
/-!
# `Config.Data` — values a configuration is read from, and why they are refused

`Data` is a value of a data format such as JSON: null, a truth value, a number, a text,
a list or a map with text keys. Integers from `0` to `2^64 - 1` are `nat`, negative
ones down to `-2^63` are `neg`, and every other number is a `float`.

When a value is not of the kind a setting takes, the message names what was found
(`Found`) and what was expected. How a found value is described depends on the
format (`FoundStyle`): a JSON null is `null` and its numbers are written compactly,
while a YAML null is a `unit value` and its numbers are written positionally.
-/

namespace Transcribe

open Transcribe.Decimal Transcribe.Text

/-- A value of a data format. -/
inductive Data where
  | null
  | bool (b : Bool)
  | nat (n : Nat)
  | neg (n : Int)
  | float (f : Float)
  | str (s : String)
  | seq (items : List Data)
  | map (entries : List (String × Data))
  deriving Repr, Inhabited

/-- What a reader found where it expected something else. -/
inductive Found where
  | unit
  | bool (b : Bool)
  | unsigned (n : Nat)
  | signed (n : Int)
  | float (f : Float)
  | str (s : String)
  | seq
  | map
  /-- Something else, described in full. -/
  | other (description : String)
  deriving Repr

/-- How a data format describes what was found. -/
structure FoundStyle where
  /-- The description of a null. -/
  unit : String
  /-- How floating-point numbers are written. -/
  floats : FloatFormat

/-- JSON's descriptions. -/
def FoundStyle.json : FoundStyle := ⟨"null", .compact⟩

/-- YAML's descriptions. -/
def FoundStyle.yaml : FoundStyle := ⟨"unit value", .positional⟩

/-- The description of a found value. -/
def Found.describe (style : FoundStyle) : Found → String
  | .unit => style.unit
  | .bool b => "boolean `" ++ toString b ++ "`"
  | .unsigned n => "integer `" ++ toString n ++ "`"
  | .signed n => "integer `" ++ toString n ++ "`"
  | .float f => "floating point `" ++ style.floats.text f ++ "`"
  | .str s => "string " ++ quoteEscaped s
  | .seq => "sequence"
  | .map => "map"
  | .other d => d

/-- What a data value is, for messages. -/
def Data.found : Data → Found
  | .null => .unit
  | .bool b => .bool b
  | .nat n => .unsigned n
  | .neg n => .signed n
  | .float f => .float f
  | .str s => .str s
  | .seq _ => .seq
  | .map _ => .map

/-- Why a value cannot be read as a setting. -/
inductive DecodeError where
  /-- A value of the wrong kind. -/
  | invalidType (found : Found) (expected : String)
  /-- A value of the right kind out of range. -/
  | invalidValue (found : Found) (expected : String)
  /-- A list of the wrong length. -/
  | invalidLength (length : Nat) (expected : String)
  /-- A variant name that is not known. -/
  | unknownVariant (name : String) (expected : List String)
  /-- A setting given twice. -/
  | duplicateField (name : String)
  deriving Repr

/-- Names in backquotes, joined as a message lists alternatives. -/
def oneOf (names : List String) : String :=
  match names with
  | [] => "nothing"
  | [a] => "`" ++ a ++ "`"
  | [a, b] => "`" ++ a ++ "` or `" ++ b ++ "`"
  | _ => "one of " ++ ", ".intercalate (names.map fun n => "`" ++ n ++ "`")

/-- The message of a decoding error. -/
def DecodeError.message (style : FoundStyle) : DecodeError → String
  | .invalidType f e => "invalid type: " ++ f.describe style ++ ", expected " ++ e
  | .invalidValue f e => "invalid value: " ++ f.describe style ++ ", expected " ++ e
  | .invalidLength n e => "invalid length " ++ toString n ++ ", expected " ++ e
  | .unknownVariant n vs => "unknown variant `" ++ n ++ "`, expected " ++ oneOf vs
  | .duplicateField n => "duplicate field `" ++ n ++ "`"

end Transcribe
