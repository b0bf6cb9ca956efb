import Transcribe.Config.Fields
import Transcribe.Config.Data
/-!
# `Config.OfData` — a configuration from a data value

A configuration is a map from setting names to values; names it does not know are
ignored and settings it does not name keep their defaults. Entries are read in the
map's order and the first refused value decides the error. A list instead of a map
gives the settings in declaration order; missing ones keep their defaults and a list
longer than the settings is refused after its settings are read. The timing settings
are read the same way.

Each kind of setting takes: a text, only a text; an optional setting, null for nothing;
a number, an integer in its range (a negative or too large one is out of range, a
float is of the wrong kind); a list of texts, a list; the variant, its name, or a map
from its name to null.
-/

namespace Transcribe

/-- A text. -/
def Data.toText (expected : String) : Data → Except DecodeError String
  | .str s => .ok s
  | d => .error (.invalidType d.found expected)

/-- A number below `2^bits`; `name` names the type in messages. -/
def Data.toUnsigned (bits : Nat) (name : String) : Data → Except DecodeError Nat
  | .nat n => if n < Nat.pow 2 bits then .ok n else .error (.invalidValue (.unsigned n) name)
  | .neg n => .error (.invalidValue (.signed n) name)
  | d => .error (.invalidType d.found name)

/-- A truth value. -/
def Data.toFlag : Data → Except DecodeError Bool
  | .bool b => .ok b
  | d => .error (.invalidType d.found "a boolean")

/-- A list of texts. -/
def Data.toLines : Data → Except DecodeError (List String)
  | .seq items => items.mapM (Data.toText "a string")
  | d => .error (.invalidType d.found "a sequence")

/-- A variant, by name or as a map from its name to null. -/
def Data.toVariant : Data → Except DecodeError Variant
  | .str s =>
    match Variant.ofName? s with
    | some v => .ok v
    | none => .error (.unknownVariant s variantNames)
  | .map [(k, v)] =>
    match Variant.ofName? k with
    | none => .error (.unknownVariant k variantNames)
    | some x =>
      match v with
      | .null => .ok x
      | d => .error (.invalidType d.found "unit")
  | .map _ => .error (.invalidValue .map "map with a single key")
  | d => .error (.invalidType d.found "string or map")

/-- Null for nothing, else a value. -/
def Data.toOption {α : Type} (f : Data → Except DecodeError α) : Data → Except DecodeError (Option α)
  | .null => .ok none
  | d => some <$> f d

/-- Reads a record: map entries by name, or list items in declaration order. -/
def Data.toRecord {σ : Type} (name : String) (fields : List String)
    (set : σ → String → Data → Except DecodeError σ) (init : σ) : Data → Except DecodeError σ
  | .map entries =>
    entries.foldlM (fun acc e => if fields.contains e.1 then set acc e.1 e.2 else pure acc) init
  | .seq items => do
    let acc ← (fields.zip items).foldlM (fun acc e => set acc e.1 e.2) init
    if fields.length < items.length then
      throw (.invalidLength items.length "fewer elements in array")
    pure acc
  | d => .error (.invalidType d.found ("struct " ++ name))

/-- Reads the timing settings. -/
def Data.toTiming (d : Data) : Except DecodeError Timing :=
  d.toRecord "Timing" (timingFields.map (·.1))
    (fun t name v => do
      let bits := (timingFields.lookup name).getD 64
      let n ← v.toUnsigned bits ("u" ++ toString bits)
      pure (t.setField name n))
    {} 

/-- Reads a setting of a kind. -/
def Data.toField (d : Data) : FieldKind → Except DecodeError FieldValue
  | .variant => .variant <$> d.toVariant
  | .text => .text <$> d.toText "a string"
  | .optText => .optText <$> d.toOption (Data.toText "a string")
  | .optPort => .optPort <$> d.toOption fun x => (·.toUInt16) <$> x.toUnsigned 16 "u16"
  | .lines => .lines <$> d.toLines
  | .optPath => .optText <$> d.toOption (Data.toText "path string")
  | .flag => .flag <$> d.toFlag
  | .timing => .timing <$> d.toTiming

/-- Reads a configuration. -/
def Config.ofData (d : Data) : Except DecodeError Config :=
  d.toRecord "ConverterConfig" (configFields.map (·.1))
    (fun c name v => do
      let kind := (configFields.lookup name).getD .text
      let x ← v.toField kind
      pure (c.setField name x))
    {}

end Transcribe
