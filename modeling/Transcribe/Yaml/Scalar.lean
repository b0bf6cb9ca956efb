import Transcribe.Decimal.Nearest
/-!
# `Yaml.Scalar` — what a plain scalar stands for

A plain (unquoted, untagged) scalar is read by the YAML 1.2 core schema: empty, `~`
and `null` in three spellings are null; `true` and `false` in three spellings are
truth values; then integers, floats, and everything else is text.

Integers are decimal, or hexadecimal, octal or binary after `0x`, `0o`, `0b`; a
leading `+` is allowed, and a `-` before a negative one. Digits are read as integer
types read them: a sign (a minus only for signed types), then at least one digit,
and the value must fit the type. A number with leading zeros, such as `007`, is text,
not an integer and not a float. An integer is the first of: 64-bit unsigned, 64-bit
signed, 128-bit unsigned, 128-bit signed.

Floats are decimals with an optional fraction and exponent, or `.inf`, `-.inf` and
`.nan` in three spellings; a decimal that would be infinite as a double is not a
float.
-/

namespace Transcribe.Yaml

open Transcribe.Decimal

/-- The spellings of null. -/
def isNullText (s : String) : Bool := s == "null" || s == "Null" || s == "NULL" || s == "~"

/-- The spellings of the truth values. -/
def boolOfText? (s : String) : Option Bool :=
  if s == "true" || s == "True" || s == "TRUE" then some true
  else if s == "false" || s == "False" || s == "FALSE" then some false
  else none

/-- The value of a digit in a radix: `0`–`9`, then letters of either case. -/
def digitValue? (radix : Nat) (c : Char) : Option Nat :=
  let v :=
    if c.isDigit then some (c.toNat - '0'.toNat)
    else if 'a' ≤ c && c ≤ 'z' then some (c.toNat - 'a'.toNat + 10)
    else if 'A' ≤ c && c ≤ 'Z' then some (c.toNat - 'A'.toNat + 10)
    else none
  match v with
  | some d => if d < radix then some d else none
  | none => none

/-- The value of a nonempty run of digits. -/
def digitsValue? (radix : Nat) (cs : List Char) : Option Nat :=
  if cs.isEmpty then none
  else cs.foldlM (fun acc c => (acc * radix + ·) <$> digitValue? radix c) 0

/-- Reads an integer of `bits` bits as integer types read text. -/
def readInteger? (signed : Bool) (bits radix : Nat) (cs : List Char) : Option Int :=
  let (negative, digits) := match cs with
    | '+' :: rest => (false, rest)
    | '-' :: rest => if signed then (true, rest) else (false, cs)
    | _ => (false, cs)
  match digitsValue? radix digits with
  | none => none
  | some n =>
    let v : Int := if negative then -(n : Int) else n
    if signed then (if -(Int.pow 2 (bits - 1)) ≤ v && v < Int.pow 2 (bits - 1) then some v else none)
    else if v < Int.pow 2 bits then some v else none

/-- Leading zeros followed by digits only: text by the core schema. -/
def digitsButNotNumber (s : String) : Bool :=
  let cs := match s.toList with
    | '-' :: rest => rest
    | '+' :: rest => rest
    | cs => cs
  match cs with
  | '0' :: rest => !rest.isEmpty && rest.all Char.isDigit
  | _ => false

/-- Whether a list of characters starts with a sign. -/
def startsWithSign (cs : List Char) : Bool := cs.head? == some '+' || cs.head? == some '-'

/-- A nonnegative integer below `2^bits`. -/
def unsignedOfText? (bits : Nat) (s : String) : Option Nat :=
  let cs := s.toList
  let unpositive := match cs with
    | '+' :: rest => rest
    | _ => cs
  let radixed (marker : List Char) (radix : Nat) : Option (Option Nat) :=
    if marker.isPrefixOf unpositive then
      let rest := unpositive.drop 2
      if startsWithSign rest then some none
      else (fun n => some n.toNat) <$> readInteger? false bits radix rest
    else none
  match radixed ['0', 'x'] 16 with
  | some r => r
  | none => match radixed ['0', 'o'] 8 with
    | some r => r
    | none => match radixed ['0', 'b'] 2 with
      | some r => r
      | none =>
        if startsWithSign unpositive || digitsButNotNumber s then none
        else Int.toNat <$> readInteger? false bits 10 unpositive

/-- A signed integer of `bits` bits, in particular a negative one. -/
def signedOfText? (bits : Nat) (s : String) : Option Int :=
  let cs := s.toList
  let radixed (marker : List Char) (radix : Nat) : Option Int :=
    if marker.isPrefixOf cs then readInteger? true bits radix ('-' :: cs.drop 3) else none
  match radixed ['-', '0', 'x'] 16 with
  | some n => some n
  | none => match radixed ['-', '0', 'o'] 8 with
    | some n => some n
    | none => match radixed ['-', '0', 'b'] 2 with
      | some n => some n
      | none => if digitsButNotNumber s then none else readInteger? true bits 10 cs

/-- A decimal: sign, digits with an optional point, an optional exponent. The value is
`digits · 10^exp`. -/
def decimalOfText? (cs : List Char) : Option (Bool × Nat × Int) :=
  let (negative, cs) := match cs with
    | '+' :: rest => (false, rest)
    | '-' :: rest => (true, rest)
    | _ => (false, cs)
  let whole := cs.takeWhile Char.isDigit
  let cs := cs.drop whole.length
  let (fraction, cs) := match cs with
    | '.' :: rest => (rest.takeWhile Char.isDigit, rest.drop (rest.takeWhile Char.isDigit).length)
    | _ => ([], cs)
  if whole.isEmpty && fraction.isEmpty then none
  else
    let exponent : Option Int := match cs with
      | [] => some 0
      | e :: rest =>
        if e != 'e' && e != 'E' then none
        else
          let (neg, ds) := match rest with
            | '+' :: ds => (false, ds)
            | '-' :: ds => (true, ds)
            | ds => (false, ds)
          if ds.isEmpty || !ds.all Char.isDigit then none
          else
            let n : Int := (digitsValue? 10 ds).getD 0
            some (if neg then -n else n)
    match exponent with
    | none => none
    | some x =>
      let digits := (digitsValue? 10 (whole ++ fraction)).getD 0
      some (negative, digits, x - fraction.length)

/-- A finite float, or one of the spelled-out infinities and NaN. -/
def floatOfText? (s : String) : Option Float :=
  let cs := s.toList
  let unpositive := match cs with
    | '+' :: rest => if startsWithSign rest then none else some rest
    | _ => some cs
  match unpositive with
  | none => none
  | some u =>
    let us := String.ofList u
    if us == ".inf" || us == ".Inf" || us == ".INF" then some infinity
    else if s == "-.inf" || s == "-.Inf" || s == "-.INF" then some (-infinity)
    else if s == ".nan" || s == ".NaN" || s == ".NAN" then some (Float.ofBits 0x7FF8000000000000)
    else match decimalOfText? u with
      | some (negative, digits, exp) =>
        let f := nearest digits exp
        if f.isFinite then some (if negative then -f else f) else none
      | none => none

/-- What a plain scalar stands for. -/
inductive Plain where
  | null
  | bool (b : Bool)
  /-- An integer that fits 64 bits unsigned. -/
  | unsigned (n : Nat)
  /-- A negative integer that fits 64 bits signed. -/
  | signed (n : Int)
  /-- An integer that fits 128 bits unsigned only. -/
  | wideUnsigned (n : Nat)
  /-- An integer that fits 128 bits signed only. -/
  | wideSigned (n : Int)
  | float (f : Float)
  | text (s : String)
  deriving Repr

/-- The integer a text stands for, if any. -/
def integerOfText? (s : String) : Option Plain :=
  match unsignedOfText? 64 s with
  | some n => some (.unsigned n)
  | none => match signedOfText? 64 s with
    | some n => some (.signed n)
    | none => match unsignedOfText? 128 s with
      | some n => some (.wideUnsigned n)
      | none => (fun n => .wideSigned n) <$> signedOfText? 128 s

/-- Resolves a plain scalar by the core schema. -/
def Plain.resolve (s : String) : Plain :=
  if s.isEmpty || isNullText s then .null
  else match boolOfText? s with
    | some b => .bool b
    | none => match integerOfText? s with
      | some p => p
      | none =>
        match (if digitsButNotNumber s then none else floatOfText? s) with
        | some f => .float f
        | none => .text s

end Transcribe.Yaml
