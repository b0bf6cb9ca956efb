/-!
# `Decimal.Shortest` — the shortest decimal that reads back as a double

A finite double is `m · 2^e`. The reals that round to it under round-to-nearest-even
form an interval around it: half a unit of the last place on each side, where the
unit below is half as large at the bottom of a binade, and the ends belong to the
interval exactly when `m` is even.

`shortest` finds the fewest significant decimal digits whose value lies in that
interval. For `k = 1, 2, …, 17` it looks at the grid of `k`-digit decimals around the
value: only the two grid points next to the value can be the nearest hit, so those
two are tested, in exact natural-number arithmetic. The first grid with a hit wins;
of two hits the nearer, and of two equally near the upper. Seventeen digits always
hit.

`FloatFormat` then writes the digits: positionally when the decimal point falls
within the format's bounds, else as `d.ddde±x` (the plus sign of a positive exponent
written or not, as the format says); a whole number keeps a `.0`.
-/

namespace Transcribe.Decimal

/-- A double taken apart. -/
inductive Parts where
  /-- `(-1)^negative · mantissa · 2^exponent`. -/
  | finite (negative : Bool) (mantissa : Nat) (exponent : Int)
  | infinite (negative : Bool)
  | nan
  deriving DecidableEq, Repr

/-- Takes a double apart from its bits. -/
def parts (f : Float) : Parts :=
  let bits := f.toBits.toNat
  let negative := bits / Nat.pow 2 63 == 1
  let biased : Nat := (bits / Nat.pow 2 52) % 2048
  let fraction : Nat := bits % Nat.pow 2 52
  if biased == 2047 then (if fraction == 0 then .infinite negative else .nan)
  else if biased == 0 then .finite negative fraction (-1074)
  else .finite negative (fraction + Nat.pow 2 52) ((biased : Int) - 1075)

/-- `10^n` for an integer `n ≥ 0`, else `1`. -/
def pow10 (n : Int) : Nat := Nat.pow 10 n.toNat

/-- The decimal exponent of `num / den > 0`: the `E` with `10^E ≤ num/den < 10^(E+1)`.
Below one it searches at most `fuel` places. -/
def decimalExponent (num den : Nat) : Int :=
  if den ≤ num then ((toString (num / den)).length : Int) - 1
  else go 1 400
where
  go (j : Nat) : Nat → Int
    | 0 => -(j : Int)
    | fuel + 1 => if den ≤ num * Nat.pow 10 j then -(j : Int) else go (j + 1) fuel

/-- Significant digits `digits · 10^exp`. -/
structure Digits where
  digits : Nat
  exp : Int
  deriving DecidableEq, Repr

/-- The shortest digits of `m · 2^e`, for `m > 0`, that round back to it. -/
def shortest (m : Nat) (e : Int) : Digits :=
  -- All values are numerators over the denominator `den`.
  let up := Nat.pow 2 e.toNat
  let den := 4 * Nat.pow 2 (-e).toNat
  let x := 4 * m * up
  let hi := (4 * m + 2) * up
  let lo := (if m == Nat.pow 2 52 && e > -1074 then 4 * m - 1 else 4 * m - 2) * up
  let inclusive := m % 2 == 0
  -- `d · 10^p` compared with `n / den`, by cross-multiplying.
  let scaled (d : Nat) (p : Int) : Nat := d * pow10 p * den
  let scaledN (n : Nat) (p : Int) : Nat := n * pow10 (-p)
  let inside (d : Nat) (p : Int) : Bool :=
    let c := scaled d p
    (if inclusive then scaledN lo p ≤ c else scaledN lo p < c) &&
      (if inclusive then c ≤ scaledN hi p else c < scaledN hi p)
  let bigE := decimalExponent x den
  let pick (k : Nat) : Option Digits :=
    let p : Int := bigE - k + 1
    let dlo := x * pow10 (-p) / (den * pow10 p)
    let dhi := dlo + 1
    match inside dlo p, inside dhi p with
    | true, true =>
      -- the nearer of the two, the upper on a tie
      if 2 * scaledN x p < scaled dlo p + scaled dhi p then some ⟨dlo, p⟩ else some ⟨dhi, p⟩
    | true, false => some ⟨dlo, p⟩
    | false, true => some ⟨dhi, p⟩
    | false, false => none
  let found := (List.range 17).findSome? fun i => pick (i + 1)
  found.getD ⟨x * pow10 (16 - bigE) / (den * pow10 (bigE - 16)), bigE - 16⟩

/-- The digits without trailing zeros, with the exponent of the last digit. -/
def Digits.trimmed (d : Digits) : List Char × Int :=
  let ds := (toString d.digits).toList
  let kept := (ds.reverse.dropWhile (· == '0')).reverse
  (kept, d.exp + (ds.length - kept.length : Nat))

/-- How a double is written: positionally when the decimal point's position (the number
of digits before it) lies in `[minPosition, maxPosition]`, else with an exponent. -/
structure FloatFormat where
  minPosition : Option Int
  maxPosition : Option Int
  /-- Whether a positive exponent is written with a plus sign. -/
  exponentPlus : Bool := false
  deriving DecidableEq, Repr

/-- Always positional. -/
def FloatFormat.positional : FloatFormat := ⟨none, none, false⟩

/-- Positional for positions `-4` to `16`, with a signed exponent beyond. -/
def FloatFormat.compact : FloatFormat := ⟨some (-4), some 16, true⟩

/-- `n` zeros. -/
def zeros (n : Nat) : List Char := List.replicate n '0'

/-- Writes digits `ds` (no trailing zeros) whose last digit has exponent `p`. -/
def FloatFormat.digitsText (fmt : FloatFormat) (ds : List Char) (p : Int) : String :=
  let len : Int := ds.length
  let position := len + p
  let within := (fmt.minPosition.all (· ≤ position)) && (fmt.maxPosition.all (position ≤ ·))
  if within then
    if 0 ≤ p then String.ofList (ds ++ zeros p.toNat ++ ['.', '0'])
    else if 0 < position then
      String.ofList (ds.take position.toNat ++ ['.'] ++ ds.drop position.toNat)
    else String.ofList (['0', '.'] ++ zeros (-position).toNat ++ ds)
  else
    let mantissa := match ds with
      | [d] => [d]
      | d :: rest => d :: '.' :: rest
      | [] => ['0']
    let exponent := position - 1
    String.ofList mantissa ++ "e" ++ (if fmt.exponentPlus && 0 ≤ exponent then "+" else "") ++
      toString exponent

/-- The text of a double in a format. -/
def FloatFormat.text (fmt : FloatFormat) (f : Float) : String :=
  match parts f with
  | .nan => "NaN"
  | .infinite neg => if neg then "-inf" else "inf"
  | .finite neg m e =>
    let sign := if neg then "-" else ""
    if m == 0 then sign ++ "0.0"
    else
      let (ds, p) := (shortest m e).trimmed
      sign ++ fmt.digitsText ds p

end Transcribe.Decimal
