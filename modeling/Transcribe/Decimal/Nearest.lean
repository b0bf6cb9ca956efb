import Transcribe.Decimal.Shortest
/-!
# `Decimal.Nearest` — the double nearest to a decimal

Reading a decimal number as a double rounds it to the nearest double, and a value
halfway between two doubles to the one with an even mantissa. Here this is done in
exact natural-number arithmetic: for a positive rational `num / den`, find the binary
exponent `k` that leaves 53 significant bits (never below the subnormal exponent
`-1074`), divide, and round the quotient by comparing twice the remainder with the
divisor. The double is then assembled from its bits, the inverse of `parts`.

Decimals with a decimal exponent far out of range are settled before any power of ten
is formed: above `10^311` every value is infinite, below `10^-330` every value rounds
to zero.
-/

namespace Transcribe.Decimal

/-- `⌊log₂ (num / den)⌋` for `num, den > 0`. -/
def binaryExponent (num den : Nat) : Int :=
  let t : Int := (num.log2 : Int) - (den.log2 : Int)
  let fits := if 0 ≤ t then den * Nat.pow 2 t.toNat ≤ num else den ≤ num * Nat.pow 2 (-t).toNat
  if fits then t else t - 1

/-- The bits of the double nearest to `num / den` (both positive), ties to even. -/
def nearestBits (num den : Nat) : Nat :=
  let k := max (binaryExponent num den - 52) (-1074)
  let n := num * Nat.pow 2 (-k).toNat
  let d := den * Nat.pow 2 k.toNat
  let q := n / d
  let r := n % d
  let q := if d < 2 * r || (2 * r == d && q % 2 == 1) then q + 1 else q
  -- rounding up to `2^53` moves to the next binade
  let (q, k) := if q == Nat.pow 2 53 then (Nat.pow 2 52, k + 1) else (q, k)
  if q < Nat.pow 2 52 then q
  else
    let biased := k + 1075
    if 2047 ≤ biased then 2047 * Nat.pow 2 52
    else biased.toNat * Nat.pow 2 52 + (q - Nat.pow 2 52)

/-- The positive infinite double. -/
def infinity : Float := Float.ofBits 0x7FF0000000000000

/-- The double nearest to `digits · 10^exp`, ties to even. -/
def nearest (digits : Nat) (exp : Int) : Float :=
  if digits == 0 then Float.ofBits 0
  else
    let size : Int := (toString digits).length
    if 311 < size + exp then infinity
    else if size + exp < -330 then Float.ofBits 0
    else Float.ofBits (nearestBits (digits * pow10 exp) (pow10 (-exp))).toUInt64

end Transcribe.Decimal
