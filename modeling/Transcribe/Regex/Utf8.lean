/-!
# `Regex.Utf8` — ranges of characters as ranges of bytes

A compiled pattern reads bytes, so a range of characters becomes ranges of UTF-8
bytes. The bytes of the characters of a range do not form one product of byte ranges
in general (`80`–`7FF` does not), so the range is split into pieces that do: each piece
has all its characters encoded in the same number of bytes, and is a product of byte
ranges, one per position.

The split follows the one the compiler makes, piece by piece in increasing order:

1. a range that spans the surrogates is cut around them;
2. a range that spans two encoding lengths is cut where the shorter one ends;
3. a range of ASCII is one piece of one byte;
4. a range whose characters differ in more than their last `6·i` bits is cut so that
   the lower part ends, or the upper part starts, on a multiple of `2^(6·i)`, for the
   least such `i` where a cut is needed;
5. what is left is the product of the ranges between the bytes of its ends.

Each cut leaves strictly shorter ranges, every range of code points is split in fewer
than a hundred steps, and the work list is given a fuel well above that.
-/

namespace Transcribe.Regex

/-- The UTF-8 bytes of a code point. -/
def utf8Bytes (n : Nat) : List Nat :=
  if n < 0x80 then [n]
  else if n < 0x800 then [0xC0 + n / 0x40, 0x80 + n % 0x40]
  else if n < 0x10000 then [0xE0 + n / 0x1000, 0x80 + n / 0x40 % 0x40, 0x80 + n % 0x40]
  else [0xF0 + n / 0x40000, 0x80 + n / 0x1000 % 0x40, 0x80 + n / 0x40 % 0x40, 0x80 + n % 0x40]

/-- The number of UTF-8 bytes of a code point. -/
def utf8Length (n : Nat) : Nat :=
  if n < 0x80 then 1 else if n < 0x800 then 2 else if n < 0x10000 then 3 else 4

/-- The code point of the bytes of exactly one character, if they are that. -/
def decodeOne : List Nat → Option Nat
  | [a] => if a < 0x80 then some a else none
  | [a, b] => if 0xC0 ≤ a && a < 0xE0 then some ((a - 0xC0) * 0x40 + (b - 0x80)) else none
  | [a, b, c] =>
    if 0xE0 ≤ a && a < 0xF0 then some ((a - 0xE0) * 0x1000 + (b - 0x80) * 0x40 + (c - 0x80))
    else none
  | [a, b, c, d] =>
    if 0xF0 ≤ a then
      some ((a - 0xF0) * 0x40000 + (b - 0x80) * 0x1000 + (c - 0x80) * 0x40 + (d - 0x80))
    else none
  | _ => none

/-- The greatest code point encoded in `k` bytes. -/
def widestOf : Nat → Nat
  | 1 => 0x7F
  | 2 => 0x7FF
  | 3 => 0xFFFF
  | _ => 0x10FFFF

/-- Ranges of bytes, one per position of an encoding. -/
abbrev ByteRanges := List (Nat × Nat)

/-- What one step does with a range of code points: cuts it into pieces to split in
turn, in order, or finds it one product of byte ranges. -/
inductive SplitStep where
  | cut (pieces : List (Nat × Nat))
  | bytes (rs : ByteRanges)

/-- The first encoding length `k` (of 1 to 3) whose longest code point the range spans. -/
def lengthCut? (s e : Nat) : Option Nat :=
  [1, 2, 3].find? fun k => s ≤ widestOf k && widestOf k < e

/-- The first block size `2^(6·k)` (for `k` of 1 to 3) that the range spans without
starting or ending on its edges. -/
def blockCut? (s e : Nat) : Option Nat :=
  ([1, 2, 3].map fun k => Nat.pow 2 (6 * k)).find? fun b =>
    s / b != e / b && (s % b != 0 || e % b != b - 1)

/-- One step of splitting the range from `s` to `e`. -/
def splitStep (s e : Nat) : SplitStep :=
  if s < 0xE000 && e > 0xD7FF then .cut [(s, 0xD7FF), (0xE000, e)]
  else if e < s then .cut []
  else
    match lengthCut? s e with
    | some k => .cut [(s, widestOf k), (widestOf k + 1, e)]
    | none =>
      if e ≤ 0x7F then .bytes [(s, e)]
      else
        match blockCut? s e with
        | some b =>
          if s % b != 0 then .cut [(s, s - s % b + b - 1), (s - s % b + b, e)]
          else .cut [(s, e - e % b - 1), (e - e % b, e)]
        | none => .bytes ((utf8Bytes s).zip (utf8Bytes e))

/-- Splits a work list of ranges into products of byte ranges, in order. -/
def splitAll : Nat → List (Nat × Nat) → List ByteRanges
  | 0, _ => []
  | _, [] => []
  | fuel + 1, (s, e) :: rest =>
    match splitStep s e with
    | .cut pieces => splitAll fuel (pieces ++ rest)
    | .bytes rs => rs :: splitAll fuel rest

/-- The products of byte ranges that encode the characters from `lo` to `hi`. -/
def utf8Sequences (lo hi : Nat) : List ByteRanges := splitAll 1024 [(lo, hi)]

end Transcribe.Regex
