/-!
# `Unicode.Table` — packed tables of code points

Unicode gives every one of its 1,114,112 code points a general category, a script and
dozens of yes-or-no properties. Written out as Lean terms such tables would be slow to
elaborate, so they are kept as text and decoded when first used: a table is a string of
hexadecimal numerals separated by single spaces.

Two shapes of table are decoded here.

* A `RangeSet` is a set of code points given as closed ranges in increasing order and
  pairwise apart. Its text holds two numerals per range: the gap between the end of the
  previous range (or `0`, for the first) and the range's first code point, then the
  range's length less one.
* A `RunMap` gives every code point a small number. Its text holds two numerals per run:
  the distance from the previous run's first code point (`0` for the first run, which
  starts at code point `0`), then the run's number. A run lasts until the next one starts.

Both are looked up by halving: `countAtMost` counts the starts at or below a code point,
which names the range or run that could hold it.
-/

namespace Transcribe.Unicode

/-- The greatest code point. -/
def maxCodePoint : Nat := 0x10FFFF

/-- The value of a hexadecimal digit, `0` for anything else. -/
def hexDigitValue (c : Char) : Nat :=
  if '0' ≤ c && c ≤ '9' then c.toNat - '0'.toNat
  else if 'a' ≤ c && c ≤ 'f' then c.toNat - 'a'.toNat + 10
  else 0

/-- The numbers of a packed text: hexadecimal numerals separated by single spaces. -/
def readNumbers (s : String) : Array Nat :=
  let (acc, cur, inNumeral) := s.foldl (fun (acc, cur, inNumeral) c =>
    if c == ' ' then ((if inNumeral then acc.push cur else acc), 0, false)
    else (acc, cur * 16 + hexDigitValue c, true)) ((#[] : Array Nat), 0, false)
  if inNumeral then acc.push cur else acc

/-- The number of entries of an increasing array at or below `n`: the boundary lies in
`[lo, hi)` and each step halves that interval, so `fuel` at least the array's size is
enough. -/
def countAtMost (a : Array Nat) (n : Nat) : Nat → Nat → Nat → Nat
  | 0, lo, _ => lo
  | fuel + 1, lo, hi =>
    if lo < hi then
      let mid := lo + (hi - lo) / 2
      if a[mid]?.getD 0 ≤ n then countAtMost a n fuel (mid + 1) hi
      else countAtMost a n fuel lo mid
    else lo

/-- The count never falls below where the search starts. -/
theorem le_countAtMost (a : Array Nat) (n : Nat) :
    ∀ (fuel lo hi : Nat), lo ≤ countAtMost a n fuel lo hi
  | 0, lo, _ => by simp [countAtMost]
  | fuel + 1, lo, hi => by
    unfold countAtMost
    split
    · dsimp only
      split
      · exact Nat.le_trans (by omega) (le_countAtMost a n fuel _ hi)
      · exact le_countAtMost a n fuel lo _
    · exact Nat.le_refl lo

/-- A set of code points: closed ranges, increasing and pairwise apart. -/
structure RangeSet where
  starts : Array Nat
  stops : Array Nat
  deriving Inhabited

/-- Decodes the text of a `RangeSet`. -/
def RangeSet.ofPacked (s : String) : RangeSet :=
  let ns := readNumbers s
  let (starts, stops, _) := (List.range (ns.size / 2)).foldl (fun (starts, stops, next) k =>
    let lo := next + ns[2 * k]!
    let hi := lo + ns[2 * k + 1]!
    (starts.push lo, stops.push hi, hi + 1)) ((#[] : Array Nat), (#[] : Array Nat), 0)
  ⟨starts, stops⟩

/-- Whether a code point is in a set: in the last range that starts at or below it. -/
def RangeSet.contains (s : RangeSet) (n : Nat) : Bool :=
  match countAtMost s.starts n (s.starts.size + 1) 0 s.starts.size with
  | 0 => false
  | k + 1 => n ≤ s.stops[k]?.getD 0

/-- Whether a character is in a set. -/
def RangeSet.holds (s : RangeSet) (c : Char) : Bool := s.contains c.toNat

/-- The empty set holds nothing. -/
theorem RangeSet.contains_empty (n : Nat) : RangeSet.contains ⟨#[], #[]⟩ n = false := by
  simp [RangeSet.contains, countAtMost]

/-- The ranges of a set, in increasing order. -/
def RangeSet.toRanges (s : RangeSet) : List (Nat × Nat) := s.starts.toList.zip s.stops.toList

/-- A number for every code point, given by runs. -/
structure RunMap where
  starts : Array Nat
  values : Array Nat
  deriving Inhabited

/-- Decodes the text of a `RunMap`. -/
def RunMap.ofPacked (s : String) : RunMap :=
  let ns := readNumbers s
  let (starts, values, _) := (List.range (ns.size / 2)).foldl (fun (starts, values, prev) k =>
    let start := prev + ns[2 * k]!
    (starts.push start, values.push ns[2 * k + 1]!, start)) ((#[] : Array Nat), (#[] : Array Nat), 0)
  ⟨starts, values⟩

/-- The number of a code point: that of the last run starting at or below it, or
`default` before the first run. -/
def RunMap.get (m : RunMap) (default n : Nat) : Nat :=
  match countAtMost m.starts n (m.starts.size + 1) 0 m.starts.size with
  | 0 => default
  | k + 1 => m.values[k]?.getD default

/-- The number of the run that starts exactly at a code point, if one does. A `RunMap`
read this way is a finite map from code points to numbers. -/
def RunMap.find? (m : RunMap) (n : Nat) : Option Nat :=
  match countAtMost m.starts n (m.starts.size + 1) 0 m.starts.size with
  | 0 => none
  | k + 1 => if m.starts[k]? == some n then m.values[k]? else none

/-- The runs whose number passes a test, as closed ranges: the first run starts at `0`
and the last lasts to the greatest code point. -/
def RunMap.rangesWhere (m : RunMap) (p : Nat → Bool) : List (Nat × Nat) :=
  let starts := m.starts.toList
  let stops := (starts.drop 1).map (· - 1) ++ [maxCodePoint]
  ((starts.zip stops).zip m.values.toList).filterMap fun ((lo, hi), v) =>
    if p v then some (lo, hi) else none

/-- The groups of a packed list of numbers: each group is its size followed by its
members. -/
def readGroups (ns : Array Nat) : Array (List Nat) :=
  go ns.size 0 #[]
where
  go : Nat → Nat → Array (List Nat) → Array (List Nat)
    | 0, _, acc => acc
    | fuel + 1, i, acc =>
      match ns[i]? with
      | none => acc
      | some size => go fuel (i + 1 + size) (acc.push ((List.range size).map fun k => ns[i + 1 + k]!))

end Transcribe.Unicode
