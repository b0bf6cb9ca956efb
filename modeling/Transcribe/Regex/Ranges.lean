import Transcribe.Regex.CharSet
/-!
# `Regex.Ranges` — a set of characters as ranges of code points

To be compiled, a set of characters is written out as closed ranges of code points in
increasing order, each as long as it can be. This canonical list is how the compiler
sees a class: the number of ranges and where they fall decide how many states the class
takes.

Surrogates (`D800`–`DFFF`) are not characters, so no range starts or ends among them,
and a range that runs up to `D7FF` goes on at `E000`: as characters the two are
neighbours. Such a range spans the surrogates' numbers but holds none of them.

Every set of the pattern reader has its ranges here: Perl and ASCII classes, Unicode
properties read off the packed tables, and the combinations (union, intersection,
difference, symmetric difference, complement, and the two closures under case folding).
-/

namespace Transcribe.Regex

open Transcribe.Unicode
open Transcribe.Text

/-- Closed ranges of code points. -/
abbrev Ranges := List (Nat × Nat)

/-- The ranges with the surrogates cut out and nothing kept above the greatest code
point. -/
def withoutSurrogates (rs : Ranges) : Ranges :=
  rs.flatMap fun (lo, hi) =>
    let hi := min hi maxCodePoint
    if hi < lo then []
    else if hi < 0xD800 || lo > 0xDFFF then [(lo, hi)]
    else (if lo < 0xD800 then [(lo, 0xD7FF)] else []) ++ (if hi > 0xDFFF then [(0xE000, hi)] else [])

/-- Whether a range starting at `lo` continues one that ends at `hi`: it overlaps or
touches it, `E000` counting as next to `D7FF`. -/
def continues (hi lo : Nat) : Bool := lo ≤ hi + 1 || (hi == 0xD7FF && lo == 0xE000)

/-- Joins the ranges, sorted by their starts, that overlap or touch. -/
def joinSorted : Ranges → Ranges
  | [] => []
  | [r] => [r]
  | (a, b) :: (c, d) :: rest =>
    if continues b c then joinSorted ((a, max b d) :: rest)
    else (a, b) :: joinSorted ((c, d) :: rest)
termination_by rs => rs.length

/-- The canonical form of any ranges: surrogates cut out, sorted, and joined. -/
def Ranges.canonical (rs : Ranges) : Ranges :=
  joinSorted ((withoutSurrogates rs).mergeSort fun x y => x.1 ≤ y.1)

/-- The union of two sets. -/
def Ranges.union (a b : Ranges) : Ranges := Ranges.canonical (a ++ b)

/-- The gaps of sorted ranges from `next` on. -/
def gapsFrom (next : Nat) : Ranges → Ranges
  | [] => if next ≤ maxCodePoint then [(next, maxCodePoint)] else []
  | (lo, hi) :: rest => (if next < lo then [(next, lo - 1)] else []) ++ gapsFrom (max next (hi + 1)) rest

/-- The code points that a canonical set does not hold. -/
def Ranges.complement (rs : Ranges) : Ranges := Ranges.canonical (gapsFrom 0 rs)

/-- The overlaps of two lists of sorted ranges, walking both at once. -/
def overlaps : Ranges → Ranges → Ranges
  | [], _ => []
  | _, [] => []
  | (a, b) :: r, (c, d) :: s =>
    let here := if max a c ≤ min b d then [(max a c, min b d)] else []
    if b < d then here ++ overlaps r ((c, d) :: s)
    else here ++ overlaps ((a, b) :: r) s
termination_by xs ys => xs.length + ys.length

/-- The intersection of two canonical sets. -/
def Ranges.inter (a b : Ranges) : Ranges := Ranges.canonical (overlaps a b)

/-- The code points whose general category passes a test. -/
def categoryRanges (p : GeneralCategory → Bool) : Ranges :=
  categoryRuns.rangesWhere fun v => p ((GeneralCategory.all[v]?).getD .unassigned)

/-- The ASCII word characters: letters, digits and `_`. -/
def asciiWordRanges : Ranges := [(0x30, 0x39), (0x41, 0x5A), (0x5F, 0x5F), (0x61, 0x7A)]

/-- The ranges of a Perl class. -/
def PerlClass.ranges : PerlClass → Ranges
  | .digit => Ranges.canonical (categoryRanges (· == .decimalNumber))
  | .space => Ranges.canonical BinaryProperty.whiteSpace.ranges.toRanges
  | .word =>
    Ranges.union asciiWordRanges (Ranges.inter wordRanges.toRanges [(0x80, maxCodePoint)])

/-- The ranges of an ASCII class. -/
def AsciiClass.ranges : AsciiClass → Ranges
  | .alnum => [(0x30, 0x39), (0x41, 0x5A), (0x61, 0x7A)]
  | .alpha => [(0x41, 0x5A), (0x61, 0x7A)]
  | .ascii => [(0x00, 0x7F)]
  | .blank => [(0x09, 0x09), (0x20, 0x20)]
  | .cntrl => [(0x00, 0x1F), (0x7F, 0x7F)]
  | .digit => [(0x30, 0x39)]
  | .graph => [(0x21, 0x7E)]
  | .lower => [(0x61, 0x7A)]
  | .print => [(0x20, 0x7E)]
  | .punct => [(0x21, 0x2F), (0x3A, 0x40), (0x5B, 0x60), (0x7B, 0x7E)]
  | .space => [(0x09, 0x0D), (0x20, 0x20)]
  | .upper => [(0x41, 0x5A)]
  | .word => asciiWordRanges
  | .xdigit => [(0x30, 0x39), (0x41, 0x46), (0x61, 0x66)]

/-- The ranges of a set named by a Unicode property. -/
def PropertySet.ranges : PropertySet → Ranges
  | .any => [(0, maxCodePoint)]
  | .ascii => [(0, 0x7F)]
  | .assigned => categoryRanges (· != .unassigned)
  | .category cs => categoryRanges (cs.contains ·)
  | .script k => scriptRuns.rangesWhere (· == k)
  | .extension k =>
    let alone := Ranges.inter (Ranges.canonical (extensionRuns.rangesWhere (· == 0)))
      (Ranges.canonical (scriptRuns.rangesWhere (· == k)))
    let listed := extensionRuns.rangesWhere fun v =>
      v != 0 && (extensionSets[v - 1]?.getD []).contains k
    Ranges.union alone listed
  | .binary p => p.ranges.toRanges
  | .age k => ageRuns.rangesWhere (· ≤ k)
  | .graphemeBreak k => graphemeBreakRuns.rangesWhere (· == k)
  | .wordBreak k => wordBreakRuns.rangesWhere (· == k)
  | .sentenceBreak k => sentenceBreakRuns.rangesWhere (· == k)

/-- The number of keys of the case cycles below `n`. -/
def foldKeysBelow (n : Nat) : Nat :=
  match n with
  | 0 => 0
  | n + 1 => countAtMost foldCycle.starts n (foldCycle.starts.size + 1) 0 foldCycle.starts.size

/-- A set closed under simple case folding: every character that folds alike with one
of the set's is added. Only the characters with a case cycle add anything, and they are
found among the cycle table's keys by position. -/
def foldRanges (rs : Ranges) : Ranges :=
  let added := rs.flatMap fun (lo, hi) =>
    let first := foldKeysBelow lo
    let last := foldKeysBelow (hi + 1)
    (List.range (last - first)).flatMap fun k =>
      let key := foldCycle.starts[first + k]?.getD 0
      (caseVariants (Char.ofNat key)).map fun c => (c.toNat, c.toNat)
  Ranges.canonical (rs ++ added)

/-- A set closed under the case folding of ASCII letters. -/
def asciiFoldRanges (rs : Ranges) : Ranges :=
  let upper := (Ranges.inter rs [(0x41, 0x5A)]).map fun (lo, hi) => (lo + 32, hi + 32)
  let lower := (Ranges.inter rs [(0x61, 0x7A)]).map fun (lo, hi) => (lo - 32, hi - 32)
  Ranges.canonical (rs ++ upper ++ lower)

/-- The canonical ranges of a set of characters. -/
def CharSet.ranges : CharSet → Ranges
  | .range lo hi => Ranges.canonical [(lo.toNat, hi.toNat)]
  | .perl k => k.ranges
  | .ascii k => k.ranges
  | .property k => Ranges.canonical k.ranges
  | .union a b => Ranges.union a.ranges b.ranges
  | .inter a b => Ranges.inter a.ranges b.ranges
  | .diff a b => Ranges.inter a.ranges (Ranges.complement b.ranges)
  | .symDiff a b =>
    let x := a.ranges
    let y := b.ranges
    Ranges.inter (Ranges.union x y) (Ranges.complement (Ranges.inter x y))
  | .compl a => Ranges.complement a.ranges
  | .fold a => foldRanges a.ranges
  | .asciiFold a => asciiFoldRanges a.ranges
  | .nothing => []

end Transcribe.Regex
