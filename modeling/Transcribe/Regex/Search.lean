import Transcribe.Regex.CharSet
/-!
# `Regex.Search` — whether a pattern matches somewhere in a text

What is matched is a `Node`: characters, sets of characters, `.`, assertions,
sequences, alternatives and repetitions. A text matches a node when the node matches
at some position of it; which match would be reported does not matter here, so a
repetition's greed and the order of alternatives do not either. Matching is computed
as the set of positions where a node can end when it starts at a given position
(`ends`): a character advances by one, an assertion stays, a sequence composes,
alternatives unite. A repetition applies its body the least number of times, then adds
what more applications reach, up to the most; the sets are kept sorted without
repeats, so they can only grow a bounded number of times and the iteration stops at a
fixpoint.

Word boundaries look at the characters on either side: word characters as
`Text.isWordChar` says, or, for the ASCII boundaries, the ASCII letters, digits and
`_`. Line anchors see line feeds, and also carriage returns under the `R` flag, where
a carriage return and line feed together end one line.
-/

namespace Transcribe.Regex

open Transcribe.Text

/-- The kinds of word assertion. -/
inductive WordLook where
  /-- `\b` -/
  | boundary
  /-- `\B` -/
  | notBoundary
  /-- A word starts: no word character before, one after. -/
  | atStart
  /-- A word ends: a word character before, none after. -/
  | atEnd
  /-- No word character before. -/
  | startHalf
  /-- No word character after. -/
  | endHalf
  deriving DecidableEq, Repr

/-- A zero-width assertion. -/
inductive Look where
  | textStart
  | textEnd
  | lineStart (crlf : Bool)
  | lineEnd (crlf : Bool)
  /-- A word assertion, over ASCII's word characters or Unicode's. -/
  | word (kind : WordLook) (ascii : Bool)
  deriving DecidableEq, Repr

/-- What is matched. -/
inductive Node where
  | empty
  | char (c : Char)
  | set (s : CharSet)
  /-- Any character; a line feed only with `dotAll`, a carriage return not with `crlf`. -/
  | dot (dotAll crlf : Bool)
  | look (l : Look)
  | seq (a b : Node)
  | alt (a b : Node)
  | rep (a : Node) (least : Nat) (most : Option Nat)
  deriving DecidableEq, Repr

/-- Inserts a position into a sorted list without repeats. -/
def insertSorted (n : Nat) : List Nat → List Nat
  | [] => [n]
  | m :: rest => if n < m then n :: m :: rest else if n == m then m :: rest else m :: insertSorted n rest

/-- A list of positions, sorted and without repeats. -/
def normalize (xs : List Nat) : List Nat := xs.foldl (fun acc n => insertSorted n acc) []

/-- Whether a character is a word character, of ASCII or of Unicode. -/
def wordChar (ascii : Bool) (c : Char) : Bool :=
  if ascii then c.isAlphanum || c == '_' else isWordChar c

/-- Whether an assertion holds at a position of a text. -/
def Look.holds (t : Array Char) (i : Nat) (l : Look) : Bool :=
  let before := match i with
    | 0 => none
    | k + 1 => t[k]?
  let after := t[i]?
  match l with
  | .textStart => i == 0
  | .textEnd => i == t.size
  | .lineStart false => i == 0 || before == some '\n'
  | .lineStart true => i == 0 || before == some '\n' || (before == some '\r' && after != some '\n')
  | .lineEnd false => i == t.size || after == some '\n'
  | .lineEnd true => i == t.size || after == some '\r' || (after == some '\n' && before != some '\r')
  | .word kind ascii =>
    let wordBefore := (before.map (wordChar ascii)).getD false
    let wordAfter := (after.map (wordChar ascii)).getD false
    match kind with
    | .boundary => wordBefore != wordAfter
    | .notBoundary => wordBefore == wordAfter
    | .atStart => !wordBefore && wordAfter
    | .atEnd => wordBefore && !wordAfter
    | .startHalf => !wordBefore
    | .endHalf => !wordAfter

/-- Whether a character matches `.`. -/
def dotHolds (dotAll crlf : Bool) (d : Char) : Bool :=
  dotAll || (d != '\n' && !(crlf && d == '\r'))

/-- Applies a step `count` times to a set of positions; an empty set or a fixpoint ends
it early, as nothing changes after them. -/
def iterateExactly (next : List Nat → List Nat) : Nat → List Nat → List Nat
  | 0, ps => ps
  | n + 1, ps =>
    if ps.isEmpty then ps
    else
      let qs := next ps
      if qs == ps then ps else iterateExactly next n qs

/-- Adds to a set of positions what up to `count` more steps reach; a fixpoint ends it
early. -/
def iterateUpTo (next : List Nat → List Nat) : Nat → List Nat → List Nat
  | 0, ps => ps
  | n + 1, ps =>
    let qs := normalize (ps ++ next ps)
    if qs == ps then ps else iterateUpTo next n qs

/-- The positions where a node can end when it starts at position `i` of the text. -/
def ends (t : Array Char) : Node → Nat → List Nat
  | .empty, i => [i]
  | .char c, i => if t[i]? == some c then [i + 1] else []
  | .set s, i => if (t[i]?.map s.holds).getD false then [i + 1] else []
  | .dot dotAll crlf, i => if (t[i]?.map (dotHolds dotAll crlf)).getD false then [i + 1] else []
  | .look l, i => if l.holds t i then [i] else []
  | .seq a b, i => normalize ((ends t a i).flatMap fun j => ends t b j)
  | .alt a b, i => normalize (ends t a i ++ ends t b i)
  | .rep a least most, i =>
    let next (ps : List Nat) : List Nat := normalize (ps.flatMap fun j => ends t a j)
    let required := iterateExactly next least [i]
    match most with
    | some m => iterateUpTo next (m - least) required
    | none => iterateUpTo next (t.size + 1) required

/-- Inserting adds exactly the one position. -/
theorem mem_insertSorted {m n : Nat} : ∀ {xs : List Nat}, m ∈ insertSorted n xs ↔ m = n ∨ m ∈ xs
  | [] => by simp [insertSorted]
  | y :: ys => by
    unfold insertSorted
    split
    · simp
    · split
      · rename_i h
        have hy : n = y := by simpa using h
        subst hy
        simp
      · rw [List.mem_cons, mem_insertSorted, List.mem_cons]
        exact or_left_comm

/-- Inserting the positions of a list one by one adds exactly those positions. -/
theorem mem_foldl_insertSorted {m : Nat} : ∀ (xs acc : List Nat),
    m ∈ xs.foldl (fun acc n => insertSorted n acc) acc ↔ m ∈ acc ∨ m ∈ xs
  | [], acc => by simp
  | x :: xs, acc => by
    rw [List.foldl_cons, mem_foldl_insertSorted xs, mem_insertSorted, List.mem_cons]
    constructor
    · rintro ((h | h) | h) <;> simp [h]
    · rintro (h | h | h) <;> simp [h]

/-- Normalizing keeps exactly the positions of the list. -/
theorem mem_normalize {m : Nat} {xs : List Nat} : m ∈ normalize xs ↔ m ∈ xs := by
  unfold normalize
  rw [mem_foldl_insertSorted]
  simp

/-- Iterating a step that never goes back before `i` stays at or after `i`. -/
theorem iterateExactly_ge {i : Nat} {next : List Nat → List Nat}
    (hnext : ∀ ps, (∀ p ∈ ps, i ≤ p) → ∀ q ∈ next ps, i ≤ q) :
    ∀ (n : Nat) (ps : List Nat), (∀ p ∈ ps, i ≤ p) → ∀ q ∈ iterateExactly next n ps, i ≤ q
  | 0, ps, h => by simpa [iterateExactly] using h
  | n + 1, ps, h => by
    unfold iterateExactly
    split
    · exact h
    · dsimp only
      split
      · exact h
      · exact iterateExactly_ge hnext n (next ps) (hnext ps h)

/-- Adding what a step that never goes back before `i` reaches stays at or after `i`. -/
theorem iterateUpTo_ge {i : Nat} {next : List Nat → List Nat}
    (hnext : ∀ ps, (∀ p ∈ ps, i ≤ p) → ∀ q ∈ next ps, i ≤ q) :
    ∀ (n : Nat) (ps : List Nat), (∀ p ∈ ps, i ≤ p) → ∀ q ∈ iterateUpTo next n ps, i ≤ q
  | 0, ps, h => by simpa [iterateUpTo] using h
  | n + 1, ps, h => by
    unfold iterateUpTo
    dsimp only
    split
    · exact h
    · apply iterateUpTo_ge hnext n
      intro q hq
      rw [mem_normalize, List.mem_append] at hq
      rcases hq with hq | hq
      · exact h q hq
      · exact hnext ps h q hq

/-- A node never ends before it starts. -/
theorem le_of_mem_ends (t : Array Char) : ∀ (n : Node) (i j : Nat), j ∈ ends t n i → i ≤ j
  | .empty, i, j, h => by
    simp only [ends, List.mem_singleton] at h
    omega
  | .char _, i, j, h => by
    simp only [ends] at h
    split at h <;> simp at h
    omega
  | .set _, i, j, h => by
    simp only [ends] at h
    split at h <;> simp at h
    omega
  | .dot _ _, i, j, h => by
    simp only [ends] at h
    split at h <;> simp at h
    omega
  | .look _, i, j, h => by
    simp only [ends] at h
    split at h <;> simp at h
    omega
  | .seq a b, i, j, h => by
    simp only [ends, mem_normalize, List.mem_flatMap] at h
    obtain ⟨k, hk, hj⟩ := h
    exact Nat.le_trans (le_of_mem_ends t a i k hk) (le_of_mem_ends t b k j hj)
  | .alt a b, i, j, h => by
    simp only [ends, mem_normalize, List.mem_append] at h
    rcases h with h | h
    · exact le_of_mem_ends t a i j h
    · exact le_of_mem_ends t b i j h
  | .rep a least most, i, j, h => by
    have hnext : ∀ ps : List Nat, (∀ p ∈ ps, i ≤ p) →
        ∀ q ∈ normalize (ps.flatMap fun k => ends t a k), i ≤ q := by
      intro ps hps q hq
      rw [mem_normalize, List.mem_flatMap] at hq
      obtain ⟨k, hk, hq⟩ := hq
      exact Nat.le_trans (hps k hk) (le_of_mem_ends t a k q hq)
    have hstart := iterateExactly_ge hnext least [i] (by simp)
    simp only [ends] at h
    split at h
    · exact iterateUpTo_ge hnext _ _ hstart j h
    · exact iterateUpTo_ge hnext _ _ hstart j h

/-- Whether a pattern matches somewhere in a text. -/
def Node.search (n : Node) (text : String) : Bool :=
  let t := text.toList.toArray
  (List.range (t.size + 1)).any fun i => !(ends t n i).isEmpty

end Transcribe.Regex
