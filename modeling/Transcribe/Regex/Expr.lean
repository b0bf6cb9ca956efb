import Transcribe.Regex.Ranges
import Transcribe.Regex.Utf8
import Transcribe.Regex.Search
/-!
# `Regex.Expr` — a pattern as the compiler takes it

Before a pattern is compiled its tree is simplified, and the simplified expression,
not the tree as written, decides how many states the compiled automaton has. The
expression has literals of bytes, classes of characters or of bytes written as ranges,
assertions, repetitions, numbered capture groups, sequences and alternatives.

Each kind of expression is built by a function that simplifies as it builds:

* a class with no character matches nothing, and one with a single character is a
  literal of its bytes;
* a repetition of what matches only the empty text repeats at most once, `{0}` is the
  empty expression, and `{1}` is its body;
* a sequence takes in the items of the sequences in it, drops empty items, and joins
  literals next to each other;
* alternatives take in the branches of alternatives in them; then branches that are
  all single characters become one class, so do branches that are all classes of
  characters (or single characters), and so do branches that are all classes of bytes
  (or single bytes); otherwise a common first part of branches that are all sequences
  is taken out in front of the alternatives of what follows it.

The lengths an expression can match (in bytes) and whether it can only match at the
start or at the end of the text are read off it: the compiler needs them to choose how
to compile a repetition and whether to search from every position.
-/

namespace Transcribe.Regex

/-- An expression as the compiler takes it. -/
inductive Expr where
  | empty
  /-- Bytes in a row: the UTF-8 of one or more characters. -/
  | literal (bytes : List Nat)
  /-- A class of characters (`unicode`) or of bytes, as canonical ranges. -/
  | cls (unicode : Bool) (ranges : Ranges)
  | look (l : Look)
  | rep (least : Nat) (most : Option Nat) (greedy : Bool) (body : Expr)
  /-- The capture group of a number. -/
  | capture (index : Nat) (body : Expr)
  | concat (items : List Expr)
  | alt (branches : List Expr)
  deriving Repr, Inhabited

/-- What matches nothing: the class of no bytes. -/
def Expr.fail : Expr := .cls false []

mutual

/-- Whether two expressions are the same. -/
def Expr.same : Expr → Expr → Bool
  | .empty, .empty => true
  | .literal a, .literal b => a == b
  | .cls u a, .cls v b => u == v && a == b
  | .look a, .look b => a == b
  | .rep l m g a, .rep l' m' g' b => l == l' && m == m' && g == g' && Expr.same a b
  | .capture i a, .capture j b => i == j && Expr.same a b
  | .concat xs, .concat ys => Expr.sameAll xs ys
  | .alt xs, .alt ys => Expr.sameAll xs ys
  | _, _ => false

/-- Whether two lists of expressions are the same, item by item. -/
def Expr.sameAll : List Expr → List Expr → Bool
  | [], [] => true
  | x :: xs, y :: ys => Expr.same x y && Expr.sameAll xs ys
  | _, _ => false

end

mutual

/-- The number of nodes of an expression. -/
def Expr.size : Expr → Nat
  | .rep _ _ _ body => body.size + 1
  | .capture _ body => body.size + 1
  | .concat items => Expr.sizeAll items + 1
  | .alt branches => Expr.sizeAll branches + 1
  | _ => 1

/-- The number of nodes of a list of expressions. -/
def Expr.sizeAll : List Expr → Nat
  | [] => 0
  | h :: rest => h.size + Expr.sizeAll rest

end

/-- The sum of lengths, none when one is none. -/
def sumLengths (ls : List (Option Nat)) : Option Nat :=
  ls.foldl (fun acc l => do let a ← acc; let b ← l; pure (a + b)) (some 0)

/-- The least or greatest of lengths (as `pick` says), none when one is none. -/
def pickLength (pick : Nat → Nat → Nat) : List (Option Nat) → Option Nat
  | [] => none
  | l :: ls => ls.foldl (fun acc l => do let a ← acc; let b ← l; pure (pick a b)) l

mutual

/-- The fewest bytes an expression matches; none when it matches nothing. -/
def Expr.minLen : Expr → Option Nat
  | .empty => some 0
  | .literal bs => some bs.length
  | .cls u rs =>
    match rs.head? with
    | none => none
    | some (lo, _) => some (if u then utf8Length lo else 1)
  | .look _ => some 0
  | .rep least _ _ body => body.minLen.map (· * least)
  | .capture _ body => body.minLen
  | .concat items => sumLengths (Expr.minLens items)
  | .alt branches => pickLength min (Expr.minLens branches)

/-- The fewest bytes of each expression of a list. -/
def Expr.minLens : List Expr → List (Option Nat)
  | [] => []
  | h :: rest => h.minLen :: Expr.minLens rest

end

mutual

/-- The most bytes an expression matches; none when there is no bound, or when it
matches nothing. -/
def Expr.maxLen : Expr → Option Nat
  | .empty => some 0
  | .literal bs => some bs.length
  | .cls u rs =>
    match rs.getLast? with
    | none => none
    | some (_, hi) => some (if u then utf8Length hi else 1)
  | .look _ => some 0
  | .rep _ most _ body => do let m ← most; let b ← body.maxLen; pure (b * m)
  | .capture _ body => body.maxLen
  | .concat items => sumLengths (Expr.maxLens items)
  | .alt branches => pickLength max (Expr.maxLens branches)

/-- The most bytes of each expression of a list. -/
def Expr.maxLens : List Expr → List (Option Nat)
  | [] => []
  | h :: rest => h.maxLen :: Expr.maxLens rest

end

/-- Whether an expression matches only the empty text, where it matches. -/
def Expr.matchesEmptyOnly (h : Expr) : Bool := h.maxLen == some 0

mutual

/-- Whether every match of an expression must start at a look `l`: an assertion `l`
heading it before anything that takes a byte. -/
def Expr.leadsWith (l : Look) : Expr → Bool
  | .look l' => l' == l
  | .rep least _ _ body => least > 0 && body.leadsWith l
  | .capture _ body => body.leadsWith l
  | .concat items => Expr.leadsWithSeq l items
  | .alt branches => Expr.leadsWithAll l branches
  | _ => false

/-- Whether a sequence leads with `l`: one of its items does, before an item that can
take a byte. -/
def Expr.leadsWithSeq (l : Look) : List Expr → Bool
  | [] => false
  | h :: rest => h.leadsWith l || (h.matchesEmptyOnly && Expr.leadsWithSeq l rest)

/-- Whether every branch leads with `l`. -/
def Expr.leadsWithAll (l : Look) : List Expr → Bool
  | [] => true
  | h :: rest => h.leadsWith l && Expr.leadsWithAll l rest

end

mutual

/-- Whether every match of an expression must end at a look `l`: an assertion `l`
closing it after anything that takes a byte. -/
def Expr.closesWith (l : Look) : Expr → Bool
  | .look l' => l' == l
  | .rep least _ _ body => least > 0 && body.closesWith l
  | .capture _ body => body.closesWith l
  | .concat items => Expr.closesWithSeq l items
  | .alt branches => Expr.closesWithAll l branches
  | _ => false

/-- Whether a sequence closes with `l`: one of its items does, and every item after it
matches only the empty text. -/
def Expr.closesWithSeq (l : Look) : List Expr → Bool
  | [] => false
  | h :: rest => Expr.closesWithSeq l rest || (h.closesWith l && rest.all Expr.matchesEmptyOnly)

/-- Whether every branch closes with `l`. -/
def Expr.closesWithAll (l : Look) : List Expr → Bool
  | [] => true
  | h :: rest => h.closesWith l && Expr.closesWithAll l rest

end

/-- A literal of bytes; no bytes is the empty expression. -/
def Expr.ofBytes (bs : List Nat) : Expr := if bs.isEmpty then .empty else .literal bs

/-- A class: nothing when it is empty, and a literal when it holds one character (or
byte). -/
def Expr.ofClass (unicode : Bool) (rs : Ranges) : Expr :=
  match rs with
  | [] => Expr.fail
  | [(lo, hi)] =>
    if lo == hi then .literal (if unicode then utf8Bytes lo else [lo]) else .cls unicode rs
  | _ => .cls unicode rs

/-- A repetition: at most once of what matches only the empty text, `{0}` empty, and
`{1}` the body itself. -/
def Expr.repeat (least : Nat) (most : Option Nat) (greedy : Bool) (body : Expr) : Expr :=
  let (least, most) :=
    if body.matchesEmptyOnly then (min least 1, some ((most.map (min · 1)).getD 1))
    else (least, most)
  if least == 0 && most == some 0 then .empty
  else if least == 1 && most == some 1 then body
  else .rep least most greedy body

/-- Adds an item to a sequence being built, last item first: an empty item is dropped
and a literal joins a literal before it. -/
def pushItem (acc : List Expr) (h : Expr) : List Expr :=
  match h, acc with
  | .empty, _ => acc
  | .literal bs, .literal prev :: rest => .literal (prev ++ bs) :: rest
  | h, _ => h :: acc

/-- A sequence: the items of sequences in it taken in, empty items dropped, literals
next to each other joined; one item is itself, none is the empty expression. -/
def Expr.seq (items : List Expr) : Expr :=
  let flat := items.flatMap fun h =>
    match h with
    | .concat xs => xs
    | h => [h]
  match (flat.foldl pushItem []).reverse with
  | [] => .empty
  | [h] => h
  | hs => .concat hs

/-- The characters of branches that are all literals of one character. -/
def singleChars (hs : List Expr) : Option (List Nat) :=
  hs.mapM fun h =>
    match h with
    | .literal bs => decodeOne bs
    | _ => none

/-- The union of branches that are all classes of characters or literals of one
character. -/
def classOfChars (hs : List Expr) : Option Ranges := do
  let parts : List Ranges ← hs.mapM fun h =>
    match h with
    | .cls true rs => some rs
    | .literal bs => (decodeOne bs).map fun c => [(c, c)]
    | _ => none
  pure (Ranges.canonical parts.flatten)

/-- The union of branches that are all classes of bytes or literals of one byte. -/
def classOfBytes (hs : List Expr) : Option Ranges := do
  let parts : List Ranges ← hs.mapM fun h =>
    match h with
    | .cls false rs => some rs
    | .literal [b] => some [(b, b)]
    | _ => none
  pure (Ranges.canonical parts.flatten)

/-- The number of items two sequences start with alike. -/
def sharedLength : List Expr → List Expr → Nat
  | x :: xs, y :: ys => if Expr.same x y then sharedLength xs ys + 1 else 0
  | _, _ => 0

/-- The items of branches that are all sequences. -/
def sequencesOf (hs : List Expr) : Option (List (List Expr)) :=
  hs.mapM fun h =>
    match h with
    | .concat xs => some xs
    | _ => none

/-- The first part that branches, all sequences, have in common, and what follows it
in each; none when they are not all sequences or share nothing. -/
def commonPart (hs : List Expr) : Option (List Expr × List (List Expr)) := do
  let seqs ← sequencesOf hs
  let first ← seqs.head?
  let shared := seqs.foldl (fun n xs => min n (sharedLength first xs)) first.length
  if shared == 0 then none else some (first.take shared, seqs.map (·.drop shared))

/-- Alternatives, simplified; `fuel` bounds how often a common first part is taken
out, each time on strictly smaller branches, so their size is enough. -/
def Expr.choice : Nat → List Expr → Expr
  | fuel, branches =>
    let flat := branches.flatMap fun h =>
      match h with
      | .alt xs => xs
      | h => [h]
    match flat with
    | [] => Expr.fail
    | [h] => h
    | _ =>
      match singleChars flat with
      | some cs => Expr.ofClass true (Ranges.canonical (cs.map fun c => (c, c)))
      | none =>
        match classOfChars flat with
        | some rs => Expr.ofClass true rs
        | none =>
          match classOfBytes flat with
          | some rs => Expr.ofClass false rs
          | none =>
            match fuel, commonPart flat with
            | fuel + 1, some (front, rests) =>
              Expr.seq (front ++ [Expr.choice fuel (rests.map Expr.seq)])
            | _, _ => .alt flat

/-- Alternatives, simplified. -/
def Expr.alternation (branches : List Expr) : Expr := Expr.choice (Expr.sizeAll branches) branches

end Transcribe.Regex
