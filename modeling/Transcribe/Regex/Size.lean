import Transcribe.Regex.Expr
import Transcribe.Regex.Trie
/-!
# `Regex.Size` — whether a compiled pattern stays within its size limit

A pattern is compiled into an automaton twice: forwards, with a state at each end of
every capture group, and backwards, without them. Either build is refused once the
memory it takes goes over 10 MiB: 32 bytes per state, with 8 more for each transition
of a state's list of byte ranges and 4 more for each alternative of a union. The
count here follows the builder state by state, in its order.

Each expression compiles to a fragment with a start and an end state. Joining two
fragments patches the first one's end to the second one's start. Patching from a union
adds an alternative to it, which costs memory; patching from any other state costs
nothing.

| expression | states |
|---|---|
| empty, assertion | one |
| literal | one byte range per byte, in a row |
| class of ASCII or of bytes | an end, then one state listing its ranges |
| class beyond ASCII | the UTF-8 automaton of its ranges (below) |
| `e?` | a union, `e`, an empty end |
| `e*` when `e` takes a byte | a union looping through `e` |
| `e*` otherwise | `e`, then three unions and an end: `(e+)?` |
| `e+` | `e` and a union looping back |
| `e{n,}` | `n - 1` copies of `e`, one more, a union looping back |
| `e{n}` | `n` copies of `e` in a row (one empty state when `n` is `0`) |
| `e{n,m}` | `n` copies, an empty end, then a union and a copy per further step |
| capture group | its start, the body, its end (forwards only) |
| sequence | the items in a row (from the last, backwards) |
| alternatives | the branches, then a union and an end |
| alternatives all literals | a tree of their bytes (`Regex.Trie`) |

Forwards, the UTF-8 automaton of a class shares equal states: the byte sequences of its
ranges are added in order to a chain of open nodes, and a node is compiled into a
state when no later sequence can reach it, unless a state with the same transitions is
remembered. It is remembered in one of 10,000 slots chosen by a hash of its
transitions, and a later state for the same slot pushes it out. Backwards, each byte
range of each sequence is a state of its own, unless the same range leading to the same
state is remembered in one of 1,000 slots; every sequence joins one union.

A pattern that need not start at the start of the text (or, backwards, end at its end)
is led by a lazy loop over any byte: a union, an empty end, and a state of one range.
-/

namespace Transcribe.Regex

/-- The bytes one state takes. -/
def stateBytes : Nat := 32

/-- The bytes one transition of a state's list takes. -/
def transitionBytes : Nat := 8

/-- The bytes one alternative of a union takes. -/
def alternateBytes : Nat := 4

/-- The most memory a compiled pattern may take. -/
def sizeLimit : Nat := 10 * 1024 * 1024

/-- A transition over a range of bytes to a state. -/
structure Transition where
  lo : Nat
  hi : Nat
  next : Nat
  deriving DecidableEq, Repr, Inhabited

/-- The state of a build: the states so far (a state's number is its position), the
bytes of their lists, the direction, whether capture groups get states, and the two
memories of states already compiled, each slot marked with the class it was filled
for. -/
structure Builder where
  states : Nat
  heap : Nat
  reverse : Bool
  captures : Bool
  compiled : Array (Nat × List Transition × Nat)
  compiledRound : Nat
  suffixes : Array (Nat × (Nat × Nat × Nat) × Nat)
  suffixRound : Nat

/-- The memory a build takes so far. -/
def Builder.memory (b : Builder) : Nat := b.states * stateBytes + b.heap

/-- A build step: it fails once the memory goes over the limit. -/
abbrev Build := StateT Builder (Except Unit)

/-- Fails if the memory is over the limit. -/
def checkLimit : Build Unit := do
  if (← get).memory > sizeLimit then throw ()

/-- Adds a state whose list takes `bytes`, and gives its number. -/
def addState (bytes : Nat) : Build Nat := do
  let id := (← get).states
  modify fun b => { b with states := b.states + 1, heap := b.heap + bytes }
  checkLimit
  pure id

/-- Adds memory to the lists of the states. -/
def grow (bytes : Nat) : Build Unit := do
  modify fun b => { b with heap := b.heap + bytes }
  checkLimit

/-- A compiled expression: its start and end states, and whether the end is a union. -/
structure Frag where
  start : Nat
  stop : Nat
  stopUnion : Bool

/-- Patches from the end of a fragment: a union gains an alternative. -/
def patchFrom (f : Frag) : Build Unit :=
  if f.stopUnion then grow alternateBytes else pure ()

/-- Patches from a union: it gains an alternative. -/
def patchUnion : Build Unit := grow alternateBytes

/-- One state that is the start and the end: empty, an assertion, a byte range, or
matching nothing. -/
def single : Build Frag := do
  let id ← addState 0
  pure ⟨id, id, false⟩

/-- A class as one state listing its `n` ranges, after its empty end. -/
def listed (n : Nat) : Build Frag := do
  let stop ← addState 0
  let start ← addState (transitionBytes * n)
  pure ⟨start, stop, false⟩

/-- Joins fragments in a row after `first`. -/
def chainFrom (first : Frag) : List (Build Frag) → Build Frag
  | [] => pure first
  | p :: rest => do
    let g ← p
    patchFrom first
    chainFrom ⟨first.start, g.stop, g.stopUnion⟩ rest

/-- Fragments in a row: in order forwards, from the last backwards. -/
def inRow (pieces : List (Build Frag)) : Build Frag := do
  let rev := (← get).reverse
  match (if rev then pieces.reverse else pieces) with
  | [] => single
  | p :: rest => do
    let f ← p
    chainFrom f rest

/-- `k` more copies of a fragment after `acc`, in a loop that keeps no stack. -/
def repeatFrom (body : Build Frag) (acc : Frag) : Nat → Build Frag
  | 0 => pure acc
  | k + 1 => fun b =>
    match body b with
    | .error e => .error e
    | .ok (g, b) =>
      match patchFrom acc b with
      | .error e => .error e
      | .ok (_, b) => repeatFrom body ⟨acc.start, g.stop, g.stopUnion⟩ k b

/-- `n` copies of a fragment in a row. -/
def exactly (body : Build Frag) : Nat → Build Frag
  | 0 => single
  | k + 1 => do
    let f ← body
    repeatFrom body f k

/-- Each further step of a bounded repetition: a union that either takes one more copy
or leaves for the end. -/
def furtherSteps (body : Build Frag) (prev : Frag) : Nat → Build Frag
  | 0 => pure prev
  | k + 1 => fun b =>
    match (do
      let _ ← addState 0
      let c ← body
      patchFrom prev
      patchUnion
      patchUnion
      pure c : Build Frag) b with
    | .error e => .error e
    | .ok (c, b) => furtherSteps body c k b

/-- `e?` -/
def zeroOrOne (body : Build Frag) : Build Frag := do
  let union ← addState 0
  let c ← body
  let empty ← addState 0
  patchUnion
  patchUnion
  patchFrom c
  pure ⟨union, empty, false⟩

/-- `e{n,}`; `nonEmpty` says whether `e` takes at least one byte. -/
def atLeast (body : Build Frag) (nonEmpty : Bool) : Nat → Build Frag
  | 0 =>
    if nonEmpty then do
      let union ← addState 0
      let c ← body
      patchUnion
      patchFrom c
      pure ⟨union, union, true⟩
    else do
      let c ← body
      let _ ← addState 0
      patchFrom c
      patchUnion
      let question ← addState 0
      let empty ← addState 0
      patchUnion
      patchUnion
      patchUnion
      pure ⟨question, empty, false⟩
  | 1 => do
    let c ← body
    let union ← addState 0
    patchFrom c
    patchUnion
    pure ⟨c.start, union, true⟩
  | k + 2 => do
    let pre ← exactly body (k + 1)
    let last ← body
    let union ← addState 0
    patchFrom pre
    patchFrom last
    patchUnion
    pure ⟨pre.start, union, true⟩

/-- `e{n,m}` with `n < m`. -/
def bounded (body : Build Frag) (n m : Nat) : Build Frag := do
  let pre ← exactly body n
  let empty ← addState 0
  let last ← furtherSteps body pre (m - n)
  patchFrom last
  pure ⟨pre.start, empty, false⟩

/-- A repetition. -/
def repetition (least : Nat) (most : Option Nat) (nonEmpty : Bool) (body : Build Frag) :
    Build Frag :=
  match least, most with
  | 0, some 1 => zeroOrOne body
  | n, none => atLeast body nonEmpty n
  | n, some m => if n == m then exactly body n else bounded body n m

/-- A capture group: its start and end states around the body, forwards only. -/
def captured (body : Build Frag) : Build Frag := do
  if (← get).captures then
    let start ← addState 0
    let inner ← body
    let stop ← addState 0
    patchFrom inner
    pure ⟨start, stop, false⟩
  else body

/-- The alternatives after the second: each joins the union and the end. -/
def moreBranches : List (Build Frag) → Build Unit
  | [] => pure ()
  | p :: rest => do
    let f ← p
    patchUnion
    patchFrom f
    moreBranches rest

/-- Alternatives: the first two branches, a union and an end, then the others. -/
def branches : List (Build Frag) → Build Frag
  | [] => single
  | [p] => p
  | p :: q :: rest => do
    let first ← p
    let second ← q
    let union ← addState 0
    let stop ← addState 0
    patchUnion
    patchFrom first
    patchUnion
    patchFrom second
    moreBranches rest
    pure ⟨union, stop, false⟩

/-- Alternatives of literals, as a tree of their bytes (read backwards in a backwards
build). -/
def literalTree (words : List (List Nat)) : Build Frag := do
  let rev := (← get).reverse
  let (states, heap) := (Trie.ofWords (if rev then words.map List.reverse else words)).cost
  let first := (← get).states
  modify fun b => { b with states := b.states + states, heap := b.heap + heap }
  checkLimit
  pure ⟨first + states - 1, first, false⟩

/-- The FNV-1a hash of numbers. -/
def fnvHash (xs : List Nat) : UInt64 :=
  xs.foldl (fun h x => (h ^^^ x.toUInt64) * 1099511628211) 14695981039346656037

/-- The numbers of transitions, for hashing. -/
def transitionNumbers (ts : List Transition) : List Nat :=
  ts.flatMap fun t => [t.lo, t.hi, t.next]

/-- The state of a node with these transitions: one remembered for the same
transitions, or a new state, remembered in its slot. -/
def compileNode (trans : List Transition) : Build Nat := do
  let b ← get
  let slot := (fnvHash (transitionNumbers trans) % 10000).toNat
  match b.compiled[slot]? with
  | some (round, key, id) =>
    if round == b.compiledRound && key == trans then return id
  | none => pure ()
  let id ← addState (transitionBytes * trans.length)
  modify fun b => { b with compiled := b.compiled.setIfInBounds slot (b.compiledRound, trans, id) }
  pure id

/-- An open node of the UTF-8 automaton: its finished transitions, and the byte range of
the last one, whose target is not known yet. -/
structure OpenNode where
  trans : List Transition
  last : Option (Nat × Nat)
  deriving Inhabited

/-- A node's transitions once its last one goes to `next`. -/
def OpenNode.close (n : OpenNode) (next : Nat) : List Transition :=
  n.trans ++ (n.last.map fun (lo, hi) => ⟨lo, hi, next⟩).toList

/-- The chain of open nodes with its top one's last transition going to `next`. -/
def closeTop (chain : Array OpenNode) (next : Nat) : Array OpenNode :=
  match chain.back? with
  | some n => chain.pop.push ⟨n.close next, none⟩
  | none => chain

/-- Compiles the open nodes above the first `keep + 1`, the top one first, each one's
last transition going to the state of the one above it (the top one's to `next`);
then closes the top one left. `fuel` is at least the chain's length. -/
def closeAbove (keep : Nat) : Nat → Array OpenNode → Nat → Build (Array OpenNode)
  | 0, chain, next => pure (closeTop chain next)
  | fuel + 1, chain, next =>
    match chain.back? with
    | some n =>
      if keep + 1 < chain.size then do
        let id ← compileNode (n.close next)
        closeAbove keep fuel chain.pop id
      else pure (closeTop chain next)
    | none => pure chain

/-- Adds one byte sequence to the chain: the open nodes it does not share are compiled,
and its other byte ranges open new nodes. -/
def addSequence (target : Nat) (chain : Array OpenNode) (seq : ByteRanges) :
    Build (Array OpenNode) := do
  let shared := ((chain.toList.zip seq).takeWhile fun (n, r) => n.last == some r).length
  let chain ← closeAbove shared chain.size chain target
  match seq.drop shared with
  | [] => pure chain
  | r :: rest =>
    let chain := match chain.back? with
      | some n => chain.pop.push { n with last := some r }
      | none => chain
    pure (rest.foldl (fun c r => c.push ⟨[], some r⟩) chain)

/-- A class beyond ASCII, forwards: its UTF-8 automaton with shared states. -/
def utf8Forwards (rs : Ranges) : Build Frag := do
  let target ← addState 0
  modify fun b => { b with compiledRound := b.compiledRound + 1 }
  let seqs := rs.flatMap fun (lo, hi) => utf8Sequences lo hi
  let chain ← seqs.foldlM (addSequence target) #[⟨[], none⟩]
  let chain ← closeAbove 0 chain.size chain target
  let root := (chain[0]?.map (·.trans)).getD []
  let start ← compileNode root
  pure ⟨start, target, false⟩

/-- The state of a byte range leading to `stop`, in a backwards class: one remembered,
or a new one. -/
def suffixState (stop lo hi : Nat) : Build Nat := do
  let b ← get
  let slot := (fnvHash [stop, lo, hi] % 1000).toNat
  match b.suffixes[slot]? with
  | some (round, key, id) =>
    if round == b.suffixRound && key == (stop, lo, hi) then return id
  | none => pure ()
  let id ← addState 0
  modify fun b => { b with suffixes := b.suffixes.setIfInBounds slot (b.suffixRound, (stop, lo, hi), id) }
  pure id

/-- A class beyond ASCII, backwards: each sequence a row of byte range states into the
end, sharing the remembered ones, and joining one union. -/
def utf8Backwards (rs : Ranges) : Build Frag := do
  modify fun b => { b with suffixRound := b.suffixRound + 1 }
  let union ← addState 0
  let altEnd ← addState 0
  let seqs := rs.flatMap fun (lo, hi) => utf8Sequences lo hi
  for seq in seqs do
    let _ ← seq.foldlM (fun stop (lo, hi) => suffixState stop lo hi) altEnd
    patchUnion
  pure ⟨union, altEnd, false⟩

/-- A class. -/
def classFrag (unicode : Bool) (rs : Ranges) : Build Frag := do
  let ascii := match rs.getLast? with
    | some (_, hi) => hi ≤ 0x7F
    | none => true
  if !unicode || ascii then listed rs.length
  else if (← get).reverse then utf8Backwards rs
  else utf8Forwards rs

/-- The literals of alternatives that are all literals. -/
def literalWords (hs : List Expr) : Option (List (List Nat)) :=
  hs.mapM fun h =>
    match h with
    | .literal bs => some bs
    | _ => none

mutual

/-- Compiles an expression. -/
def compileExpr : Expr → Build Frag
  | .empty => single
  | .literal bs => inRow (bs.map fun _ => single)
  | .cls unicode rs => classFrag unicode rs
  | .look _ => single
  | .rep least most _ body =>
    repetition least most ((body.minLen.getD 0) > 0) (compileExpr body)
  | .capture _ body => captured (compileExpr body)
  | .concat items => inRow (compileEach items)
  | .alt hs =>
    match literalWords hs with
    | some words => if words.length ≥ 2 then literalTree words else branches (compileEach hs)
    | none => branches (compileEach hs)

/-- The compilations of expressions, each run when its turn comes. -/
def compileEach : List Expr → List (Build Frag)
  | [] => []
  | h :: rest => compileExpr h :: compileEach rest

end

/-- Compiles a whole pattern in one direction: the loop over any byte in front unless
the pattern is anchored at the side it is read from, the pattern in the capture group
of the whole match, and the state of a match. -/
def compileWhole (h : Expr) : Build Unit := do
  let rev := (← get).reverse
  let anchored := if rev then h.closesWith .textEnd else h.leadsWith .textStart
  let front ← if anchored then single else atLeast (listed 1) true 0
  let whole ← captured (compileExpr h)
  let _ ← addState 0
  patchFrom whole
  patchFrom front

/-- A build from nothing, in one direction. -/
def Builder.start (reverse : Bool) : Builder :=
  { states := 0, heap := 0, reverse, captures := !reverse,
    compiled := Array.replicate 10000 (0, [], 0), compiledRound := 0,
    suffixes := Array.replicate 1000 (0, (0, 0, 0), 0), suffixRound := 0 }

/-- Whether a pattern compiles within the size limit, forwards and backwards. -/
def Expr.fitsLimit (h : Expr) : Bool :=
  let fits (reverse : Bool) : Bool :=
    match (compileWhole h).run (Builder.start reverse) with
    | .ok _ => true
    | .error _ => false
  fits false && fits true

end Transcribe.Regex
