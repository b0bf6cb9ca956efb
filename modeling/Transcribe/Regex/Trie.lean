/-!
# `Regex.Trie` — alternatives of literals as a tree of bytes

Alternatives that are all literals are compiled as a tree of their bytes rather than
as a union of branches. The tree keeps the order of the alternatives: the first that
matches is the one preferred. So a node's edges are kept in chunks. A literal that
ends at a node closes the node's current chunk, and the edges added after it go to a
new chunk. A byte is looked up only among the edges of the current chunk, so a
literal that comes after a shorter one can add a second edge for a byte already
there.

The compiled tree has one state that every literal's end leads to. Each node that is
not a leaf compiles to a union, and each of its non-empty chunks to one state:

* a chunk of one edge is a state of one byte range, which takes no list;
* a chunk of more edges is a state with a list of that many transitions.

The union takes, in order, each chunk's state, with the end state between one chunk
and the next (a literal ended there). A leaf is not compiled at all: the edge that
reaches it leads to the end state.
-/

namespace Transcribe.Regex

/-- A node of the tree: its edges, as a byte and the node they lead to, and the chunks
of edges closed so far, each as the positions of its first edge and after its last. -/
structure TrieNode where
  edges : List (Nat × Nat)
  chunks : List (Nat × Nat)
  deriving Inhabited

/-- The position where a node's current chunk of edges starts. -/
def TrieNode.activeStart (n : TrieNode) : Nat :=
  match n.chunks.getLast? with
  | some (_, stop) => stop
  | none => 0

/-- The node without edges. -/
def TrieNode.leaf : TrieNode := ⟨[], []⟩

/-- Marks that a literal ends at a node: its current chunk is closed, unless the node
has no edges and is marked already. -/
def TrieNode.markEnd (n : TrieNode) : TrieNode :=
  if n.edges.isEmpty && !n.chunks.isEmpty then n
  else { n with chunks := n.chunks ++ [(n.activeStart, n.edges.length)] }

/-- A tree of bytes: its nodes, the root first. -/
abbrev Trie := Array TrieNode

/-- Follows the edge of a byte from a node within its current chunk, adding the edge
and a new node when the chunk has none; the current chunk stays sorted by byte. -/
def Trie.step (t : Trie) (node b : Nat) : Trie × Nat :=
  let n := t.getD node TrieNode.leaf
  let start := n.activeStart
  let active := n.edges.drop start
  match active.find? (·.1 == b) with
  | some (_, next) => (t, next)
  | none =>
    let next := t.size
    let pos := start + (active.filter (·.1 < b)).length
    let edges := n.edges.take pos ++ [(b, next)] ++ n.edges.drop pos
    ((t.setIfInBounds node { n with edges }).push TrieNode.leaf, next)

/-- Adds a literal's bytes to the tree. -/
def Trie.add (t : Trie) (word : List Nat) : Trie :=
  let (t, last) := word.foldl (fun (t, node) b => t.step node b) (t, 0)
  t.setIfInBounds last ((t.getD last TrieNode.leaf).markEnd)

/-- The tree of literals, in the order of the alternatives. -/
def Trie.ofWords (words : List (List Nat)) : Trie :=
  words.foldl Trie.add #[TrieNode.leaf]

/-- The chunks of a node's edges: the closed ones, then the current one. -/
def TrieNode.chunkEdges (n : TrieNode) : List (List (Nat × Nat)) :=
  n.chunks.map (fun (start, stop) => (n.edges.drop start).take (stop - start)) ++
    [n.edges.drop n.activeStart]

/-- The states and the bytes of lists that a chunk of `k` edges compiles to. -/
def chunkCost (k : Nat) : Nat × Nat :=
  if k == 0 then (0, 0) else if k == 1 then (1, 0) else (1, 8 * k)

/-- The states and the bytes of lists that the subtree of a node compiles to; `fuel`
is at least the depth of the tree. -/
def Trie.subtreeCost (t : Trie) : Nat → Nat → Nat × Nat
  | 0, _ => (0, 0)
  | fuel + 1, node =>
    let n := t.getD node TrieNode.leaf
    let chunks := n.chunkEdges
    let own := chunks.foldl (fun (s, h) c => let (s', h') := chunkCost c.length; (s + s', h + h')) (0, 0)
    let filled := (chunks.filter (!·.isEmpty)).length
    let unionLength := filled + (chunks.length - 1)
    let below := n.edges.foldl (fun (s, h) (_, next) =>
      if (t.getD next TrieNode.leaf).edges.isEmpty then (s, h)
      else
        let (s', h') := t.subtreeCost fuel next
        (s + s', h + h')) (0, 0)
    (own.1 + below.1 + 1, own.2 + below.2 + 4 * unionLength)

/-- The states and the bytes of lists that alternatives of literals compile to: the
end state and the root's subtree. -/
def Trie.cost (t : Trie) : Nat × Nat :=
  let (s, h) := t.subtreeCost t.size 0
  (s + 1, h)

end Transcribe.Regex
