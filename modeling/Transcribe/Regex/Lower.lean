import Transcribe.Regex.Translate
import Transcribe.Regex.Expr
/-!
# `Regex.Lower` — a pattern's tree as the compiler takes it

The tree is walked as `Regex.Translate` walks it, with the same flags in force at every
node, and each node becomes the simplified expression of `Regex.Expr`:

* a literal is its UTF-8 bytes; without regard to case it is the class of the
  characters that fold alike with it (with Unicode), or of an ASCII letter's two cases
  (without), which is a literal again when nothing else folds with it;
* `.` is the class of every character but the line feed (and the carriage return
  under `R`), or of every character under `s`;
* a class is its set's canonical ranges, a class of characters with Unicode and of
  bytes without;
* capture groups are numbered in the order their `(` stand, from one; a group that
  does not capture is its body;
* a repetition is greedy as written, or the other way under the flag `U`.

The walk refuses exactly what the translation refuses, so on a pattern that was
translated it gives an expression.
-/

namespace Transcribe.Regex

open Transcribe.Unicode

/-- The expression of a literal. -/
def literalExpr (flags : Flags) (l : Literal) : Expr :=
  let n := l.c.toNat
  if !flags.caseless then .literal (utf8Bytes n)
  else if flags.unicode then Expr.ofClass true (foldRanges [(n, n)])
  else if l.c.isAlpha then Expr.ofClass false (asciiFoldRanges [(n, n)])
  else .literal (utf8Bytes n)

/-- The expression of `.`. -/
def dotExpr (flags : Flags) : Expr :=
  Expr.ofClass true
    (if flags.dotAll then [(0, maxCodePoint)]
     else if flags.crlf then [(0, 0x09), (0x0B, 0x0C), (0x0E, maxCodePoint)]
     else [(0, 0x09), (0x0B, maxCodePoint)])

mutual

/-- The expression of a node, the flags in force after it, and the number of capture
groups opened so far. -/
def Ast.lower (flags : Flags) (groups : Nat) : Ast → Except RegexError (Expr × Flags × Nat)
  | .empty _ => .ok (.empty, flags, groups)
  | .flags _ letters => .ok (.empty, flags.change letters, groups)
  | .literal l => .ok (literalExpr flags l, flags, groups)
  | .dot _ => .ok (dotExpr flags, flags, groups)
  | .assertion _ kind => .ok (.look (assertionLook flags kind), flags, groups)
  | .unicode span negated query => do
    let s ← unicodeClass flags span negated query
    pure (Expr.ofClass true s.ranges, flags, groups)
  | .perl span kind negated => do
    let s ← perlClass flags span kind negated
    pure (Expr.ofClass flags.unicode s.ranges, flags, groups)
  | .bracketed span negated set => do
    let s ← set.translate flags
    let s ← foldAndNegate flags span negated s
    pure (Expr.ofClass flags.unicode s.ranges, flags, groups)
  | .repetition _ least most greedy body => do
    let (h, after, groups) ← body.lower flags groups
    pure (Expr.repeat least most (greedy != flags.swapGreed) h, after, groups)
  | .group _ groupFlags body =>
    match groupFlags with
    | none => do
      let (h, _, inner) ← body.lower flags (groups + 1)
      pure (.capture (groups + 1) h, flags, inner)
    | some letters => do
      let (h, _, inner) ← body.lower (flags.change letters) groups
      pure (h, flags, inner)
  | .alternation _ branches => do
    let (hs, after, groups) ← Ast.lowerAll flags groups branches
    pure (Expr.alternation hs, after, groups)
  | .concat _ items => do
    let (hs, after, groups) ← Ast.lowerAll flags groups items
    pure (Expr.seq hs, after, groups)

/-- The expressions of nodes in order, the flags passing from each to the next. -/
def Ast.lowerAll (flags : Flags) (groups : Nat) :
    List Ast → Except RegexError (List Expr × Flags × Nat)
  | [] => .ok ([], flags, groups)
  | a :: rest => do
    let (h, after, groups) ← a.lower flags groups
    let (hs, last, groups) ← Ast.lowerAll after groups rest
    pure (h :: hs, last, groups)

end

/-- The expression a pattern's tree is compiled from. -/
def Ast.toExpr (a : Ast) : Except RegexError Expr := do
  let (h, _, _) ← a.lower {} 0
  pure h

end Transcribe.Regex
