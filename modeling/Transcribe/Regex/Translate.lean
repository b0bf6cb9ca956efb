import Transcribe.Regex.Syntax
import Transcribe.Regex.Search
/-!
# `Regex.Translate` — from what is written to what is matched

A pattern's tree is turned into a `Node` under the flags in force: `i` (without regard
to case), `m` (`^` and `$` at line ends), `s` (`.` takes line feeds), `R` (lines end at
carriage returns too) and `u` (Unicode, on unless turned off); `x` and `U` change
nothing that is matched. A flag change holds until the group that encloses it closes,
and a group that sets flags sets them for its body.

Without Unicode a pattern still has to match only whole characters of a text, so what
could match part of one is refused: a byte escape `\xNN` above `7F`, `.`, `\B`, and any
complement (`[^a]`, `\W`, `[:^alpha:]`), which would take the bytes above `7F`; a
Unicode class or a character beyond ASCII in a class is refused as well.

Refusals come in the order of a walk that finishes each construct's parts, left to
right, before the construct itself: a bracketed class is refused for its items before
it is refused as a whole.

Without regard to case, a character matches the characters that fold alike with it,
and a class is closed under folding before it is complemented; a set operation folds
both of its sides first. The Perl classes are not folded, as they are already closed.
-/

namespace Transcribe.Regex

/-- The flags that decide what is matched. -/
structure Flags where
  caseless : Bool := false
  multiLine : Bool := false
  dotAll : Bool := false
  crlf : Bool := false
  unicode : Bool := true
  swapGreed : Bool := false
  deriving DecidableEq, Repr

/-- Applies the letters of a flag change: each letter sets its flag, or clears it after
a `-`. -/
def Flags.change (flags : Flags) (letters : List Char) : Flags :=
  (letters.foldl (fun (f, on) c =>
    match c with
    | '-' => (f, false)
    | 'i' => ({ f with caseless := on }, on)
    | 'm' => ({ f with multiLine := on }, on)
    | 's' => ({ f with dotAll := on }, on)
    | 'R' => ({ f with crlf := on }, on)
    | 'u' => ({ f with unicode := on }, on)
    | 'U' => ({ f with swapGreed := on }, on)
    | _ => (f, on)) (flags, true)).1

/-- The message of what could match part of a character. -/
def matchesPartOfChar : String := "pattern can match invalid UTF-8"

/-- The message of Unicode where only bytes are read. -/
def unicodeNotAllowed : String := "Unicode not allowed here"

/-- Refuses a pattern for the construct at a span. -/
def refuseAt {α : Type} (message : String) (span : Span) : Except RegexError α :=
  .error ⟨message, span, none⟩

/-- Closes a set under folding when matching without regard to case, then complements
it when it is negated; without Unicode a complement is refused. -/
def foldAndNegate (flags : Flags) (span : Span) (negated : Bool) (s : CharSet) :
    Except RegexError CharSet :=
  let s := if flags.caseless then (if flags.unicode then CharSet.fold s else .asciiFold s) else s
  if negated then
    if flags.unicode then .ok (.compl s) else refuseAt matchesPartOfChar span
  else .ok s

/-- Closes a set under folding when matching without regard to case. -/
def foldIfCaseless (flags : Flags) (s : CharSet) : CharSet :=
  if flags.caseless then (if flags.unicode then .fold s else .asciiFold s) else s

/-- The set of a Unicode class. -/
def unicodeClass (flags : Flags) (span : Span) (negated : Bool) (query : PropertyQuery) :
    Except RegexError CharSet :=
  if !flags.unicode then refuseAt unicodeNotAllowed span
  else
    match query.resolve with
    | .error e => refuseAt e.message span
    | .ok k => foldAndNegate flags span negated (.property k)

/-- The set of a Perl class: Unicode's, or without Unicode the ASCII class. -/
def perlClass (flags : Flags) (span : Span) (kind : PerlClass) (negated : Bool) :
    Except RegexError CharSet :=
  if flags.unicode then .ok (if negated then .compl (.perl kind) else .perl kind)
  else if negated then refuseAt matchesPartOfChar span
  else .ok (.ascii kind.asAscii)

/-- The character of a literal in a class: without Unicode, it must be ASCII. -/
def classLiteral (flags : Flags) (l : Literal) : Except RegexError Char :=
  if flags.unicode || l.c.toNat < 0x80 then .ok l.c
  else if l.hexByte then refuseAt matchesPartOfChar l.span
  else refuseAt unicodeNotAllowed l.span

/-- Combines two sets. -/
def SetOp.apply : SetOp → CharSet → CharSet → CharSet
  | .inter, a, b => .inter a b
  | .diff, a, b => .diff a b
  | .symDiff, a, b => .symDiff a b

mutual

/-- The set of a class item. -/
def ClassItem.translate (flags : Flags) : ClassItem → Except RegexError CharSet
  | .empty _ => .ok .nothing
  | .literal l => do
    let c ← classLiteral flags l
    pure (.range c c)
  | .range _ lo hi => do
    let a ← classLiteral flags lo
    let b ← classLiteral flags hi
    pure (.range a b)
  | .ascii span kind negated => foldAndNegate flags span negated (.ascii kind)
  | .unicode span negated query => unicodeClass flags span negated query
  | .perl span kind negated => perlClass flags span kind negated
  | .bracketed span negated set => do
    let s ← set.translate flags
    foldAndNegate flags span negated s
  | .union _ items => ClassItem.translateAll flags items

/-- The union of the sets of class items. -/
def ClassItem.translateAll (flags : Flags) : List ClassItem → Except RegexError CharSet
  | [] => .ok .nothing
  | i :: rest => do
    let a ← i.translate flags
    let b ← ClassItem.translateAll flags rest
    pure (.union a b)

/-- The set of a class's contents. -/
def ClassSet.translate (flags : Flags) : ClassSet → Except RegexError CharSet
  | .item i => i.translate flags
  | .op _ kind lhs rhs => do
    let a ← lhs.translate flags
    let b ← rhs.translate flags
    pure (kind.apply (foldIfCaseless flags a) (foldIfCaseless flags b))

end

/-- The node of a literal. -/
def literalNode (flags : Flags) (l : Literal) : Except RegexError Node :=
  if !flags.unicode && l.hexByte && l.c.toNat ≥ 0x80 then refuseAt matchesPartOfChar l.span
  else if !flags.caseless then .ok (.char l.c)
  else if flags.unicode then .ok (.set (.fold (.range l.c l.c)))
  else if l.c.isAlpha then .ok (.set (.asciiFold (.range l.c l.c)))
  else .ok (.char l.c)

/-- The look of an assertion under the flags in force. -/
def assertionLook (flags : Flags) : Assertion → Look
  | .lineStart => if flags.multiLine then .lineStart flags.crlf else .textStart
  | .lineEnd => if flags.multiLine then .lineEnd flags.crlf else .textEnd
  | .textStart => .textStart
  | .textEnd => .textEnd
  | .wordBoundary => .word .boundary !flags.unicode
  | .notWordBoundary => .word .notBoundary !flags.unicode
  | .wordStart => .word .atStart !flags.unicode
  | .wordEnd => .word .atEnd !flags.unicode
  | .wordStartHalf => .word .startHalf !flags.unicode
  | .wordEndHalf => .word .endHalf !flags.unicode

/-- The node of an assertion: `\B` is refused without Unicode, as it would hold between
the bytes of one character. -/
def assertionNode (flags : Flags) (span : Span) (kind : Assertion) : Except RegexError Node :=
  if kind == .notWordBoundary && !flags.unicode then refuseAt matchesPartOfChar span
  else .ok (.look (assertionLook flags kind))

mutual

/-- The node of a pattern's tree, and the flags in force after it. -/
def Ast.translate (flags : Flags) : Ast → Except RegexError (Node × Flags)
  | .empty _ => .ok (.empty, flags)
  | .flags _ letters => .ok (.empty, flags.change letters)
  | .literal l => do
    let n ← literalNode flags l
    pure (n, flags)
  | .dot span =>
    if flags.unicode then .ok (.dot flags.dotAll flags.crlf, flags) else refuseAt matchesPartOfChar span
  | .assertion span kind => do
    let n ← assertionNode flags span kind
    pure (n, flags)
  | .unicode span negated query => do
    let s ← unicodeClass flags span negated query
    pure (.set s, flags)
  | .perl span kind negated => do
    let s ← perlClass flags span kind negated
    pure (.set s, flags)
  | .bracketed span negated set => do
    let s ← set.translate flags
    let s ← foldAndNegate flags span negated s
    pure (.set s, flags)
  | .repetition _ least most _ body => do
    let (n, after) ← body.translate flags
    pure (.rep n least most, after)
  | .group _ groupFlags body => do
    let inner := match groupFlags with
      | some letters => flags.change letters
      | none => flags
    let (n, _) ← body.translate inner
    pure (n, flags)
  | .alternation _ branches => Ast.translateAlternatives flags branches
  | .concat _ items => Ast.translateSequence flags items

/-- The node of a sequence, the flags passing from each item to the next. -/
def Ast.translateSequence (flags : Flags) : List Ast → Except RegexError (Node × Flags)
  | [] => .ok (.empty, flags)
  | [a] => a.translate flags
  | a :: rest => do
    let (n, after) ← a.translate flags
    let (m, last) ← Ast.translateSequence after rest
    pure (.seq n m, last)

/-- The node of alternatives, the flags passing from each branch to the next. -/
def Ast.translateAlternatives (flags : Flags) : List Ast → Except RegexError (Node × Flags)
  | [] => .ok (.empty, flags)
  | [a] => a.translate flags
  | a :: rest => do
    let (n, after) ← a.translate flags
    let (m, last) ← Ast.translateAlternatives after rest
    pure (.alt n m, last)

end

end Transcribe.Regex
