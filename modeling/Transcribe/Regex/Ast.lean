import Transcribe.Regex.CharSet
/-!
# `Regex.Ast` — a pattern as it is written

Reading a pattern gives a tree that keeps what was written and where: every node has
the span of the text it was read from. Spans count characters from the start of the
pattern. The tree is turned into something to match with only after reading, and only
if it is not nested too deeply.

Nesting is counted the way a stack of open constructs would grow: every group,
repetition, alternation, sequence of two or more items, and bracketed class is one
level, and inside a bracketed class so is every nested class, every union of two or
more items, and every set operation (`&&`, `--`, `~~`). A pattern whose nesting goes
beyond 250 levels is refused at the first construct, in reading order, that goes
beyond it.

A refused pattern is shown with the spans at fault marked under it: with four spaces
before a pattern of one line, or with numbered lines between rules of `~` when the
pattern has several lines.
-/

namespace Transcribe.Regex

/-- A span of the pattern, from the offset of its first character to the offset after
its last. -/
structure Span where
  start : Nat
  stop : Nat
  deriving DecidableEq, Repr

/-- Why a pattern is refused: the message, the span at fault, and a second span that
the fault refers to. -/
structure RegexError where
  message : String
  span : Span
  aux : Option Span := none
  deriving DecidableEq, Repr

/-- A literal character, with whether it was written as a two-digit hexadecimal escape
`\xNN`: the one way of writing a literal that names a byte rather than a character. -/
structure Literal where
  span : Span
  c : Char
  hexByte : Bool := false
  deriving DecidableEq, Repr

/-- A zero-width assertion as written. -/
inductive Assertion where
  /-- `^` -/
  | lineStart
  /-- `$` -/
  | lineEnd
  /-- `\A` -/
  | textStart
  /-- `\z` -/
  | textEnd
  /-- `\b` -/
  | wordBoundary
  /-- `\B` -/
  | notWordBoundary
  /-- `\b{start}` or `\<` -/
  | wordStart
  /-- `\b{end}` or `\>` -/
  | wordEnd
  /-- `\b{start-half}` -/
  | wordStartHalf
  /-- `\b{end-half}` -/
  | wordEndHalf
  deriving DecidableEq, Repr

/-- How two sets of a class are combined. -/
inductive SetOp where
  | inter
  | diff
  | symDiff
  deriving DecidableEq, Repr

mutual

/-- An item of a bracketed class. -/
inductive ClassItem where
  | empty (span : Span)
  | literal (l : Literal)
  | range (span : Span) (lo hi : Literal)
  | ascii (span : Span) (kind : AsciiClass) (negated : Bool)
  | unicode (span : Span) (negated : Bool) (query : PropertyQuery)
  | perl (span : Span) (kind : PerlClass) (negated : Bool)
  | bracketed (span : Span) (negated : Bool) (set : ClassSet)
  | union (span : Span) (items : List ClassItem)

/-- The contents of a bracketed class: an item, or two combined by a set operation. -/
inductive ClassSet where
  | item (i : ClassItem)
  | op (span : Span) (kind : SetOp) (lhs rhs : ClassSet)

end

/-- A pattern as written. -/
inductive Ast where
  | empty (span : Span)
  /-- A change of flags, `(?i)`, holding until the enclosing group closes. -/
  | flags (span : Span) (letters : List Char)
  | literal (l : Literal)
  | dot (span : Span)
  | assertion (span : Span) (kind : Assertion)
  | unicode (span : Span) (negated : Bool) (query : PropertyQuery)
  | perl (span : Span) (kind : PerlClass) (negated : Bool)
  | bracketed (span : Span) (negated : Bool) (set : ClassSet)
  /-- A repetition, greedy unless a `?` follows it. -/
  | repetition (span : Span) (least : Nat) (most : Option Nat) (greedy : Bool) (body : Ast)
  /-- A group, with the flags it sets for its body when it sets any. -/
  | group (span : Span) (flags : Option (List Char)) (body : Ast)
  | alternation (span : Span) (branches : List Ast)
  | concat (span : Span) (items : List Ast)

/-- The span of a node. -/
def Ast.span : Ast → Span
  | .empty s | .flags s _ | .dot s | .assertion s _ | .unicode s _ _ | .perl s _ _
  | .bracketed s _ _ | .repetition s _ _ _ _ | .group s _ _ | .alternation s _ | .concat s _ => s
  | .literal l => l.span

/-- The span of a class item. -/
def ClassItem.span : ClassItem → Span
  | .empty s | .range s _ _ | .ascii s _ _ | .unicode s _ _ | .perl s _ _ | .bracketed s _ _
  | .union s _ => s
  | .literal l => l.span

/-- The span of a class's contents. -/
def ClassSet.span : ClassSet → Span
  | .item i => i.span
  | .op s _ _ _ => s

/-- The deepest nesting allowed. -/
def nestLimit : Nat := 250

mutual

/-- The span of the first class construct, in reading order, that goes beyond the
nesting limit when the construct sits at `depth`. -/
def ClassItem.tooDeep? (depth : Nat) : ClassItem → Option Span
  | .bracketed span _ set =>
    if depth + 1 > nestLimit then some span else set.tooDeep? (depth + 1)
  | .union span items =>
    if depth + 1 > nestLimit then some span else ClassItem.tooDeepIn? (depth + 1) items
  | _ => none

/-- The first construct too deep among class items, in order. -/
def ClassItem.tooDeepIn? (depth : Nat) : List ClassItem → Option Span
  | [] => none
  | i :: rest =>
    match i.tooDeep? depth with
    | some s => some s
    | none => ClassItem.tooDeepIn? depth rest

/-- The first construct too deep in a class's contents. -/
def ClassSet.tooDeep? (depth : Nat) : ClassSet → Option Span
  | .item i => i.tooDeep? depth
  | .op span _ lhs rhs =>
    if depth + 1 > nestLimit then some span
    else
      match lhs.tooDeep? (depth + 1) with
      | some s => some s
      | none => rhs.tooDeep? (depth + 1)

end

mutual

/-- The span of the first construct, in reading order, that goes beyond the nesting
limit when the node sits at `depth`. -/
def Ast.tooDeep? (depth : Nat) : Ast → Option Span
  | .bracketed span _ set =>
    if depth + 1 > nestLimit then some span else set.tooDeep? (depth + 1)
  | .repetition span _ _ _ body =>
    if depth + 1 > nestLimit then some span else body.tooDeep? (depth + 1)
  | .group span _ body =>
    if depth + 1 > nestLimit then some span else body.tooDeep? (depth + 1)
  | .alternation span branches =>
    if depth + 1 > nestLimit then some span else Ast.tooDeepIn? (depth + 1) branches
  | .concat span items =>
    if depth + 1 > nestLimit then some span else Ast.tooDeepIn? (depth + 1) items
  | _ => none

/-- The first construct too deep among nodes, in order. -/
def Ast.tooDeepIn? (depth : Nat) : List Ast → Option Span
  | [] => none
  | a :: rest =>
    match a.tooDeep? depth with
    | some s => some s
    | none => Ast.tooDeepIn? depth rest

end

/-- The refusal of a pattern nested too deeply, if it is. -/
def Ast.checkNesting (a : Ast) : Except RegexError Unit :=
  match a.tooDeep? 0 with
  | some span =>
    .error ⟨"exceed the maximum number of nested parentheses/brackets (" ++ toString nestLimit ++ ")",
      span, none⟩
  | none => .ok ()

/-- The line and column (both from one) of an offset of the pattern. -/
def lineColumn (p : List Char) (offset : Nat) : Nat × Nat :=
  let before := p.take offset
  let line := (before.filter (· == '\n')).length + 1
  let column := (before.reverse.takeWhile (· != '\n')).length + 1
  (line, column)

/-- The lines of a text: split at line feeds, a final line feed closing the last line,
a carriage return before a line feed dropped. -/
def textLines (s : String) : List String :=
  let parts := s.splitOn "\n"
  let parts := if s.endsWith "\n" then parts.dropLast else parts
  let parts := if s.isEmpty then [] else parts
  parts.map fun l => if l.endsWith "\r" then String.ofList (l.toList.dropLast) else l

/-- The marker line under a pattern line for the spans on it. -/
def markers (padding : Nat) (spans : List ((Nat × Nat) × (Nat × Nat))) : String :=
  let (text, _) := spans.foldl (fun (acc, pos) ((_, startColumn), (_, stopColumn)) =>
    let gap := startColumn - 1 - pos
    let width := max 1 (stopColumn - startColumn)
    (acc ++ String.ofList (List.replicate gap ' ') ++ String.ofList (List.replicate width '^'),
      pos + gap + width)) ("", 0)
  String.ofList (List.replicate padding ' ') ++ text

/-- The refusal of a pattern as it is displayed: the pattern with the spans marked
under it, then the message. -/
def RegexError.render (e : RegexError) (pattern : String) : String :=
  let p := pattern.toList
  let spans := (e.span :: e.aux.toList).map fun s => (lineColumn p s.start, lineColumn p s.stop)
  let spans := spans.mergeSort fun a b => a.1.1 < b.1.1 || (a.1.1 == b.1.1 && a.1.2 ≤ b.1.2)
  let lines := textLines pattern
  let lineCount := lines.length + (if pattern.endsWith "\n" then 1 else 0)
  let multiLine := p.contains '\n'
  let width := if lineCount ≤ 1 then 0 else (toString lineCount).length
  let oneLine := spans.filter fun ((l1, _), (l2, _)) => l1 == l2
  let severalLines := spans.filter fun ((l1, _), (l2, _)) => l1 != l2
  let notated := String.join (lines.zipIdx.map fun (line, k) =>
    let number := toString (k + 1)
    let lead := if width == 0 then "    "
      else String.ofList (List.replicate (width - number.length) ' ') ++ number ++ ": "
    let here := oneLine.filter fun ((l, _), _) => l == k + 1
    lead ++ line ++ "\n" ++
      (if here.isEmpty then "" else markers (if width == 0 then 4 else width + 2) here ++ "\n"))
  if multiLine then
    let divider := String.ofList (List.replicate 79 '~')
    let notes := severalLines.map fun ((l1, c1), (l2, c2)) =>
      "on line " ++ toString l1 ++ " (column " ++ toString c1 ++ ") through line " ++ toString l2 ++
        " (column " ++ toString (c2 - 1) ++ ")"
    "regex parse error:\n" ++ divider ++ "\n" ++ notated ++ divider ++ "\n" ++
      (if notes.isEmpty then "" else "\n".intercalate notes ++ "\n") ++ "error: " ++ e.message
  else "regex parse error:\n" ++ notated ++ "error: " ++ e.message

end Transcribe.Regex
