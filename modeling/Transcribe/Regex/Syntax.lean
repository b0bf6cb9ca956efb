import Transcribe.Regex.Ast
/-!
# `Regex.Syntax` — reading a pattern

A pattern is read left to right into an `Ast`. The grammar is the usual one of regular
expressions: alternatives (`a|b`), sequences, repetitions (`*`, `+`, `?`, `{n}`,
`{n,}`, `{n,m}`, each possibly followed by `?`), groups (`(…)`, `(?:…)`,
`(?P<name>…)`, `(?<name>…)`), flag changes (`(?i)`, `(?-s:…)`), bracketed classes,
`.`, the anchors `^` and `$`, and escapes.

Reading only needs one flag, `x`: while it is on, blanks and `#` comments between
items are skipped, and so are those inside a few constructs (between the digits of a
counted repetition or of a hexadecimal escape, inside `\p{…}` and `\b{…}`). A flag
change holds until the enclosing group closes, across its alternatives.

A pattern that cannot be read is refused with the message and the span of the first
fault found reading left to right.
-/

namespace Transcribe.Regex

/-- The state of reading: the capture names so far, with their spans. -/
structure ReadState where
  names : List (String × Span) := []

/-- Reading: it keeps the capture names and may refuse the pattern. -/
abbrev Reading := StateT ReadState (Except RegexError)

/-- Refuses a pattern. -/
def refuse {α : Type} (message : String) (start stop : Nat) : Reading α :=
  throw ⟨message, ⟨start, stop⟩, none⟩

/-- The characters that are special outside classes or inside them. -/
def isMetaChar (c : Char) : Bool := "\\.+*?()|[]\x7b\x7d^$#&-~".toList.contains c

/-- The characters that stand for themselves when escaped: every ASCII character but
letters, digits, `<` and `>`. -/
def isEscapable (c : Char) : Bool :=
  isMetaChar c || (c.toNat < 0x80 && !c.isAlphanum && c != '<' && c != '>')

/-- Whether a character is a hexadecimal digit. -/
def isHexDigit (c : Char) : Bool := c.isDigit || ('a' ≤ c && c ≤ 'f') || ('A' ≤ c && c ≤ 'F')

/-- The value of a hexadecimal digit. -/
def hexValue (c : Char) : Nat :=
  if c.isDigit then c.toNat - '0'.toNat
  else if 'a' ≤ c && c ≤ 'f' then c.toNat - 'a'.toNat + 10
  else c.toNat - 'A'.toNat + 10

/-- The character of a code, if it is a Unicode scalar value. -/
def scalarOf? (n : Nat) : Option Char :=
  if n < 0xD800 || (0xE000 ≤ n && n ≤ 0x10FFFF) then some (Char.ofNat n) else none

/-- Whether the pattern has the text `s` at offset `i`. -/
def textAt (p : Array Char) (i : Nat) (s : String) : Bool :=
  s.toList.zipIdx.all fun (c, k) => p[i + k]? == some c

/-- Skips blanks and `#` comments (up to and with the next line feed) when the verbose
flag is set. -/
def skipSpace (p : Array Char) (verbose : Bool) (i : Nat) : Nat :=
  if verbose then go (p.size + 1) i else i
where
  go : Nat → Nat → Nat
    | 0, i => i
    | n + 1, i =>
      match p[i]? with
      | some '#' => go n (lineAfter (i + 1) (p.size + 1))
      | some c => if Text.isBlank c then go n (i + 1) else i
      | none => i
  lineAfter (i : Nat) : Nat → Nat
    | 0 => i
    | n + 1 =>
      match p[i]? with
      | some '\n' => i + 1
      | some _ => lineAfter (i + 1) n
      | none => i

/-- Steps past the character at `i`, then skips blanks and comments in verbose mode. -/
def stepSkip (p : Array Char) (verbose : Bool) (i : Nat) : Nat := skipSpace p verbose (i + 1)

/-- The character after the one at `i`, looking past blanks in verbose mode. The look
ahead passes over blanks and the first `#`, and stops at anything else. -/
def peekSpace (p : Array Char) (verbose : Bool) (i : Nat) : Option Char :=
  if !verbose then p[i + 1]?
  else if i ≥ p.size then none
  else p[go (p.size + 1) (i + 1) false]?
where
  go : Nat → Nat → Bool → Nat
    | 0, k, _ => k
    | n + 1, k, inComment =>
      match p[k]? with
      | none => i + 1
      | some c =>
        if Text.isBlank c then go n (k + 1) inComment
        else if !inComment && c == '#' then go n (k + 1) true
        else if inComment && c == '\n' then go n (k + 1) false
        else k

/-- The message of an escape cut short by the end of the pattern. -/
def escapeUnfinished : String := "incomplete escape sequence, reached end of pattern prematurely"

/-- What an escape, or a character of a class, stands for. -/
inductive Primitive where
  | literal (l : Literal)
  | assertion (span : Span) (kind : Assertion)
  | unicode (span : Span) (negated : Bool) (query : PropertyQuery)
  | perl (span : Span) (kind : PerlClass) (negated : Bool)

/-- The span of a primitive. -/
def Primitive.span : Primitive → Span
  | .literal l => l.span
  | .assertion s _ | .unicode s _ _ | .perl s _ _ => s

/-- A primitive as a node. -/
def Primitive.toAst : Primitive → Ast
  | .literal l => .literal l
  | .assertion s k => .assertion s k
  | .unicode s n q => .unicode s n q
  | .perl s k n => .perl s k n

/-- A primitive as a class item: assertions have no place in a class. -/
def Primitive.toClassItem : Primitive → Reading ClassItem
  | .literal l => pure (.literal l)
  | .unicode s n q => pure (.unicode s n q)
  | .perl s k n => pure (.perl s k n)
  | .assertion s _ => refuse "invalid escape sequence found in character class" s.start s.stop

/-- A primitive as a bound of a range: only a literal. -/
def Primitive.toBound : Primitive → Reading Literal
  | .literal l => pure l
  | prim => refuse "invalid range boundary, must be a literal" prim.span.start prim.span.stop

/-- The value of hexadecimal digits. -/
def hexNumber (digits : List Char) : Nat := digits.foldl (fun acc c => acc * 16 + hexValue c) 0

/-- Reads the digits of a braced hexadecimal escape whose `{` is at `brace`: the digits
and the position of the `}`. -/
def readBracedHex (p : Array Char) (verbose : Bool) (brace : Nat) : Reading (List Char × Nat) :=
  go (p.size + 1) [] (stepSkip p verbose brace)
where
  go : Nat → List Char → Nat → Reading (List Char × Nat)
    | 0, _, _ => refuse escapeUnfinished brace p.size
    | n + 1, acc, k =>
      match p[k]? with
      | none => refuse escapeUnfinished brace p.size
      | some '\x7d' => pure (acc.reverse, k)
      | some c =>
        if isHexDigit c then go n (c :: acc) (stepSkip p verbose k)
        else refuse "invalid hexadecimal digit" k (k + 1)

/-- Reads `width` hexadecimal digits from `k`: the digits and the position of the last. -/
def readFixedHex (p : Array Char) (verbose : Bool) : Nat → List Char → Nat → Reading (List Char × Nat)
  | 0, acc, k => pure (acc.reverse, k)
  | n + 1, acc, k =>
    let k := if acc.isEmpty then k else stepSkip p verbose k
    match p[k]? with
    | none => refuse escapeUnfinished p.size p.size
    | some c =>
      if isHexDigit c then
        if n == 0 then pure ((c :: acc).reverse, k) else readFixedHex p verbose n (c :: acc) k
      else refuse "invalid hexadecimal digit" k (k + 1)

/-- Reads a hexadecimal escape whose backslash is at `start` and whose letter (`x`, `u`
or `U`) is at `i`, with `width` digits or in braces. -/
def readHex (p : Array Char) (verbose : Bool) (start i width : Nat) : Reading (Literal × Nat) := do
  let j := stepSkip p verbose i
  match p[j]? with
  | none => refuse escapeUnfinished p.size p.size
  | some '\x7b' =>
    let (digits, close) ← readBracedHex p verbose j
    let after := stepSkip p verbose close
    if digits.isEmpty then refuse "hexadecimal literal empty" j after
    match scalarOf? (hexNumber digits) with
    | some c => pure (⟨⟨start, after⟩, c, false⟩, after)
    | none => refuse "hexadecimal literal is not a Unicode scalar value" (j + 1) close
  | some _ =>
    let (digits, last) ← readFixedHex p verbose width [] j
    let after := stepSkip p verbose last
    match scalarOf? (hexNumber digits) with
    | some c => pure (⟨⟨start, after⟩, c, p[i]? == some 'x'⟩, after)
    | none => refuse "hexadecimal literal is not a Unicode scalar value" j after

/-- Splits the body of `\p{…}` into a name and a value at its first `!=`, or else its
first `:`, or else its first `=`; the `Bool` tells a `!=`. -/
def splitPropertyBody (body : String) : Option (String × String × Bool) :=
  let split (sep : String) : Option (String × String) :=
    match body.splitOn sep with
    | name :: rest@(_ :: _) => some (name, sep.intercalate rest)
    | _ => none
  match split "!=" with
  | some (n, v) => some (n, v, true)
  | none => ((split ":").orElse fun _ => split "=").map fun (n, v) => (n, v, false)

/-- Collects the characters of `\p{…}` after the `{` at `brace`, skipping blanks in
verbose mode: the characters and the position of the `}`. -/
def readPropertyBody (p : Array Char) (verbose : Bool) (brace : Nat) : Reading (List Char × Nat) :=
  go (p.size + 1) [] (stepSkip p verbose brace)
where
  go : Nat → List Char → Nat → Reading (List Char × Nat)
    | 0, _, _ => refuse escapeUnfinished p.size p.size
    | n + 1, acc, k =>
      match p[k]? with
      | none => refuse escapeUnfinished p.size p.size
      | some '\x7d' => pure (acc.reverse, k)
      | some c => go n (c :: acc) (stepSkip p verbose k)

/-- Reads a Unicode class whose backslash is at `start` and whose letter (`p` or `P`)
is at `i`. A `!=` between name and value negates it once more. -/
def readUnicodeClass (p : Array Char) (verbose : Bool) (start i : Nat) : Reading (Primitive × Nat) := do
  let negated := p[i]? == some 'P'
  let j := stepSkip p verbose i
  match p[j]? with
  | none => refuse escapeUnfinished p.size p.size
  | some '\x7b' =>
    let (body, close) ← readPropertyBody p verbose j
    let body := String.ofList body
    let span : Span := ⟨start, close + 1⟩
    match splitPropertyBody body with
    | some (name, value, notEqual) => pure (.unicode span (negated != notEqual) (.byValue name value), close + 1)
    | none => pure (.unicode span negated (.named body), close + 1)
  | some '\\' => refuse "invalid Unicode character class" j (j + 1)
  | some c =>
    let after := stepSkip p verbose j
    pure (.unicode ⟨start, after⟩ negated (.oneLetter c), after)

/-- Collects the letters and dashes of a special word boundary from `k`: them and where
they stop. -/
def readBoundaryName (p : Array Char) (verbose : Bool) : Nat → List Char → Nat → List Char × Nat
  | 0, acc, k => (acc.reverse, k)
  | n + 1, acc, k =>
    match p[k]? with
    | some c => if c.isAlpha || c == '-' then readBoundaryName p verbose n (c :: acc) (stepSkip p verbose k)
      else (acc.reverse, k)
    | none => (acc.reverse, k)

/-- Reads a special word boundary `\b{…}` whose backslash is at `start` and whose brace
is at `i`: the assertion and the position after it, or nothing when the brace starts a
repetition instead. -/
def readSpecialBoundary (p : Array Char) (verbose : Bool) (start i : Nat) :
    Reading (Option (Assertion × Nat)) := do
  let k := stepSkip p verbose i
  match p[k]? with
  | none =>
    refuse ("found either the beginning of a special word boundary or a bounded repetition on a " ++
      "\\b with an opening brace, but no closing brace") start p.size
  | some c =>
    if !(c.isAlpha || c == '-') then pure none
    else
      let (name, close) := readBoundaryName p verbose (p.size + 1) [] k
      if p[close]? != some '\x7d' then
        refuse "special word boundary assertion is either unclosed or contains an invalid character" i close
      else
        match String.ofList name with
        | "start" => pure (some (.wordStart, close + 1))
        | "end" => pure (some (.wordEnd, close + 1))
        | "start-half" => pure (some (.wordStartHalf, close + 1))
        | "end-half" => pure (some (.wordEndHalf, close + 1))
        | _ =>
          refuse ("unrecognized special word boundary assertion, valid choices are: " ++
            "start, end, start-half or end-half") k close

/-- Reads an escape whose backslash is at `start`: what it stands for and the position
after it. -/
def readEscape (p : Array Char) (verbose : Bool) (start : Nat) : Reading (Primitive × Nat) := do
  let i := start + 1
  match p[i]? with
  | none => refuse escapeUnfinished start i
  | some c =>
    if c.isDigit then refuse "backreferences are not supported" start (i + 1)
    else if c == 'x' then
      let (l, j) ← readHex p verbose start i 2
      pure (.literal l, j)
    else if c == 'u' then
      let (l, j) ← readHex p verbose start i 4
      pure (.literal l, j)
    else if c == 'U' then
      let (l, j) ← readHex p verbose start i 8
      pure (.literal l, j)
    else if c == 'p' || c == 'P' then readUnicodeClass p verbose start i
    else
      let j := i + 1
      let span : Span := ⟨start, j⟩
      let lit (d : Char) : Reading (Primitive × Nat) := pure (.literal ⟨span, d, false⟩, j)
      let look (k : Assertion) : Reading (Primitive × Nat) := pure (.assertion span k, j)
      match c with
      | 'd' => pure (.perl span .digit false, j)
      | 's' => pure (.perl span .space false, j)
      | 'w' => pure (.perl span .word false, j)
      | 'D' => pure (.perl span .digit true, j)
      | 'S' => pure (.perl span .space true, j)
      | 'W' => pure (.perl span .word true, j)
      | _ =>
        if isEscapable c then lit c
        else match c with
          | 'a' => lit '\x07'
          | 'f' => lit '\x0C'
          | 't' => lit '\t'
          | 'n' => lit '\n'
          | 'r' => lit '\r'
          | 'v' => lit '\x0B'
          | 'A' => look .textStart
          | 'z' => look .textEnd
          | 'B' => look .notWordBoundary
          | '<' => look .wordStart
          | '>' => look .wordEnd
          | 'b' =>
            if p[j]? == some '\x7b' then
              match ← readSpecialBoundary p verbose start j with
              | some (k, l) => pure (.assertion ⟨start, l⟩ k, l)
              | none => look .wordBoundary
            else look .wordBoundary
          | _ => refuse "unrecognized escape sequence" start j

/-- The message of an unclosed class. -/
def unclosedClass : String := "unclosed character class"

/-- Reads one item of a class at `i`: an escape, or a character standing for itself. -/
def readClassPrimitive (p : Array Char) (verbose : Bool) (i : Nat) : Reading (Primitive × Nat) :=
  match p[i]? with
  | some '\\' => readEscape p verbose i
  | some c => pure (.literal ⟨⟨i, i + 1⟩, c, false⟩, i + 1)
  | none => refuse unclosedClass i i

/-- Reads a class item at `i` that may be a range `a-z`; `opening` is the span of the
innermost open class, which an unclosed class is blamed on. -/
def readClassRange (p : Array Char) (verbose : Bool) (opening : Span) (i : Nat) : Reading (ClassItem × Nat) := do
  let (first, j) ← readClassPrimitive p verbose i
  let j := skipSpace p verbose j
  if j ≥ p.size then refuse unclosedClass opening.start opening.stop
  let after := peekSpace p verbose j
  if p[j]? != some '-' || after == some ']' || after == some '-' then
    let item ← first.toClassItem
    pure (item, j)
  else
    let k := stepSkip p verbose j
    if k ≥ p.size then refuse unclosedClass opening.start opening.stop
    let (second, l) ← readClassPrimitive p verbose k
    let span : Span := ⟨first.span.start, second.span.stop⟩
    let lo ← first.toBound
    let hi ← second.toBound
    if hi.c < lo.c then refuse "invalid character class range, the start must be <= the end" span.start span.stop
    pure (.range span lo hi, l)

/-- Reads an ASCII class `[:name:]` or `[:^name:]` at `i`, if there is one. -/
def readAsciiClass (p : Array Char) (i : Nat) : Option (ClassItem × Nat) :=
  if p[i + 1]? != some ':' then none
  else
    let negated := p[i + 2]? == some '^'
    let nameStart := if negated then i + 3 else i + 2
    let name := (p.extract nameStart p.size).toList.takeWhile (· != ':')
    let close := nameStart + name.length
    if p[close]? == some ':' && p[close + 1]? == some ']' then
      (AsciiClass.ofName? (String.ofList name)).map fun k => (.ascii ⟨i, close + 2⟩ k negated, close + 2)
    else none

/-- The items of a union being read, last first, with the union's span. -/
structure UnionSoFar where
  span : Span
  items : List ClassItem

/-- Adds an item to a union; the union's span runs from its first item to its last. -/
def UnionSoFar.push (u : UnionSoFar) (i : ClassItem) : UnionSoFar :=
  { span := ⟨if u.items.isEmpty then i.span.start else u.span.start, i.span.stop⟩,
    items := i :: u.items }

/-- A union as one item: nothing, its only item, or the union. -/
def UnionSoFar.toItem (u : UnionSoFar) : ClassItem :=
  match u.items with
  | [] => .empty u.span
  | [i] => i
  | items => .union u.span items.reverse

/-- The contents of a class so far: the pending left side and operation, if any,
combined with the last item. -/
def combine (pending : Option (SetOp × ClassSet)) (i : ClassItem) : ClassSet :=
  match pending with
  | none => .item i
  | some (op, lhs) => .op ⟨lhs.span.start, i.span.stop⟩ op lhs (.item i)

/-- The leading `-` items of a class and a leading `]`, from `j`: the union so far and
where they stop. -/
def readClassLead (p : Array Char) (verbose : Bool) (o : Nat) :
    Nat → UnionSoFar → Nat → Reading (UnionSoFar × Nat)
  | 0, u, j => pure (u, j)
  | n + 1, u, j =>
    if p[j]? == some '-' then do
      let k := stepSkip p verbose j
      if k ≥ p.size then refuse unclosedClass o o
      readClassLead p verbose o n (u.push (.literal ⟨⟨j, j + 1⟩, '-', false⟩)) k
    else pure (u, j)

mutual

/-- Reads a bracketed class whose `[` is at `o`: its span, whether it is negated, its
contents, and the position after its `]`. -/
def readBracketed (p : Array Char) (verbose : Bool) : Nat → Nat → Reading ((Span × Bool × ClassSet) × Nat)
  | 0, o => refuse unclosedClass o o
  | fuel + 1, o => do
    let j := stepSkip p verbose o
    if j ≥ p.size then refuse unclosedClass o p.size
    let negated := p[j]? == some '^'
    let j := if negated then stepSkip p verbose j else j
    if j ≥ p.size then refuse unclosedClass o p.size
    let (u, j) ← readClassLead p verbose o (p.size + 1) ⟨⟨j, j⟩, []⟩ j
    let (u, j) ← if u.items.isEmpty && p[j]? == some ']' then do
        let k := stepSkip p verbose j
        if k ≥ p.size then refuse unclosedClass o p.size
        pure (u.push (.literal ⟨⟨j, j + 1⟩, ']', false⟩), k)
      else pure (u, j)
    let (set, k) ← readClassBody p verbose fuel ⟨o, j⟩ none u j
    pure ((⟨o, k⟩, negated, set), k)

/-- Reads the items of a class up to its `]`: `opening` is the span of its opening,
`pending` the left side and operation still to apply, `u` the current union. -/
def readClassBody (p : Array Char) (verbose : Bool) :
    Nat → Span → Option (SetOp × ClassSet) → UnionSoFar → Nat → Reading (ClassSet × Nat)
  | 0, opening, _, _, _ => refuse unclosedClass opening.start opening.stop
  | fuel + 1, opening, pending, u, i => do
    let i := skipSpace p verbose i
    match p[i]? with
    | none => refuse unclosedClass opening.start opening.stop
    | some ']' => pure (combine pending u.toItem, i + 1)
    | some '[' =>
      match readAsciiClass p i with
      | some (item, j) => readClassBody p verbose fuel opening pending (u.push item) j
      | none => do
        let ((span, negated, set), j) ← readBracketed p verbose fuel i
        readClassBody p verbose fuel opening pending (u.push (.bracketed span negated set)) j
    | some c =>
      let next := p[i + 1]?
      let operation : Option SetOp :=
        if c == '&' && next == some '&' then some .inter
        else if c == '-' && next == some '-' then some .diff
        else if c == '~' && next == some '~' then some .symDiff
        else none
      match operation with
      | some op =>
        readClassBody p verbose fuel opening (some (op, combine pending u.toItem)) ⟨⟨i + 2, i + 2⟩, []⟩ (i + 2)
      | none => do
        let (item, j) ← readClassRange p verbose opening i
        readClassBody p verbose fuel opening pending (u.push item) j

end

/-- The message of a repetition without anything to repeat. -/
def repetitionMissing : String := "repetition operator missing expression"

/-- The message of an unclosed counted repetition. -/
def repetitionUnclosed : String := "unclosed counted repetition"

/-- Collects the digits of a decimal number from `k`, skipping blanks between them in
verbose mode: the digits and where they stop. -/
def readDigits (p : Array Char) (verbose : Bool) : Nat → List Char → Nat → List Char × Nat
  | 0, acc, k => (acc.reverse, k)
  | n + 1, acc, k =>
    match p[k]? with
    | some c => if c.isDigit then readDigits p verbose n (c :: acc) (stepSkip p verbose k) else (acc.reverse, k)
    | none => (acc.reverse, k)

/-- Skips blanks after a decimal number, and comments too in verbose mode. -/
def skipTrailingBlanks (p : Array Char) (verbose : Bool) : Nat → Nat → Nat
  | 0, k => k
  | n + 1, k =>
    match p[k]? with
    | some c => if Text.isBlank c then skipTrailingBlanks p verbose n (stepSkip p verbose k) else k
    | none => k

/-- Reads a decimal number of a counted repetition at `i`, with blanks around it: the
number or its refusal, and the position after it. -/
def readCount (p : Array Char) (verbose : Bool) (i : Nat) : Except RegexError Nat × Nat :=
  let i := i + ((p.extract i p.size).toList.takeWhile Text.isBlank).length
  let (digits, stop) := readDigits p verbose (p.size + 1) [] i
  let after := skipTrailingBlanks p verbose (p.size + 1) stop
  if digits.isEmpty then (.error ⟨"repetition quantifier expects a valid decimal", ⟨i, stop⟩, none⟩, after)
  else
    let n := digits.foldl (fun acc c => acc * 10 + (c.toNat - '0'.toNat)) 0
    if n < Nat.pow 2 32 then (.ok n, after) else (.error ⟨"decimal literal invalid", ⟨i, stop⟩, none⟩, after)

/-- Reads the bounds of a counted repetition whose `{` is at `s`: the least and most
counts, whether it is greedy (no `?` after it), and the position after the repetition. -/
def readBounds (p : Array Char) (verbose : Bool) (s : Nat) :
    Reading (Nat × Option Nat × Bool × Nat) := do
  let i := stepSkip p verbose s
  if i ≥ p.size then refuse repetitionUnclosed s p.size
  let (first, i) := readCount p verbose i
  if i ≥ p.size then refuse repetitionUnclosed s i
  let (least, most, i) ← if p[i]? == some ',' then do
      let j := stepSkip p verbose i
      if j ≥ p.size then refuse repetitionUnclosed s p.size
      if p[j]? == some '\x7d' then
        let least ← liftM first
        pure (least, none, j)
      else do
        let least ← liftM first
        let (second, k) := readCount p verbose j
        let most ← liftM second
        pure (least, some most, k)
    else do
      let least ← liftM first
      pure (least, some least, i)
  if p[i]? != some '\x7d' then refuse repetitionUnclosed s i
  let j := stepSkip p verbose i
  let greedy := p[j]? != some '?'
  let j := if greedy then j else stepSkip p verbose j
  match most with
  | some m => if m < least then refuse "invalid repetition count range, the start must be <= the end" s j
  | none => pure ()
  pure (least, most, greedy, j)
where
  liftM {α : Type} (r : Except RegexError α) : Reading α :=
    match r with
    | .ok a => pure a
    | .error e => throw e

/-- Reads the letters of a flag change from `i` up to its `:` or `)`. -/
def readFlagLetters (p : Array Char) (i : Nat) : Reading (List Char × Nat) :=
  go (p.size + 1) [] none i
where
  go : Nat → List (Char × Nat) → Option Nat → Nat → Reading (List Char × Nat)
    | 0, _, _, i => refuse "expected flag but got end of regex" i i
    | n + 1, seen, dangling, i =>
      match p[i]? with
      | none => refuse "expected flag but got end of regex" i i
      | some c =>
        if c == ':' || c == ')' then
          match dangling with
          | some d => refuse "dangling flag negation operator" d (d + 1)
          | none => pure ((seen.map (·.1)).reverse, i)
        else if c != '-' && !"imsUuRx".toList.contains c then refuse "unrecognized flag" i (i + 1)
        else
          match seen.find? (·.1 == c) with
          | some (_, earlier) =>
            throw ⟨if c == '-' then "flag negation operator repeated" else "duplicate flag",
              ⟨i, i + 1⟩, some ⟨earlier, earlier + 1⟩⟩
          | none =>
            if i + 1 ≥ p.size then refuse "expected flag but got end of regex" (i + 1) (i + 1)
            else go n ((c, i) :: seen) (if c == '-' then some i else none) (i + 1)

/-- What a flag change says of the verbose flag `x`, if it names it. -/
def verboseState (letters : List Char) : Option Bool :=
  (letters.foldl (fun (found, on) c =>
    match found with
    | some _ => (found, on)
    | none => if c == '-' then (none, false) else if c == 'x' then (some on, on) else (none, on))
    ((none : Option Bool), true)).1

/-- Whether a character may be in a capture name, at its start or later: `_` and the
alphabetic characters, and later also digits and the other numbers, `.`, `[` and `]`. -/
def isNameChar (first : Bool) (c : Char) : Bool :=
  let alphabetic := Unicode.BinaryProperty.alphabetic.holds c
  if first then c == '_' || alphabetic
  else c == '_' || c == '.' || c == '[' || c == ']' || alphabetic ||
    Unicode.GeneralCategory.numbers.contains (Unicode.generalCategory c)

/-- Reads a capture name from `i` up to its `>`, and records it. -/
def readCaptureName (p : Array Char) (i : Nat) : Reading Nat := do
  if i ≥ p.size then refuse "unclosed capture group name" i i
  let name := (p.extract i p.size).toList.takeWhile (· != '>')
  match name.zipIdx.find? (fun (c, k) => !isNameChar (k == 0) c) with
  | some (_, k) => refuse "invalid capture group character" (i + k) (i + k + 1)
  | none =>
    let close := i + name.length
    if close ≥ p.size then refuse "unclosed capture group name" close close
    if name.isEmpty then refuse "empty capture group name" i i
    let text := String.ofList name
    let span : Span := ⟨i, close⟩
    match (← get).names.find? (·.1 == text) with
    | some (_, first) => throw ⟨"duplicate capture group name", span, some first⟩
    | none =>
      modify fun st => { st with names := st.names ++ [(text, span)] }
      pure (close + 1)

/-- The message of a group left open. -/
def groupUnclosed : String := "unclosed group"

/-- A sequence as one node: nothing, its only item, or the sequence. -/
def concatOf (span : Span) : List Ast → Ast
  | [] => .empty span
  | [a] => a
  | items => .concat span items

/-- What reading a group gives: a flag change, with the verbose flag after it, or a
group. -/
inductive GroupRead where
  | setFlags (a : Ast) (verbose : Bool)
  | group (a : Ast)

mutual

/-- Reads alternatives from `i` up to a `)` or the end: the node, where reading
stopped, and the verbose flag then. -/
def readAlternation (p : Array Char) : Nat → Bool → Nat → Reading (Ast × Nat × Bool)
  | 0, _, i => refuse groupUnclosed i i
  | fuel + 1, verbose, i => do
    let (first, j, verbose) ← readConcat p fuel verbose i i []
    if p[j]? == some '|' then readBranches p fuel verbose i [first] (j + 1)
    else pure (first, j, verbose)

/-- Reads the branches after a `|`; the alternation started at `start`, and `branches`
are those read so far. -/
def readBranches (p : Array Char) : Nat → Bool → Nat → List Ast → Nat → Reading (Ast × Nat × Bool)
  | 0, _, _, _, i => refuse groupUnclosed i i
  | fuel + 1, verbose, start, branches, i => do
    let (branch, j, verbose) ← readConcat p fuel verbose i i []
    if p[j]? == some '|' then readBranches p fuel verbose start (branches ++ [branch]) (j + 1)
    else pure (.alternation ⟨start, j⟩ (branches ++ [branch]), j, verbose)

/-- Reads a sequence that started at `start` up to a `|`, a `)` or the end; `items` are
those read so far, last first. -/
def readConcat (p : Array Char) : Nat → Bool → Nat → Nat → List Ast → Reading (Ast × Nat × Bool)
  | 0, _, _, i, _ => refuse groupUnclosed i i
  | fuel + 1, verbose, start, i, items => do
    let i := skipSpace p verbose i
    let repeated (least : Nat) (most : Option Nat) (greedy : Bool) (j : Nat) :
        Reading (Ast × Nat × Bool) :=
      match items with
      | [] | .flags _ _ :: _ | .empty _ :: _ => refuse repetitionMissing i i
      | last :: rest =>
        readConcat p fuel verbose start j
          (.repetition ⟨last.span.start, j⟩ least most greedy last :: rest)
    let uncounted (least : Nat) (most : Option Nat) : Reading (Ast × Nat × Bool) :=
      if p[i + 1]? == some '?' then repeated least most false (i + 2)
      else repeated least most true (i + 1)
    match p[i]? with
    | none | some '|' | some ')' => pure (concatOf ⟨start, i⟩ items.reverse, i, verbose)
    | some '(' => do
      match ← readGroup p fuel verbose i with
      | (.setFlags a v, j) => readConcat p fuel v start j (a :: items)
      | (.group a, j) => readConcat p fuel verbose start j (a :: items)
    | some '[' => do
      let ((span, negated, set), j) ← readBracketed p verbose (p.size + 1) i
      readConcat p fuel verbose start j (.bracketed span negated set :: items)
    | some '*' => uncounted 0 none
    | some '+' => uncounted 1 none
    | some '?' => uncounted 0 (some 1)
    | some '\x7b' =>
      match items with
      | [] | .flags _ _ :: _ | .empty _ :: _ => refuse repetitionMissing i i
      | _ => do
        let (least, most, greedy, j) ← readBounds p verbose i
        repeated least most greedy j
    | some '.' => readConcat p fuel verbose start (i + 1) (.dot ⟨i, i + 1⟩ :: items)
    | some '^' => readConcat p fuel verbose start (i + 1) (.assertion ⟨i, i + 1⟩ .lineStart :: items)
    | some '$' => readConcat p fuel verbose start (i + 1) (.assertion ⟨i, i + 1⟩ .lineEnd :: items)
    | some '\\' => do
      let (prim, j) ← readEscape p verbose i
      readConcat p fuel verbose start j (prim.toAst :: items)
    | some c => readConcat p fuel verbose start (i + 1) (.literal ⟨⟨i, i + 1⟩, c, false⟩ :: items)

/-- Reads a group whose `(` is at `o`: the group or flag change, and the position after
it. -/
def readGroup (p : Array Char) : Nat → Bool → Nat → Reading (GroupRead × Nat)
  | 0, _, o => refuse groupUnclosed o (o + 1)
  | fuel + 1, verbose, o => do
    let i := skipSpace p verbose (o + 1)
    let body (flags : Option (List Char)) (innerVerbose : Bool) (k : Nat) : Reading (GroupRead × Nat) := do
      let (a, j, _) ← readAlternation p fuel innerVerbose k
      if p[j]? == some ')' then pure (.group (.group ⟨o, j + 1⟩ flags a), j + 1)
      else refuse groupUnclosed o (o + 1)
    match ["?=", "?!", "?<=", "?<!"].find? (textAt p i ·) with
    | some look =>
      refuse "look-around, including look-ahead and look-behind, is not supported" o (i + look.length)
    | none =>
      if textAt p i "?P<" then
        let k ← readCaptureName p (i + 3)
        body none verbose k
      else if textAt p i "?<" then
        let k ← readCaptureName p (i + 2)
        body none verbose k
      else if p[i]? == some '?' then
        if i + 1 ≥ p.size then refuse groupUnclosed o (o + 1)
        let (letters, j) ← readFlagLetters p (i + 1)
        let v := (verboseState letters).getD verbose
        if p[j]? == some ')' then
          if letters.isEmpty then refuse repetitionMissing i i
          pure (.setFlags (.flags ⟨o, j + 1⟩ letters) v, j + 1)
        else body (some letters) v (j + 1)
      else body none verbose i

end

/-- Reads a pattern into its tree, or the refusal of its first fault. -/
def readPattern (pattern : String) : Except RegexError Ast :=
  let p := pattern.toList.toArray
  match (readAlternation p (4 * p.size + 8) false 0).run {} with
  | .error e => .error e
  | .ok ((a, i, _), _) =>
    if i < p.size then .error ⟨"unopened group", ⟨i, i + 1⟩, none⟩ else .ok a

end Transcribe.Regex
