import Transcribe.Yaml.Syntax
/-!
# `Yaml.Scanner` — from characters to tokens

The scanner keeps the state that YAML's indentation rules need: the current indentation
and the ones it closes back to, the depth of flow collections (`[…]`, `{…}`), and, on
each flow level, a *possible simple key*: a place where a key without `?` may have
started. Only when a `:` follows is it known to be a key; the scanner then inserts a
`key` token, and in block context the start of a block mapping, before the tokens
already queued after that place (`fetchValue`). A possible key that is required (it
stands at the indentation of a block mapping) and turns out not to be a key is an
error, reported when the line ends or when it can no longer be a key.

Tokens are produced on demand: `fetchMoreTokens` scans until the first queued token is
settled, that is, until no possible simple key could still insert something before
it. This decides which events a parser can produce before a later syntax error.

Every loop here is bounded by the characters left to read, which each round consumes.
-/

namespace Transcribe.Yaml

/-- A line break: carriage return, line feed, next line, line or paragraph separator. -/
def isBreak (c : Char) : Bool :=
  c == '\r' || c == '\n' || c == '\x85' || c == '\u2028' || c == '\u2029'

/-- A space or a tab. -/
def isBlankChar (c : Char) : Bool := c == ' ' || c == '\t'

/-- The end of the text, read as NUL. -/
def isEnd (c : Char) : Bool := c == '\x00'

/-- A line break or the end. -/
def isBreakEnd (c : Char) : Bool := isBreak c || isEnd c

/-- A space, a tab, a line break or the end. -/
def isBlankEnd (c : Char) : Bool := isBlankChar c || isBreakEnd c

/-- A character of an anchor, alias, directive name or tag handle. -/
def isNameChar (c : Char) : Bool := c.isAlphanum || c == '_' || c == '-'

/-- The value of a hexadecimal digit. -/
def hexDigitValue (c : Char) : Nat :=
  if c.isDigit then c.toNat - '0'.toNat
  else if 'a' ≤ c && c ≤ 'f' then c.toNat - 'a'.toNat + 10
  else c.toNat - 'A'.toNat + 10

/-- Characters that the reader accepts: tab, line feed, carriage return, printable
ASCII, next line, and the rest of Unicode but surrogates, `U+FFFE` and `U+FFFF`. -/
def isAllowedChar (c : Char) : Bool :=
  let n := c.toNat
  n == 0x09 || n == 0x0A || n == 0x0D || (0x20 ≤ n && n ≤ 0x7E) || n == 0x85 ||
    (0xA0 ≤ n && n ≤ 0xD7FF) || (0xE000 ≤ n && n ≤ 0xFFFD) || (0x10000 ≤ n && n ≤ 0x10FFFF)

/-- The first character the reader refuses, as a syntax error naming its byte offset. -/
def refusedChar? (text : String) : Option SyntaxError :=
  go 0 text.toList
where
  go (offset : Nat) : List Char → Option SyntaxError
    | [] => none
    | c :: cs =>
      if isAllowedChar c then go (offset + c.utf8Size) cs
      else some { problem := "control characters are not allowed", offset := offset }

/-- A place where a simple key may have started. -/
structure SimpleKey where
  possible : Bool := false
  required : Bool := false
  tokenNumber : Nat := 0
  mark : Mark := {}
  deriving Repr, Inhabited

/-- The scanner's state. -/
structure Scanner where
  input : Array Char
  mark : Mark := {}
  /-- Tokens scanned and not yet taken. -/
  queue : List Token := []
  /-- Tokens taken so far. -/
  tokensParsed : Nat := 0
  indent : Int := -1
  indents : List Int := []
  simpleKeyAllowed : Bool := false
  /-- One entry per flow level, the innermost first. -/
  simpleKeys : List SimpleKey := []
  flowLevel : Nat := 0
  streamStartProduced : Bool := false
  deriving Repr

/-- Inserts an element into a list before position `i`. -/
def insertAt {α : Type} (xs : List α) (i : Nat) (a : α) : List α := xs.take i ++ a :: xs.drop i

namespace Scanner

/-- The scanner at the start of a text. -/
def ofString (text : String) : Scanner := { input := text.toList.toArray }

/-- The character `k` places ahead, NUL past the end. -/
def peek (s : Scanner) (k : Nat := 0) : Char := s.input.getD (s.mark.index + k) '\x00'

/-- The number of characters left, plus two: a bound on any loop's rounds. -/
def budget (s : Scanner) : Nat := s.input.size - s.mark.index + 2

/-- Moves past one character of a line. -/
def skip (s : Scanner) : Scanner :=
  { s with mark := { s.mark with index := s.mark.index + 1,
                                 offset := s.mark.offset + (s.peek 0).utf8Size,
                                 column := s.mark.column + 1 } }

/-- Moves past `n` characters of a line. -/
def skipN (s : Scanner) : Nat → Scanner
  | 0 => s
  | n + 1 => (s.skip).skipN n

/-- Moves past a line break, if one is ahead. -/
def skipLine (s : Scanner) : Scanner :=
  if s.peek 0 == '\r' && s.peek 1 == '\n' then
    { s with mark := ⟨s.mark.index + 2, s.mark.offset + 2, s.mark.line + 1, 0⟩ }
  else if isBreak (s.peek 0) then
    { s with mark := ⟨s.mark.index + 1, s.mark.offset + (s.peek 0).utf8Size, s.mark.line + 1, 0⟩ }
  else s

/-- Reads a line break: what it stands for in a scalar (a line feed, or a line or
paragraph separator as it is) and the scanner after it; nothing if none is ahead. -/
def readLine (s : Scanner) : String × Scanner :=
  let c := s.peek 0
  if c == '\r' && s.peek 1 == '\n' then ("\n", s.skipLine)
  else if c == '\r' || c == '\n' || c == '\x85' then ("\n", s.skipLine)
  else if c == '\u2028' || c == '\u2029' then (c.toString, s.skipLine)
  else ("", s)

/-- An error found at the current position. -/
def fail (s : Scanner) (context : Option String) (contextMark : Mark) (problem : String) :
    SyntaxError :=
  { problem, problemMark := s.mark, context, contextMark }

/-- Whether a document marker `---` or `...` starts the current line. -/
def atDocumentIndicator (s : Scanner) : Bool :=
  s.mark.column == 0 &&
    ((s.peek 0 == '-' && s.peek 1 == '-' && s.peek 2 == '-') ||
     (s.peek 0 == '.' && s.peek 1 == '.' && s.peek 2 == '.')) &&
    isBlankEnd (s.peek 3)

/-- Skips characters while they satisfy `p`. -/
def skipWhile (p : Char → Bool) (s : Scanner) : Scanner :=
  go s s.budget
where
  go (s : Scanner) : Nat → Scanner
    | 0 => s
    | n + 1 => if p (s.peek 0) then go s.skip n else s

/-- Reads characters while they satisfy `p`. -/
def readWhile (p : Char → Bool) (s : Scanner) : String × Scanner :=
  go "" s s.budget
where
  go (acc : String) (s : Scanner) : Nat → String × Scanner
    | 0 => (acc, s)
    | n + 1 => if p (s.peek 0) then go (acc.push (s.peek 0)) s.skip n else (acc, s)

/-- Appends a token to the queue. -/
def enqueue (s : Scanner) (kind : TokenKind) (start stop : Mark) : Scanner :=
  { s with queue := s.queue ++ [⟨kind, start, stop⟩] }

/-- The error of a possible simple key that was required. -/
def keyError (s : Scanner) (k : SimpleKey) : SyntaxError :=
  s.fail (some "while scanning a simple key") k.mark "could not find expected ':'"

/-- A possible simple key that is on an earlier line or too far back is no longer possible. -/
def staleKey (s : Scanner) (k : SimpleKey) : Except SyntaxError SimpleKey :=
  if k.possible && (k.mark.line < s.mark.line || k.mark.offset + 1024 < s.mark.offset) then
    if k.required then .error (s.keyError k) else .ok { k with possible := false }
  else .ok k

/-- Drops the possible simple keys that can no longer be keys, outermost first. -/
def staleSimpleKeys (s : Scanner) : Except SyntaxError Scanner := do
  let keys ← s.simpleKeys.reverse.mapM s.staleKey
  pure { s with simpleKeys := keys.reverse }

/-- Drops the possible simple key of the current flow level. -/
def removeSimpleKey (s : Scanner) : Except SyntaxError Scanner :=
  match s.simpleKeys with
  | k :: rest =>
    if k.possible && k.required then .error (s.keyError k)
    else .ok { s with simpleKeys := { k with possible := false } :: rest }
  | [] => .ok s

/-- Records the current position as a possible simple key, if a key may start here. -/
def saveSimpleKey (s : Scanner) : Except SyntaxError Scanner := do
  if s.simpleKeyAllowed then
    let key : SimpleKey := {
      possible := true
      required := s.flowLevel == 0 && s.indent == (s.mark.column : Int)
      tokenNumber := s.tokensParsed + s.queue.length
      mark := s.mark }
    let s ← s.removeSimpleKey
    pure { s with simpleKeys := key :: s.simpleKeys.drop 1 }
  else pure s

/-- Enters a flow collection. -/
def increaseFlowLevel (s : Scanner) : Scanner :=
  let keys : List SimpleKey := ({} : SimpleKey) :: s.simpleKeys
  { s with simpleKeys := keys, flowLevel := s.flowLevel + 1 }

/-- Leaves a flow collection. -/
def decreaseFlowLevel (s : Scanner) : Scanner :=
  if s.flowLevel > 0 then { s with flowLevel := s.flowLevel - 1, simpleKeys := s.simpleKeys.drop 1 }
  else s

/-- In block context, opens a block collection at `column` if it is deeper than the
current indentation; its start token goes at token number `number` or at the end. -/
def rollIndent (s : Scanner) (column : Int) (number : Option Nat) (kind : TokenKind)
    (mark : Mark) : Scanner :=
  if s.flowLevel > 0 then s
  else if s.indent < column then
    let tok : Token := ⟨kind, mark, mark⟩
    let queue := match number with
      | none => s.queue ++ [tok]
      | some n => insertAt s.queue (n - s.tokensParsed) tok
    { s with indents := s.indent :: s.indents, indent := column, queue := queue }
  else s

/-- In block context, closes every block collection deeper than `column`. -/
def unrollIndent (s : Scanner) (column : Int) : Scanner :=
  go s (s.indents.length + 1)
where
  go (s : Scanner) : Nat → Scanner
    | 0 => s
    | n + 1 =>
      if s.flowLevel == 0 && s.indent > column then
        let s := s.enqueue .blockEnd s.mark s.mark
        go { s with indent := s.indents.headD (-1), indents := s.indents.drop 1 } n
      else s

/-- Skips blanks, comments and line breaks up to the next token. In block context a tab
is skipped only where no simple key may start, and a line break allows one. -/
def scanToNextToken (s : Scanner) : Scanner :=
  go s s.budget
where
  go (s : Scanner) : Nat → Scanner
    | 0 => s
    | n + 1 =>
      let s := if s.mark.column == 0 && s.peek 0 == '\uFEFF' then s.skip else s
      let s := s.skipWhile fun c =>
        c == ' ' || ((s.flowLevel > 0 || !s.simpleKeyAllowed) && c == '\t')
      let s := if s.peek 0 == '#' then s.skipWhile (fun c => !isBreakEnd c) else s
      if isBreak (s.peek 0) then
        let s := s.skipLine
        go (if s.flowLevel == 0 then { s with simpleKeyAllowed := true } else s) n
      else s

/-! ## Directives -/

/-- Reads a decimal number of a `%YAML` directive, at most nine digits. -/
def scanVersionNumber (s : Scanner) (start : Mark) : Except SyntaxError (Nat × Scanner) :=
  let (ds, s') := s.readWhile Char.isDigit
  if ds.length > 9 then
    .error (s.skipN 9 |>.fail (some "while scanning a %YAML directive") start
      "found extremely long version number")
  else if ds.isEmpty then
    .error (s.fail (some "while scanning a %YAML directive") start "did not find expected version number")
  else .ok (ds.toNat!, s')

/-- Reads a tag handle `!`, `!!` or `!name!`. -/
def scanTagHandle (s : Scanner) (directive : Bool) (start : Mark) :
    Except SyntaxError (String × Scanner) := do
  if s.peek 0 != '!' then
    throw (s.fail (some (if directive then "while scanning a tag directive" else "while scanning a tag"))
      start "did not find expected '!'")
  let (name, s) := s.skip.readWhile isNameChar
  let handle := "!" ++ name
  if s.peek 0 == '!' then pure (handle ++ "!", s.skip)
  else if directive && handle != "!" then
    throw (s.fail (some "while parsing a tag directive") start "did not find expected '!'")
  else pure (handle, s)

/-- Whether a character may stand in a tag's URI; inside `!<…>` also `,`, `[` and `]`. -/
def isUriChar (verbatim : Bool) (c : Char) : Bool :=
  isNameChar c || ";/?:@&=+$.%!~*'()".toList.contains c ||
    (verbatim && (c == ',' || c == '[' || c == ']'))

/-- Reads `%XX` escapes of a tag URI, which together must form UTF-8 text. -/
def scanUriEscapes (s : Scanner) (directive : Bool) (start : Mark) :
    Except SyntaxError (String × Scanner) :=
  let context := some (if directive then "while parsing a %TAG directive" else "while parsing a tag")
  -- read one escaped octet
  let octet (s : Scanner) : Except SyntaxError (Nat × Scanner) :=
    if s.peek 0 == '%' && (s.peek 1).isHexDigit && (s.peek 2).isHexDigit then
      .ok (hexDigitValue (s.peek 1) * 16 + hexDigitValue (s.peek 2), s.skipN 3)
    else .error (s.fail context start "did not find URI escaped octet")
  let rec rest (acc : List Nat) (s : Scanner) : Nat → Except SyntaxError (List Nat × Scanner)
    | 0 => .ok (acc, s)
    | n + 1 => do
      let (b, s') ← octet s
      if b / 64 != 2 then throw (s.fail context start "found an incorrect trailing UTF-8 octet")
      rest (acc ++ [b]) s' n
  do
    let (lead, s') ← octet s
    let width := if lead / 128 == 0 then 1 else if lead / 32 == 6 then 2
      else if lead / 16 == 14 then 3 else if lead / 8 == 30 then 4 else 0
    if width == 0 then throw (s.fail context start "found an incorrect leading UTF-8 octet")
    let (bytes, s'') ← rest [lead] s' (width - 1)
    match String.fromUTF8? (ByteArray.mk (bytes.map (·.toUInt8)).toArray) with
    | some t => pure (t, s'')
    | none => throw (s.fail context start "found an incorrect trailing UTF-8 octet")

/-- Reads the URI part of a tag; `head` is a handle already read that turned out to be
part of it (without its `!`). -/
def scanTagUri (s : Scanner) (verbatim directive : Bool) (head : String) (start : Mark) :
    Except SyntaxError (String × Scanner) :=
  go (head.drop 1).toString s (head.length) s.budget
where
  go (acc : String) (s : Scanner) (length : Nat) : Nat → Except SyntaxError (String × Scanner)
    | 0 => .ok (acc, s)
    | n + 1 =>
      if isUriChar verbatim (s.peek 0) then
        if s.peek 0 == '%' then do
          let (t, s') ← scanUriEscapes s directive start
          go (acc ++ t) s' (length + 1) n
        else go (acc.push (s.peek 0)) s.skip (length + 1) n
      else if length == 0 then
        .error (s.fail (some (if directive then "while parsing a %TAG directive"
          else "while parsing a tag")) start "did not find expected tag URI")
      else .ok (acc, s)

/-- Reads a directive `%YAML` or `%TAG` and the rest of its line. -/
def scanDirective (s : Scanner) : Except SyntaxError (Token × Scanner) := do
  let start := s.mark
  let s := s.skip
  let (name, s) := s.readWhile isNameChar
  if name.isEmpty then
    throw (s.fail (some "while scanning a directive") start "could not find expected directive name")
  if !isBlankEnd (s.peek 0) then
    throw (s.fail (some "while scanning a directive") start
      "found unexpected non-alphabetical character")
  let (kind, s) ← match name with
    | "YAML" => do
      let s := s.skipWhile isBlankChar
      let (major, s) ← s.scanVersionNumber start
      if s.peek 0 != '.' then
        throw (s.fail (some "while scanning a %YAML directive") start
          "did not find expected digit or '.' character")
      let (minor, s) ← s.skip.scanVersionNumber start
      pure (TokenKind.versionDirective major minor, s)
    | "TAG" => do
      let s := s.skipWhile isBlankChar
      let (handle, s) ← s.scanTagHandle true start
      if !isBlankChar (s.peek 0) then
        throw (s.fail (some "while scanning a %TAG directive") start "did not find expected whitespace")
      let s := s.skipWhile isBlankChar
      let (pfx, s) ← s.scanTagUri true true "" start
      if !isBlankEnd (s.peek 0) then
        throw (s.fail (some "while scanning a %TAG directive") start
          "did not find expected whitespace or line break")
      pure (TokenKind.tagDirective handle pfx, s)
    | _ => throw (s.fail (some "while scanning a directive") start "found unknown directive name")
  let stop := s.mark
  let s := s.skipWhile isBlankChar
  let s := if s.peek 0 == '#' then s.skipWhile (fun c => !isBreakEnd c) else s
  if !isBreakEnd (s.peek 0) then
    throw (s.fail (some "while scanning a directive") start "did not find expected comment or line break")
  pure (⟨kind, start, stop⟩, s.skipLine)

/-! ## Anchors, aliases and tags -/

/-- Reads an anchor `&name` or an alias `*name`. -/
def scanAnchor (s : Scanner) (isAlias : Bool) : Except SyntaxError (Token × Scanner) := do
  let start := s.mark
  let (name, s) := s.skip.readWhile isNameChar
  let c := s.peek 0
  if name.isEmpty || !(isBlankEnd c || "?:,]\x7d%@`".toList.contains c) then
    throw (s.fail (some (if isAlias then "while scanning an alias" else "while scanning an anchor"))
      start "did not find expected alphabetic or numeric character")
  pure (⟨if isAlias then .alias name else .anchor name, start, s.mark⟩, s)

/-- Reads a tag: `!<uri>`, `!handle!suffix`, `!suffix` or `!`. -/
def scanTag (s : Scanner) : Except SyntaxError (Token × Scanner) := do
  let start := s.mark
  let (handle, suffix, s) ← if s.peek 1 == '<' then do
      let (suffix, s) ← (s.skipN 2).scanTagUri true false "" start
      if s.peek 0 != '>' then
        throw (s.fail (some "while scanning a tag") start "did not find the expected '>'")
      pure ("", suffix, s.skip)
    else do
      let (handle, s) ← s.scanTagHandle false start
      if handle.length > 1 && handle.startsWith "!" && handle.endsWith "!" then
        let (suffix, s) ← s.scanTagUri false false "" start
        pure (handle, suffix, s)
      else
        let (suffix, s) ← s.scanTagUri false false handle start
        if suffix.isEmpty then pure ("", "!", s) else pure ("!", suffix, s)
  if !isBlankEnd (s.peek 0) && !(s.flowLevel > 0 && s.peek 0 == ',') then
    throw (s.fail (some "while scanning a tag") start "did not find expected whitespace or line break")
  pure (⟨.tag handle suffix, start, s.mark⟩, s)

/-! ## Block scalars -/

/-- Skips indentation spaces up to column `indent` (any number when it is `0`). -/
def skipIndentSpaces (s : Scanner) (indent : Nat) : Scanner :=
  go s s.budget
where
  go (s : Scanner) : Nat → Scanner
    | 0 => s
    | n + 1 => if (indent == 0 || s.mark.column < indent) && s.peek 0 == ' ' then go s.skip n else s

/-- Skips the indentation and empty lines before a line of a block scalar, collecting the
line breaks; fixes the indentation from the deepest empty line if it is not yet known. -/
def blockScalarBreaks (s : Scanner) (indent : Nat) (start : Mark) :
    Except SyntaxError (Nat × String × Mark × Scanner) :=
  go s "" s.mark 0 s.budget
where
  go (s : Scanner) (breaks : String) (stop : Mark) (maxIndent : Nat) :
      Nat → Except SyntaxError (Nat × String × Mark × Scanner)
    | 0 => .ok (indent, breaks, stop, s)
    | n + 1 => do
      let s := s.skipIndentSpaces indent
      let maxIndent := max maxIndent s.mark.column
      if (indent == 0 || s.mark.column < indent) && s.peek 0 == '\t' then
        throw (s.fail (some "while scanning a block scalar") start
          "found a tab character where an indentation space is expected")
      if isBreak (s.peek 0) then
        let (b, s) := s.readLine
        go s (breaks ++ b) s.mark maxIndent n
      else
        let indent := if indent == 0 then
          max 1 (max maxIndent (s.indent + 1).toNat) else indent
        pure (indent, breaks, stop, s)

/-- Reads a literal (`|`) or folded (`>`) block scalar. -/
def scanBlockScalar (s : Scanner) (literal : Bool) : Except SyntaxError (Token × Scanner) := do
  let start := s.mark
  let s := s.skip
  let context := some "while scanning a block scalar"
  -- chomping: -1 strip, 0 clip, 1 keep; increment: explicit indentation
  let (chomping, increment, s) ← do
    let c := s.peek 0
    if c == '+' || c == '-' then
      let chomping : Int := if c == '+' then 1 else -1
      let s := s.skip
      if (s.peek 0).isDigit then
        if s.peek 0 == '0' then
          throw (s.fail context start "found an indentation indicator equal to 0")
        pure (chomping, (s.peek 0).toNat - '0'.toNat, s.skip)
      else pure (chomping, 0, s)
    else if c.isDigit then
      if c == '0' then throw (s.fail context start "found an indentation indicator equal to 0")
      let increment := c.toNat - '0'.toNat
      let s := s.skip
      let d := s.peek 0
      if d == '+' || d == '-' then pure ((if d == '+' then 1 else -1 : Int), increment, s.skip)
      else pure (0, increment, s)
    else pure (0, 0, s)
  let s := s.skipWhile isBlankChar
  let s := if s.peek 0 == '#' then s.skipWhile (fun c => !isBreakEnd c) else s
  if !isBreakEnd (s.peek 0) then
    throw (s.fail context start "did not find expected comment or line break")
  let s := s.skipLine
  let indent : Nat := if increment == 0 then 0
    else if s.indent ≥ 0 then (s.indent + increment).toNat else increment
  let (indent, trailing, stop, s) ← s.blockScalarBreaks indent start
  -- the lines of the scalar
  let rec lines (text leadingBreak trailing : String) (leadingBlank : Bool) (stop : Mark) (s : Scanner) :
      Nat → Except SyntaxError (String × String × String × Mark × Scanner)
    | 0 => .ok (text, leadingBreak, trailing, stop, s)
    | n + 1 =>
      if s.mark.column == indent && !isEnd (s.peek 0) then do
        let trailingBlank := isBlankChar (s.peek 0)
        let (text, leadingBreak) :=
          if !literal && leadingBreak.startsWith "\n" && !leadingBlank && !trailingBlank then
            (if trailing.isEmpty then text.push ' ' else text, "")
          else (text ++ leadingBreak, "")
        let text := text ++ trailing
        let leadingBlank := isBlankChar (s.peek 0)
        let (line, s) := s.readWhile (fun c => !isBreakEnd c)
        let text := text ++ line
        let (lb, s) := s.readLine
        let (_, trailing, stop, s) ← s.blockScalarBreaks indent start
        lines text (leadingBreak ++ lb) trailing leadingBlank stop s n
      else .ok (text, leadingBreak, trailing, stop, s)
  let (text, leadingBreak, trailing, stop, s) ← lines "" "" trailing false stop s s.budget
  let text := if chomping != -1 then text ++ leadingBreak else text
  let text := if chomping == 1 then text ++ trailing else text
  pure (⟨.scalar text (if literal then .literal else .folded), start, stop⟩, s)

/-! ## Flow scalars -/

/-- The character that a one-letter escape of a double-quoted scalar stands for. -/
def simpleEscape? : Char → Option Char
  | '0' => some '\x00'
  | 'a' => some '\x07'
  | 'b' => some '\x08'
  | 't' => some '\t'
  | '\t' => some '\t'
  | 'n' => some '\n'
  | 'v' => some '\x0b'
  | 'f' => some '\x0c'
  | 'r' => some '\r'
  | 'e' => some '\x1b'
  | ' ' => some ' '
  | '"' => some '"'
  | '/' => some '/'
  | '\'' => some '\''
  | '\\' => some '\\'
  | 'N' => some '\x85'
  | '_' => some '\u00A0'
  | 'L' => some '\u2028'
  | 'P' => some '\u2029'
  | _ => none

/-- Joins the blanks or folds the line breaks between two parts of a scalar. -/
def joinBreaks (text whitespaces leadingBreak trailing : String) (leadingBlanks : Bool) : String :=
  if leadingBlanks then
    if leadingBreak.startsWith "\n" then
      if trailing.isEmpty then text.push ' ' else text ++ trailing
    else text ++ leadingBreak ++ trailing
  else text ++ whitespaces

/-- Reads the characters of a quoted scalar up to a blank, a break or its closing quote.
Returns the text, whether an escaped line break was met, and the scanner. -/
def quotedRun (s : Scanner) (single : Bool) (start : Mark) (text : String) :
    Except SyntaxError (String × Bool × Scanner) :=
  go text s s.budget
where
  go (text : String) (s : Scanner) : Nat → Except SyntaxError (String × Bool × Scanner)
    | 0 => .ok (text, false, s)
    | n + 1 =>
      let c := s.peek 0
      let context := some "while parsing a quoted scalar"
      if isBlankEnd c then .ok (text, false, s)
      else if single && c == '\'' && s.peek 1 == '\'' then go (text.push '\'') (s.skipN 2) n
      else if c == (if single then '\'' else '"') then .ok (text, false, s)
      else if !single && c == '\\' && isBreak (s.peek 1) then .ok (text, true, s.skip.skipLine)
      else if !single && c == '\\' then
        let e := s.peek 1
        match simpleEscape? e with
        | some ch => go (text.push ch) (s.skipN 2) n
        | none =>
          let width := if e == 'x' then 2 else if e == 'u' then 4 else if e == 'U' then 8 else 0
          if width == 0 then .error (s.fail context start "found unknown escape character")
          else
            let s := s.skipN 2
            let digits := (List.range width).map fun k => s.peek k
            if !digits.all Char.isHexDigit then
              .error (s.fail context start "did not find expected hexdecimal number")
            else
              let v := digits.foldl (fun acc d => acc * 16 + hexDigitValue d) 0
              if (0xD800 ≤ v && v ≤ 0xDFFF) || v > 0x10FFFF then
                .error (s.fail context start "found invalid Unicode character escape code")
              else go (text.push (Char.ofNat v)) (s.skipN width) n
      else go (text.push c) s.skip n

/-- Reads blanks and line breaks inside a flow scalar. -/
def flowBlanks (s : Scanner) (whitespaces leadingBreak trailing : String) (leadingBlanks : Bool) :
    String × String × String × Bool × Scanner :=
  go whitespaces leadingBreak trailing leadingBlanks s s.budget
where
  go (ws lb tb : String) (lbs : Bool) (s : Scanner) : Nat → String × String × String × Bool × Scanner
    | 0 => (ws, lb, tb, lbs, s)
    | n + 1 =>
      let c := s.peek 0
      if isBlankChar c then
        if lbs then go ws lb tb lbs s.skip n else go (ws.push c) lb tb lbs s.skip n
      else if isBreak c then
        if lbs then
          let (b, s) := s.readLine
          go ws lb (tb ++ b) lbs s n
        else
          let (b, s) := s.readLine
          go "" b tb true s n
      else (ws, lb, tb, lbs, s)

/-- Reads a single- or double-quoted scalar. -/
def scanFlowScalar (s : Scanner) (single : Bool) : Except SyntaxError (Token × Scanner) := do
  let start := s.mark
  let rec loop (text : String) (s : Scanner) : Nat → Except SyntaxError (String × Scanner)
    | 0 => .ok (text, s)
    | n + 1 => do
      if s.atDocumentIndicator then
        throw (s.fail (some "while scanning a quoted scalar") start "found unexpected document indicator")
      if isEnd (s.peek 0) then
        throw (s.fail (some "while scanning a quoted scalar") start "found unexpected end of stream")
      let (text, escapedBreak, s) ← s.quotedRun single start text
      if s.peek 0 == (if single then '\'' else '"') then pure (text, s)
      else
        let (ws, lb, tb, lbs, s) := s.flowBlanks "" "" "" escapedBreak
        loop (joinBreaks text ws lb tb lbs) s n
  let (text, s) ← loop "" s.skip s.budget
  let s := s.skip
  pure (⟨.scalar text (if single then .singleQuoted else .doubleQuoted), start, s.mark⟩, s)

/-! ## Plain scalars -/

/-- The state of reading a plain scalar. -/
structure PlainState where
  text : String := ""
  whitespaces : String := ""
  leadingBreak : String := ""
  trailing : String := ""
  leadingBlanks : Bool := false
  stop : Mark

/-- Reads the non-blank characters of a plain scalar, up to a blank, a break, `: ` or,
in flow context, a flow indicator. -/
def plainRun (s : Scanner) (start : Mark) (st : PlainState) :
    Except SyntaxError (PlainState × Scanner) :=
  go st s s.budget
where
  go (st : PlainState) (s : Scanner) : Nat → Except SyntaxError (PlainState × Scanner)
    | 0 => .ok (st, s)
    | n + 1 =>
      let c := s.peek 0
      if isBlankEnd c then .ok (st, s)
      else if s.flowLevel > 0 && c == ':' && ",?[]\x7b\x7d".toList.contains (s.peek 1) then
        .error (s.fail (some "while scanning a plain scalar") start "found unexpected ':'")
      else if (c == ':' && isBlankEnd (s.peek 1)) ||
          (s.flowLevel > 0 && ",[]\x7b\x7d".toList.contains c) then .ok (st, s)
      else
        let text :=
          if st.leadingBlanks || !st.whitespaces.isEmpty then
            joinBreaks st.text st.whitespaces st.leadingBreak st.trailing st.leadingBlanks
          else st.text
        let st := if st.leadingBlanks || !st.whitespaces.isEmpty then
          { st with whitespaces := "", leadingBreak := "", trailing := "", leadingBlanks := false }
          else st
        let s := s.skip
        go { st with text := text.push c, stop := s.mark } s n

/-- Reads blanks and line breaks after a part of a plain scalar. -/
def plainBlanks (s : Scanner) (start : Mark) (indent : Int) (st : PlainState) :
    Except SyntaxError (PlainState × Scanner) :=
  go st s s.budget
where
  go (st : PlainState) (s : Scanner) : Nat → Except SyntaxError (PlainState × Scanner)
    | 0 => .ok (st, s)
    | n + 1 =>
      let c := s.peek 0
      if isBlankChar c then
        if st.leadingBlanks && (s.mark.column : Int) < indent && c == '\t' then
          .error (s.fail (some "while scanning a plain scalar") start
            "found a tab character that violates indentation")
        else if st.leadingBlanks then go st s.skip n
        else go { st with whitespaces := st.whitespaces.push c } s.skip n
      else if isBreak c then
        let (b, s) := s.readLine
        if st.leadingBlanks then go { st with trailing := st.trailing ++ b } s n
        else go { st with whitespaces := "", leadingBreak := b, leadingBlanks := true } s n
      else .ok (st, s)

/-- Reads a plain scalar. -/
def scanPlainScalar (s : Scanner) : Except SyntaxError (Token × Scanner) := do
  let indent := s.indent + 1
  let start := s.mark
  let rec loop (st : PlainState) (s : Scanner) : Nat → Except SyntaxError (PlainState × Scanner)
    | 0 => .ok (st, s)
    | n + 1 => do
      if s.atDocumentIndicator || s.peek 0 == '#' then return (st, s)
      let (st, s) ← s.plainRun start st
      if !(isBlankChar (s.peek 0) || isBreak (s.peek 0)) then return (st, s)
      let (st, s) ← s.plainBlanks start indent st
      if s.flowLevel == 0 && (s.mark.column : Int) < indent then return (st, s)
      loop st s n
  let (st, s) ← loop { stop := start } s s.budget
  let s := if st.leadingBlanks then { s with simpleKeyAllowed := true } else s
  pure (⟨.scalar st.text .plain, start, st.stop⟩, s)

/-! ## Fetching tokens -/

/-- Queues the token that a scanning function reads. -/
def push (r : Except SyntaxError (Token × Scanner)) : Except SyntaxError Scanner := do
  let (t, s) ← r
  pure { s with queue := s.queue ++ [t] }

/-- A document marker `---` or `...`. -/
def fetchDocumentIndicator (s : Scanner) (kind : TokenKind) : Except SyntaxError Scanner := do
  let s := s.unrollIndent (-1)
  let s ← s.removeSimpleKey
  let s := { s with simpleKeyAllowed := false }
  let start := s.mark
  let s := s.skipN 3
  pure (s.enqueue kind start s.mark)

/-- `[` or `{`. -/
def fetchFlowCollectionStart (s : Scanner) (kind : TokenKind) : Except SyntaxError Scanner := do
  let s ← s.saveSimpleKey
  let s := { s.increaseFlowLevel with simpleKeyAllowed := true }
  let start := s.mark
  let s := s.skip
  pure (s.enqueue kind start s.mark)

/-- `]` or `}`. -/
def fetchFlowCollectionEnd (s : Scanner) (kind : TokenKind) : Except SyntaxError Scanner := do
  let s ← s.removeSimpleKey
  let s := { s.decreaseFlowLevel with simpleKeyAllowed := false }
  let start := s.mark
  let s := s.skip
  pure (s.enqueue kind start s.mark)

/-- `,`. -/
def fetchFlowEntry (s : Scanner) : Except SyntaxError Scanner := do
  let s ← s.removeSimpleKey
  let s := { s with simpleKeyAllowed := true }
  let start := s.mark
  let s := s.skip
  pure (s.enqueue .flowEntry start s.mark)

/-- `-` before a blank. -/
def fetchBlockEntry (s : Scanner) : Except SyntaxError Scanner := do
  let s ← if s.flowLevel == 0 then
      if !s.simpleKeyAllowed then
        throw (s.fail none s.mark "block sequence entries are not allowed in this context")
      else pure (s.rollIndent s.mark.column none .blockSequenceStart s.mark)
    else pure s
  let s ← s.removeSimpleKey
  let s := { s with simpleKeyAllowed := true }
  let start := s.mark
  let s := s.skip
  pure (s.enqueue .blockEntry start s.mark)

/-- `?`. -/
def fetchKey (s : Scanner) : Except SyntaxError Scanner := do
  let s ← if s.flowLevel == 0 then
      if !s.simpleKeyAllowed then
        throw (s.fail none s.mark "mapping keys are not allowed in this context")
      else pure (s.rollIndent s.mark.column none .blockMappingStart s.mark)
    else pure s
  let s ← s.removeSimpleKey
  let s := { s with simpleKeyAllowed := s.flowLevel == 0 }
  let start := s.mark
  let s := s.skip
  pure (s.enqueue .key start s.mark)

/-- `:`: ends a simple key if one is possible, else follows a `?` key. -/
def fetchValue (s : Scanner) : Except SyntaxError Scanner := do
  let s ← match s.simpleKeys with
    | k :: rest =>
      if k.possible then
        let s := { s with queue := insertAt s.queue (k.tokenNumber - s.tokensParsed) ⟨.key, k.mark, k.mark⟩ }
        let s := s.rollIndent k.mark.column (some k.tokenNumber) .blockMappingStart k.mark
        pure { s with simpleKeys := { k with possible := false } :: rest, simpleKeyAllowed := false }
      else complexValue s
    | [] => complexValue s
  let start := s.mark
  let s := s.skip
  pure (s.enqueue .value start s.mark)
where
  complexValue (s : Scanner) : Except SyntaxError Scanner := do
    let s ← if s.flowLevel == 0 then
        if !s.simpleKeyAllowed then
          throw (s.fail none s.mark "mapping values are not allowed in this context")
        else pure (s.rollIndent s.mark.column none .blockMappingStart s.mark)
      else pure s
    pure { s with simpleKeyAllowed := s.flowLevel == 0 }

/-- The end of the text: closes every block collection. -/
def fetchStreamEnd (s : Scanner) : Except SyntaxError Scanner := do
  let s := if s.mark.column != 0 then
    { s with mark := { s.mark with column := 0, line := s.mark.line + 1 } } else s
  let s := s.unrollIndent (-1)
  let s ← s.removeSimpleKey
  let s := { s with simpleKeyAllowed := false }
  pure (s.enqueue .streamEnd s.mark s.mark)

/-- Whether a plain scalar may start here. -/
def startsPlain (s : Scanner) : Bool :=
  let c := s.peek 0
  !(isBlankEnd c || "-?:,[]\x7b\x7d#&*!|>'\"%@`".toList.contains c) ||
    (c == '-' && !isBlankChar (s.peek 1)) ||
    (s.flowLevel == 0 && (c == '?' || c == ':') && !isBlankEnd (s.peek 1))

/-- Scans the next token. -/
def fetchNextToken (s : Scanner) : Except SyntaxError Scanner := do
  if !s.streamStartProduced then
    let keys : List SimpleKey := ({} : SimpleKey) :: s.simpleKeys
    let s := { s with indent := -1, simpleKeys := keys, simpleKeyAllowed := true }
    let s := { s with streamStartProduced := true }
    return s.enqueue .streamStart s.mark s.mark
  let s := s.scanToNextToken
  let s ← s.staleSimpleKeys
  let s := s.unrollIndent s.mark.column
  let c := s.peek 0
  let c1 := s.peek 1
  if isEnd c then s.fetchStreamEnd
  else if s.mark.column == 0 && c == '%' then do
    let s := s.unrollIndent (-1)
    let s ← s.removeSimpleKey
    push ({ s with simpleKeyAllowed := false }.scanDirective)
  else if s.mark.column == 0 && c == '-' && c1 == '-' && s.peek 2 == '-' && isBlankEnd (s.peek 3) then
    s.fetchDocumentIndicator .documentStart
  else if s.mark.column == 0 && c == '.' && c1 == '.' && s.peek 2 == '.' && isBlankEnd (s.peek 3) then
    s.fetchDocumentIndicator .documentEnd
  else if c == '[' then s.fetchFlowCollectionStart .flowSequenceStart
  else if c == '\x7b' then s.fetchFlowCollectionStart .flowMappingStart
  else if c == ']' then s.fetchFlowCollectionEnd .flowSequenceEnd
  else if c == '\x7d' then s.fetchFlowCollectionEnd .flowMappingEnd
  else if c == ',' then s.fetchFlowEntry
  else if c == '-' && isBlankEnd c1 then s.fetchBlockEntry
  else if c == '?' && (s.flowLevel > 0 || isBlankEnd c1) then s.fetchKey
  else if c == ':' && (s.flowLevel > 0 || isBlankEnd c1) then s.fetchValue
  else if c == '*' || c == '&' then do
    let s ← s.saveSimpleKey
    push ({ s with simpleKeyAllowed := false }.scanAnchor (c == '*'))
  else if c == '!' then do
    let s ← s.saveSimpleKey
    push ({ s with simpleKeyAllowed := false }.scanTag)
  else if (c == '|' || c == '>') && s.flowLevel == 0 then do
    let s ← s.removeSimpleKey
    push ({ s with simpleKeyAllowed := true }.scanBlockScalar (c == '|'))
  else if c == '\'' || c == '"' then do
    let s ← s.saveSimpleKey
    push ({ s with simpleKeyAllowed := false }.scanFlowScalar (c == '\''))
  else if s.startsPlain then do
    let s ← s.saveSimpleKey
    push ({ s with simpleKeyAllowed := false }.scanPlainScalar)
  else
    throw (s.fail (some "while scanning for the next token") s.mark
      "found character that cannot start any token")

/-- Scans until the first queued token is settled: no possible simple key can still put a
token before it. `fuel` bounds the rounds. -/
def fetchMoreTokens (s : Scanner) : Nat → Except SyntaxError Scanner
  | 0 => .ok s
  | fuel + 1 => do
    let (needMore, s) ← if s.queue.isEmpty then pure (true, s) else do
        let s ← s.staleSimpleKeys
        pure (s.simpleKeys.any fun k => k.possible && k.tokenNumber == s.tokensParsed, s)
    if needMore then fetchMoreTokens (← s.fetchNextToken) fuel else pure s

/-- The rounds that `fetchMoreTokens` may need: each scans a character or closes something. -/
def fuel (s : Scanner) : Nat := 4 * s.input.size + 16

/-- The next token, without taking it. -/
def peekToken (s : Scanner) : Except SyntaxError (Token × Scanner) := do
  let s ← s.fetchMoreTokens s.fuel
  match s.queue with
  | t :: _ => pure (t, s)
  | [] => throw (s.fail none s.mark "did not find expected token")

/-- Takes the next token, which must have been peeked. -/
def skipToken (s : Scanner) : Scanner :=
  { s with queue := s.queue.drop 1, tokensParsed := s.tokensParsed + 1 }

end Scanner

end Transcribe.Yaml
