import Transcribe.Yaml.Scanner
/-!
# `Yaml.Parser` — from tokens to events

The parser is a state machine over the token stream: each state
knows what may come next (a document, a node, the next entry of a block sequence, the
value of a flow mapping, …) and a stack of states to return to when a node is done.
Where YAML lets a node be left out, as a key without value, it produces an empty plain
scalar. A token that cannot come next is a syntax error that names the construct being
parsed and where it started.

Tags are resolved against the document's `%TAG` directives and the two standard
handles: `!` stands for itself and `!!` for `tag:yaml.org,2002:`.

`Document.load` reads the first document of a text: its events up to its end, or up to
a syntax error, with aliases resolved to the events of their anchors, and whether a
second document follows.
-/

namespace Transcribe.Yaml

/-- Where the parser is. -/
inductive State where
  | streamStart
  | implicitDocumentStart
  | documentStart
  | documentContent
  | documentEnd
  | blockNode
  | flowNode
  | blockSequenceFirstEntry
  | blockSequenceEntry
  | indentlessSequenceEntry
  | blockMappingFirstKey
  | blockMappingKey
  | blockMappingValue
  | flowSequenceFirstEntry
  | flowSequenceEntry
  | flowSequenceEntryMappingKey
  | flowSequenceEntryMappingValue
  | flowSequenceEntryMappingEnd
  | flowMappingFirstKey
  | flowMappingKey
  | flowMappingValue
  | flowMappingEmptyValue
  | finished
  deriving DecidableEq, Repr

/-- The parser's state: the scanner, the current state, the states to return to, the
marks where open collections started, and the tag handles in force. -/
structure Parser where
  scanner : Scanner
  state : State := .streamStart
  states : List State := []
  marks : List Mark := []
  tagHandles : List (String × String) := []

/-- The standard tag handles. -/
def defaultTagHandles : List (String × String) := [("!", "!"), ("!!", "tag:yaml.org,2002:")]

/-- An error with the construct being parsed. -/
def parserError (context : String) (contextMark : Mark) (problem : String) (problemMark : Mark) :
    SyntaxError :=
  { problem, problemMark, context := some context, contextMark }

namespace Parser

/-- The parser at the start of a text. -/
def ofString (text : String) : Parser := { scanner := Scanner.ofString text }

/-- The next token, not taken. -/
def peek (p : Parser) : Except SyntaxError (Token × Parser) := do
  let (t, s) ← p.scanner.peekToken
  pure (t, { p with scanner := s })

/-- Takes the next token. -/
def skip (p : Parser) : Parser := { p with scanner := p.scanner.skipToken }

/-- Goes back to the state on top of the stack. -/
def popState (p : Parser) : Parser :=
  { p with state := p.states.headD .finished, states := p.states.drop 1 }

/-- An empty plain scalar at a mark. -/
def emptyScalar (mark : Mark) : Event := ⟨.scalar none none "" .plain, mark⟩

/-- Reads the `%YAML` and `%TAG` directives before a document. -/
def processDirectives (p : Parser) : Except SyntaxError Parser :=
  go p false [] (p.scanner.fuel)
where
  go (p : Parser) (seenVersion : Bool) (handles : List (String × String)) :
      Nat → Except SyntaxError Parser
    | 0 => .ok p
    | n + 1 => do
      let (t, p) ← p.peek
      match t.kind with
      | .versionDirective major minor =>
        if seenVersion then throw { problem := "found duplicate %YAML directive", problemMark := t.start }
        if major != 1 || (minor != 1 && minor != 2) then
          throw { problem := "found incompatible YAML document", problemMark := t.start }
        go p.skip true handles n
      | .tagDirective handle tagPrefix =>
        if handles.any (·.1 == handle) then
          throw { problem := "found duplicate %TAG directive", problemMark := t.start }
        go p.skip seenVersion (handles ++ [(handle, tagPrefix)]) n
      | _ =>
        let extra := defaultTagHandles.filter fun d => !handles.any (·.1 == d.1)
        pure { p with tagHandles := handles ++ extra }

/-- Resolves a tag's handle. -/
def resolveTag (p : Parser) (handle suffix : String) (start tagMark : Mark) :
    Except SyntaxError String :=
  if handle.isEmpty then .ok suffix
  else match p.tagHandles.lookup handle with
    | some pfx => .ok (pfx ++ suffix)
    | none => .error (parserError "while parsing a node" start "found undefined tag handle" tagMark)

/-- Parses a node: an alias, or properties (anchor, tag) and content. -/
def parseNode (p : Parser) (block indentlessSequence : Bool) : Except SyntaxError (Event × Parser) := do
  let (t, p) ← p.peek
  if let .alias name := t.kind then
    return (⟨.alias name, t.start⟩, p.popState.skip)
  let start := t.start
  -- properties: an anchor and a tag, in either order; the tag is resolved once the
  -- token after them has been read
  let (anchor, tagToken, t, p) ← match t.kind with
    | .anchor a => do
      let (t2, p) ← p.skip.peek
      match t2.kind with
      | .tag h s => do
        let (t3, p) ← p.skip.peek
        pure (some a, some (h, s, t2.start), t3, p)
      | _ => pure (some a, none, t2, p)
    | .tag h s => do
      let (t2, p) ← p.skip.peek
      match t2.kind with
      | .anchor a => do
        let (t3, p) ← p.skip.peek
        pure (some a, some (h, s, t.start), t3, p)
      | _ => pure (none, some (h, s, t.start), t2, p)
    | _ => pure (none, none, t, p)
  let tag ← match tagToken with
    | some (h, s, m) => some <$> p.resolveTag h s start m
    | none => pure none
  if indentlessSequence && t.kind == .blockEntry then
    return (⟨.sequenceStart anchor tag, start⟩, { p with state := .indentlessSequenceEntry })
  match t.kind with
  | .scalar text style => pure (⟨.scalar anchor tag text style, start⟩, p.popState.skip)
  | .flowSequenceStart =>
    pure (⟨.sequenceStart anchor tag, start⟩, { p with state := .flowSequenceFirstEntry })
  | .flowMappingStart =>
    pure (⟨.mappingStart anchor tag, start⟩, { p with state := .flowMappingFirstKey })
  | .blockSequenceStart =>
    if block then pure (⟨.sequenceStart anchor tag, start⟩, { p with state := .blockSequenceFirstEntry })
    else missing p t start anchor tag
  | .blockMappingStart =>
    if block then pure (⟨.mappingStart anchor tag, start⟩, { p with state := .blockMappingFirstKey })
    else missing p t start anchor tag
  | _ => missing p t start anchor tag
where
  /-- No content: an empty scalar if there were properties, else an error. -/
  missing (p : Parser) (t : Token) (start : Mark) (anchor tag : Option String) :
      Except SyntaxError (Event × Parser) :=
    if anchor.isSome || tag.isSome then .ok (⟨.scalar anchor tag "" .plain, start⟩, p.popState)
    else .error (parserError (if block then "while parsing a block node" else "while parsing a flow node")
      start "did not find expected node content" t.start)

/-- Produces the next event. -/
def next (p : Parser) : Except SyntaxError (Event × Parser) := do
  match p.state with
  | .streamStart =>
    let (t, p) ← p.peek
    pure (⟨.streamStart, t.start⟩, { p.skip with state := .implicitDocumentStart })
  | .implicitDocumentStart => documentStart p true
  | .documentStart => documentStart p false
  | .documentContent =>
    let (t, p) ← p.peek
    match t.kind with
    | .versionDirective _ _ | .tagDirective _ _ | .documentStart | .documentEnd | .streamEnd =>
      pure (emptyScalar t.start, p.popState)
    | _ => p.parseNode true false
  | .documentEnd =>
    let (t, p) ← p.peek
    let p := if t.kind == .documentEnd then p.skip else p
    pure (⟨.documentEnd, t.start⟩, { p with state := .documentStart, tagHandles := [] })
  | .blockNode => p.parseNode true false
  | .flowNode => p.parseNode false false
  | .blockSequenceFirstEntry =>
    let (t, p) ← p.peek
    blockSequenceEntry { p.skip with marks := t.start :: p.marks }
  | .blockSequenceEntry => blockSequenceEntry p
  | .indentlessSequenceEntry =>
    let (t, p) ← p.peek
    if t.kind == .blockEntry then
      let (t2, p) ← p.skip.peek
      match t2.kind with
      | .blockEntry | .key | .value | .blockEnd =>
        pure (emptyScalar t.stop, { p with state := .indentlessSequenceEntry })
      | _ => Parser.parseNode { p with states := .indentlessSequenceEntry :: p.states } true false
    else pure (⟨.sequenceEnd, t.start⟩, p.popState)
  | .blockMappingFirstKey =>
    let (t, p) ← p.peek
    blockMappingKey { p.skip with marks := t.start :: p.marks }
  | .blockMappingKey => blockMappingKey p
  | .blockMappingValue =>
    let (t, p) ← p.peek
    if t.kind == .value then
      let (t2, p) ← p.skip.peek
      match t2.kind with
      | .key | .value | .blockEnd => pure (emptyScalar t.stop, { p with state := .blockMappingKey })
      | _ => Parser.parseNode { p with states := .blockMappingKey :: p.states } true true
    else pure (emptyScalar t.start, { p with state := .blockMappingKey })
  | .flowSequenceFirstEntry =>
    let (t, p) ← p.peek
    flowSequenceEntry { p.skip with marks := t.start :: p.marks } true
  | .flowSequenceEntry => flowSequenceEntry p false
  | .flowSequenceEntryMappingKey =>
    let (t, p) ← p.peek
    match t.kind with
    | .value | .flowEntry | .flowSequenceEnd =>
      pure (emptyScalar t.stop, { p with state := .flowSequenceEntryMappingValue })
    | _ => Parser.parseNode { p with states := .flowSequenceEntryMappingValue :: p.states } false false
  | .flowSequenceEntryMappingValue =>
    let (t, p) ← p.peek
    if t.kind == .value then
      let (t2, p) ← p.skip.peek
      match t2.kind with
      | .flowEntry | .flowSequenceEnd =>
        pure (emptyScalar t2.start, { p with state := .flowSequenceEntryMappingEnd })
      | _ => Parser.parseNode { p with states := .flowSequenceEntryMappingEnd :: p.states } false false
    else pure (emptyScalar t.start, { p with state := .flowSequenceEntryMappingEnd })
  | .flowSequenceEntryMappingEnd =>
    let (t, p) ← p.peek
    pure (⟨.mappingEnd, t.start⟩, { p with state := .flowSequenceEntry })
  | .flowMappingFirstKey =>
    let (t, p) ← p.peek
    flowMappingKey { p.skip with marks := t.start :: p.marks } true
  | .flowMappingKey => flowMappingKey p false
  | .flowMappingValue =>
    let (t, p) ← p.peek
    if t.kind == .value then
      let (t2, p) ← p.skip.peek
      match t2.kind with
      | .flowEntry | .flowMappingEnd => pure (emptyScalar t2.start, { p with state := .flowMappingKey })
      | _ => Parser.parseNode { p with states := .flowMappingKey :: p.states } false false
    else pure (emptyScalar t.start, { p with state := .flowMappingKey })
  | .flowMappingEmptyValue =>
    let (t, p) ← p.peek
    pure (emptyScalar t.start, { p with state := .flowMappingKey })
  | .finished => throw { problem := "no more events" }
where
  documentStart (p : Parser) (implicit : Bool) : Except SyntaxError (Event × Parser) := do
    let (t, p) ← p.peek
    -- extra document end markers
    let (t, p) ← if implicit then pure (t, p) else skipDocumentEnds p t p.scanner.fuel
    match t.kind with
    | .versionDirective _ _ | .tagDirective _ _ | .documentStart | .streamEnd =>
      if t.kind == .streamEnd then
        pure (⟨.streamEnd, t.start⟩, { p.skip with state := .finished })
      else
        let start := t.start
        let p ← p.processDirectives
        let (t, p) ← p.peek
        if t.kind != .documentStart then
          throw { problem := "did not find expected <document start>", problemMark := t.start }
        pure (⟨.documentStart, start⟩,
          { p.skip with state := .documentContent, states := .documentEnd :: p.states })
    | _ =>
      if implicit then
        let p ← p.processDirectives
        pure (⟨.documentStart, t.start⟩,
          { p with state := .blockNode, states := .documentEnd :: p.states })
      else
        let p ← p.processDirectives
        let (t, _) ← p.peek
        throw { problem := "did not find expected <document start>", problemMark := t.start }
  skipDocumentEnds (p : Parser) (t : Token) : Nat → Except SyntaxError (Token × Parser)
    | 0 => .ok (t, p)
    | n + 1 =>
      if t.kind == .documentEnd then do
        let (t, p) ← p.skip.peek
        skipDocumentEnds p t n
      else .ok (t, p)
  blockSequenceEntry (p : Parser) : Except SyntaxError (Event × Parser) := do
    let (t, p) ← p.peek
    match t.kind with
    | .blockEntry =>
      let (t2, p) ← p.skip.peek
      match t2.kind with
      | .blockEntry | .blockEnd => pure (emptyScalar t.stop, { p with state := .blockSequenceEntry })
      | _ => Parser.parseNode { p with states := .blockSequenceEntry :: p.states } true false
    | .blockEnd => pure (⟨.sequenceEnd, t.start⟩, { p.popState.skip with marks := p.marks.drop 1 })
    | _ => throw (parserError "while parsing a block collection" (p.marks.headD {})
        "did not find expected '-' indicator" t.start)
  blockMappingKey (p : Parser) : Except SyntaxError (Event × Parser) := do
    let (t, p) ← p.peek
    match t.kind with
    | .key =>
      let (t2, p) ← p.skip.peek
      match t2.kind with
      | .key | .value | .blockEnd => pure (emptyScalar t.stop, { p with state := .blockMappingValue })
      | _ => Parser.parseNode { p with states := .blockMappingValue :: p.states } true true
    | .blockEnd => pure (⟨.mappingEnd, t.start⟩, { p.popState.skip with marks := p.marks.drop 1 })
    | _ => throw (parserError "while parsing a block mapping" (p.marks.headD {})
        "did not find expected key" t.start)
  flowSequenceEntry (p : Parser) (first : Bool) : Except SyntaxError (Event × Parser) := do
    let (t, p) ← p.peek
    if t.kind != .flowSequenceEnd then
      let (t, p) ← if first then pure (t, p)
        else if t.kind == .flowEntry then p.skip.peek
        else throw (parserError "while parsing a flow sequence" (p.marks.headD {})
          "did not find expected ',' or ']'" t.start)
      if t.kind == .key then
        return (⟨.mappingStart none none, t.start⟩, { p.skip with state := .flowSequenceEntryMappingKey })
      else if t.kind != .flowSequenceEnd then
        return ← Parser.parseNode { p with states := .flowSequenceEntry :: p.states } false false
      else
        return (⟨.sequenceEnd, t.start⟩, { p.popState.skip with marks := p.marks.drop 1 })
    pure (⟨.sequenceEnd, t.start⟩, { p.popState.skip with marks := p.marks.drop 1 })
  flowMappingKey (p : Parser) (first : Bool) : Except SyntaxError (Event × Parser) := do
    let (t, p) ← p.peek
    if t.kind != .flowMappingEnd then
      let (t, p) ← if first then pure (t, p)
        else if t.kind == .flowEntry then p.skip.peek
        else throw (parserError "while parsing a flow mapping" (p.marks.headD {})
          "did not find expected ',' or '\x7d'" t.start)
      if t.kind == .key then
        let (t2, p) ← p.skip.peek
        match t2.kind with
        | .value | .flowEntry | .flowMappingEnd =>
          return (emptyScalar t2.start, { p with state := .flowMappingValue })
        | _ => return ← Parser.parseNode { p with states := .flowMappingValue :: p.states } false false
      else if t.kind != .flowMappingEnd then
        return ← Parser.parseNode { p with states := .flowMappingEmptyValue :: p.states } false false
      else
        return (⟨.mappingEnd, t.start⟩, { p.popState.skip with marks := p.marks.drop 1 })
    pure (⟨.mappingEnd, t.start⟩, { p.popState.skip with marks := p.marks.drop 1 })

end Parser

/-- An event of a loaded document: aliases point at the event of their anchor. -/
inductive Loaded where
  | scalar (tag : Option String) (text : String) (style : ScalarStyle)
  | alias (target : Nat)
  | sequenceStart (tag : Option String)
  | sequenceEnd
  | mappingStart (tag : Option String)
  | mappingEnd
  /-- The text holds no document at all. -/
  | void
  deriving DecidableEq, Repr

/-- Why loading stopped early. -/
inductive LoadError where
  | malformed (e : SyntaxError)
  | unknownAnchor (mark : Mark)
  deriving DecidableEq, Repr

/-- The message of a load error. -/
def LoadError.message : LoadError → String
  | .malformed e => e.message
  | .unknownAnchor m => "unknown anchor" ++ (if m.isStart then "" else " at " ++ m.text)

/-- The first document of a text. -/
structure Document where
  events : Array (Loaded × Mark)
  /-- The error that stopped loading before the document's end. -/
  error : Option LoadError
  /-- Whether something follows the document: another document, or an error. -/
  more : Bool
  deriving Repr

/-- Loads events until the end of a document. `first` tells whether it is the first
document, which is never absent: a text without one gives a single `void` event. -/
def loadEvents (p : Parser) (first : Bool) :
    Nat → Array (Loaded × Mark) → List (String × Nat) → Option (Array (Loaded × Mark) × Option LoadError × Parser)
  | 0, evs, _ => some (evs, none, p)
  | n + 1, evs, anchors =>
    match p.next with
    | .error e => some (evs, some (.malformed e), p)
    | .ok (ev, p) =>
      let withAnchor (a : Option String) : List (String × Nat) :=
        match a with
        | some name => (name, evs.size) :: anchors
        | none => anchors
      match ev.kind with
      | .streamStart | .documentStart => loadEvents p first n evs anchors
      | .streamEnd =>
        if first then some ((if evs.isEmpty then evs.push (.void, ev.start) else evs), none, p)
        else none
      | .documentEnd => some (evs, none, p)
      | .alias name =>
        match anchors.lookup name with
        | some i => loadEvents p first n (evs.push (.alias i, ev.start)) anchors
        | none => some (evs, some (.unknownAnchor ev.start), p)
      | .scalar a tag text style =>
        loadEvents p first n (evs.push (.scalar tag text style, ev.start)) (withAnchor a)
      | .sequenceStart a tag => loadEvents p first n (evs.push (.sequenceStart tag, ev.start)) (withAnchor a)
      | .sequenceEnd => loadEvents p first n (evs.push (.sequenceEnd, ev.start)) anchors
      | .mappingStart a tag => loadEvents p first n (evs.push (.mappingStart tag, ev.start)) (withAnchor a)
      | .mappingEnd => loadEvents p first n (evs.push (.mappingEnd, ev.start)) anchors

/-- Loads the first document of a text. The reader refuses control characters before
anything is parsed. -/
def Document.load (text : String) : Document :=
  match refusedChar? text with
  | some e => ⟨#[], some (.malformed e), false⟩
  | none =>
    let p := Parser.ofString text
    let fuel := 8 * p.scanner.fuel
    match loadEvents p true fuel #[] [] with
    | none => ⟨#[], none, false⟩
    | some (evs, some e, _) => ⟨evs, some e, false⟩
    | some (evs, none, p) =>
      let more := match p.state with
        | .finished => false
        | _ => (loadEvents p false fuel #[] []).isSome
      ⟨evs, none, more⟩

end Transcribe.Yaml
