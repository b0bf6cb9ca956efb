/-!
# `Yaml.Syntax` — positions, tokens, events and syntax errors of YAML

A YAML text is read in two layers: a scanner cuts the characters into
*tokens* (indicators, scalars, the implicit starts and ends of block collections), and
a parser turns the tokens into *events* (starts and ends of documents, sequences and
mappings, scalars and aliases).

A *mark* is a position: the number of characters and of UTF-8 bytes before it, and its
line and column, both counted from zero. Messages count both from one.

A syntax error names a problem at a mark and, often, the construct being read when it
was found (its *context*) with the mark where that construct started. The reader that
refuses control characters names the byte offset instead of a mark.
-/

namespace Transcribe.Yaml

/-- A position in a YAML text. -/
structure Mark where
  index : Nat := 0
  /-- The number of UTF-8 bytes before the position. -/
  offset : Nat := 0
  line : Nat := 0
  column : Nat := 0
  deriving DecidableEq, Repr, Inhabited

/-- A mark as messages write it, counting from one. -/
def Mark.text (m : Mark) : String :=
  "line " ++ toString (m.line + 1) ++ " column " ++ toString (m.column + 1)

/-- The mark at the very start says nothing and is left out of messages. -/
def Mark.isStart (m : Mark) : Bool := m.line == 0 && m.column == 0

/-- A syntax error of a YAML text. -/
structure SyntaxError where
  problem : String
  problemMark : Mark := {}
  context : Option String := none
  contextMark : Mark := {}
  /-- The byte offset of a refused character, for errors of the reader. -/
  offset : Nat := 0
  deriving DecidableEq, Repr

/-- The message of a syntax error: the problem and where, then the context and where it
started, when that is a different place. -/
def SyntaxError.message (e : SyntaxError) : String :=
  let m := e.problemMark
  let head := e.problem ++
    (if !m.isStart then " at " ++ m.text
     else if e.offset != 0 then " at position " ++ toString e.offset else "")
  match e.context with
  | none => head
  | some c =>
    let cm := e.contextMark
    head ++ ", " ++ c ++
      (if !cm.isStart && (cm.line != m.line || cm.column != m.column) then " at " ++ cm.text else "")

/-- How a scalar is written. -/
inductive ScalarStyle where
  | plain
  | singleQuoted
  | doubleQuoted
  | literal
  | folded
  deriving DecidableEq, Repr

/-- What a token is. -/
inductive TokenKind where
  | streamStart
  | streamEnd
  | versionDirective (major minor : Nat)
  | tagDirective (handle tagPrefix : String)
  | documentStart
  | documentEnd
  | blockSequenceStart
  | blockMappingStart
  | blockEnd
  | flowSequenceStart
  | flowSequenceEnd
  | flowMappingStart
  | flowMappingEnd
  | blockEntry
  | flowEntry
  | key
  | value
  | alias (name : String)
  | anchor (name : String)
  | tag (handle suffix : String)
  | scalar (text : String) (style : ScalarStyle)
  deriving DecidableEq, Repr

/-- A token with the marks where it starts and ends. -/
structure Token where
  kind : TokenKind
  start : Mark
  stop : Mark
  deriving DecidableEq, Repr

/-- What an event is. -/
inductive EventKind where
  | streamStart
  | streamEnd
  | documentStart
  | documentEnd
  | alias (name : String)
  | scalar (anchor : Option String) (tag : Option String) (text : String) (style : ScalarStyle)
  | sequenceStart (anchor : Option String) (tag : Option String)
  | sequenceEnd
  | mappingStart (anchor : Option String) (tag : Option String)
  | mappingEnd
  deriving DecidableEq, Repr

/-- An event with the mark where it starts. -/
structure Event where
  kind : EventKind
  start : Mark
  deriving DecidableEq, Repr

end Transcribe.Yaml
