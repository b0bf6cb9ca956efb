/-!
# `Log` — notes that a conversion leaves for its reader

Reading, translating and converting leave *notes*: a level, the part of the program
that wrote it, and a line of text. The library returns notes as data; what is shown
and where is decided by the command line (`Cli.LogFilter`). A note is shown as
`[LEVEL origin] text`, the level in upper case padded to five characters; a text of
several lines continues each further line after four spaces.
-/

namespace Transcribe

/-- How much a note matters, from the most to the least. -/
inductive Level where
  | error
  | warn
  | info
  | debug
  | trace
  deriving DecidableEq, Repr

/-- The rank of a level: errors rank lowest, so a filter at level `l` shows the notes
whose rank is at most `l`'s. -/
def Level.rank : Level → Nat
  | .error => 1
  | .warn => 2
  | .info => 3
  | .debug => 4
  | .trace => 5

/-- The level as it is shown, padded to five characters. -/
def Level.label : Level → String
  | .error => "ERROR"
  | .warn => "WARN "
  | .info => "INFO "
  | .debug => "DEBUG"
  | .trace => "TRACE"

/-- The part of the program that writes a note. -/
inductive Origin where
  /-- Reading a recorded document. -/
  | reader
  /-- Translating a step. -/
  | translator
  /-- Converting a whole document. -/
  | converter
  /-- Converting a directory of documents. -/
  | batch
  deriving DecidableEq, Repr

/-- The name under which an origin's notes are shown and filtered. -/
def Origin.path : Origin → String
  | .reader => "selenium2php::parser::html"
  | .translator => "selenium2php::translator"
  | .converter => "selenium2php::converter"
  | .batch => "selenium2php::batch"

/-- A note. -/
structure Note where
  level : Level
  origin : Origin
  text : String
  deriving DecidableEq, Repr

/-- The line that shows a note; each line break of the text is followed by an indent
of four spaces. -/
def Note.line (n : Note) : String :=
  "[" ++ n.level.label ++ " " ++ n.origin.path ++ "] " ++ "\n    ".intercalate (n.text.splitOn "\n")

end Transcribe
