import Transcribe.Files.Fault
import Transcribe.Files.Path
/-!
# `Files.Tree` — a directory tree held as a value

A tree is the content of one directory: entries keyed by their list of names below
it, each a file with its bytes or a directory. The tree's own top is a directory.

A path is looked up the way an operating system walks it, piece by piece: every
piece but the last must lead to a directory (a file on the way is *not a directory*,
nothing there is *not found*); empty and `.` pieces stay, `..` goes up. The last piece
names an entry, or nothing yet, which is where a new file may be created. Paths that
leave the tree, absolute ones or `..` from its top, find nothing.
-/

namespace Transcribe.Files

/-- An entry of a tree. -/
inductive Node where
  | file (bytes : ByteArray)
  | dir

/-- What kind of entry is at a path. -/
inductive EntryKind where
  | file
  | dir
  deriving DecidableEq, Repr

/-- A directory tree: entries keyed by their names below the top. -/
structure Tree where
  entries : List (List String × Node) := []

/-- Where a path leads. -/
inductive Place where
  /-- An existing file. -/
  | file (key : List String) (bytes : ByteArray)
  /-- An existing directory (the top has the empty key). -/
  | dir (key : List String)
  /-- Nothing yet, in an existing directory. -/
  | absent (parent : List String) (name : String)
  /-- The walk failed on the way. -/
  | fault (f : Fault)

namespace Tree

/-- The entry with a key. -/
def find? (t : Tree) (key : List String) : Option Node :=
  if key.isEmpty then some .dir else (t.entries.find? (·.1 == key)).map (·.2)

/-- Walks the pieces of a path from a directory. -/
def walk (t : Tree) (cur : List String) : List String → Place
  | [] => .dir cur
  | [piece] =>
    if piece.isEmpty || piece == "." then .dir cur
    else if piece == ".." then (if cur.isEmpty then .fault .notFound else .dir cur.dropLast)
    else match t.find? (cur ++ [piece]) with
      | some (.file b) => .file (cur ++ [piece]) b
      | some .dir => .dir (cur ++ [piece])
      | none => .absent cur piece
  | piece :: rest =>
    if piece.isEmpty || piece == "." then t.walk cur rest
    else if piece == ".." then (if cur.isEmpty then .fault .notFound else t.walk cur.dropLast rest)
    else match t.find? (cur ++ [piece]) with
      | some .dir => t.walk (cur ++ [piece]) rest
      | some (.file _) => .fault .notDirectory
      | none => .fault .notFound

/-- Where a path leads from the top. -/
def locate (t : Tree) (p : String) : Place :=
  if p.isEmpty || p.startsWith "/" then .fault .notFound else t.walk [] (pieces p)

/-- The kind of entry at a path, if any. -/
def kind? (t : Tree) (p : String) : Option EntryKind :=
  match t.locate p with
  | .file _ _ => some .file
  | .dir _ => some .dir
  | _ => none

/-- The bytes of the file at a path. -/
def read (t : Tree) (p : String) : Except Fault ByteArray :=
  match t.locate p with
  | .file _ b => .ok b
  | .dir _ => .error .isDirectory
  | .absent _ _ => .error .notFound
  | .fault f => .error f

/-- Sets the entry with a key, in place or at the end. -/
def put (t : Tree) (key : List String) (n : Node) : Tree :=
  if t.entries.any (·.1 == key) then
    ⟨t.entries.map fun e => if e.1 == key then (key, n) else e⟩
  else ⟨t.entries ++ [(key, n)]⟩

/-- Writes a file at a path: replaces a file, creates one in an existing directory. -/
def write (t : Tree) (p : String) (bytes : ByteArray) : Except Fault Tree :=
  match t.locate p with
  | .file key _ => .ok (t.put key (.file bytes))
  | .dir _ => .error .isDirectory
  | .absent parent name => .ok (t.put (parent ++ [name]) (.file bytes))
  | .fault f => .error f

/-- The entries directly in a directory: their names and kinds. -/
def children (t : Tree) (p : String) : Except Fault (List (String × EntryKind)) :=
  match t.locate p with
  | .dir key =>
    .ok (t.entries.filterMap fun (k, n) =>
      if k.length == key.length + 1 && k.take key.length == key then
        some (k.getLastD "", match n with | .file _ => .file | .dir => .dir)
      else none)
  | .file _ _ => .error .notDirectory
  | .absent _ _ => .error .notFound
  | .fault f => .error f

/-- Adds a directory and the directories above it. -/
def addDir (t : Tree) (key : List String) : Tree :=
  (List.range key.length).foldl (fun t i =>
    let k := key.take (i + 1)
    if t.entries.any (·.1 == k) then t else t.put k .dir) t

/-- Adds a file and the directories above it. -/
def addFile (t : Tree) (key : List String) (bytes : ByteArray) : Tree :=
  (t.addDir key.dropLast).put key (.file bytes)

end Tree

/-- The names of a relative path given with `/` separators. -/
def keyOf (p : String) : List String := (pieces p).filter fun s => !s.isEmpty && s != "."

end Transcribe.Files
