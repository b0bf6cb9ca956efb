/-!
# `Files.Path` — paths as text

A path is a text of pieces separated by `/`. Its *components* are what it names: a
root if it starts with `/`, a current directory if a relative path starts with `.`
as a piece of its own, then every other piece, where empty pieces (from `//` or a
final `/`) and `.` pieces say nothing and are dropped, and `..` names the parent.

The parent of a path and its file name are read off its components, but a parent is
a part of the given text: what stands before the last component, less trailing
separators and `.` pieces, so `a//b` has parent `a` and `./x` has parent `.`. A path
whose last component is its root has no parent; one that names a single relative
component has the empty path as parent, which stands for the current directory.

Joining appends a relative path after a separator (none is added after one already
there); an absolute path replaces the base. Paths are ordered component by component.
-/

namespace Transcribe.Files

/-- A component of a path. -/
inductive Component where
  | root
  | current
  | up
  | normal (name : String)
  deriving DecidableEq, Repr

/-- The pieces of a text between its `/` separators, empty ones included. -/
def pieces (s : String) : List String := (s.toList.splitOn '/').map String.ofList

/-- Whether a path is absolute. -/
def isAbsolute (p : String) : Bool := p.startsWith "/"

/-- Whether a relative path starts with a current-directory piece. -/
def startsAtCurrent (p : String) : Bool := !isAbsolute p && (p == "." || p.startsWith "./")

/-- The piece of text before the body of a path: the root, or a leading `.`. -/
def headLength (p : String) : Nat := if isAbsolute p || startsAtCurrent p then 1 else 0

/-- The components of a body's pieces. -/
def bodyComponents (pieces : List String) : List Component :=
  pieces.filterMap fun s =>
    if s.isEmpty || s == "." then none
    else if s == ".." then some .up
    else some (.normal s)

/-- The components of a path. -/
def components (p : String) : List Component :=
  (if isAbsolute p then [.root] else []) ++ (if startsAtCurrent p then [.current] else []) ++
    bodyComponents (pieces (String.ofList (p.toList.drop (headLength p))))

/-- Drops trailing pieces that name nothing. -/
def trimPieces (pieces : List String) : List String :=
  (pieces.reverse.dropWhile fun s => s.isEmpty || s == ".").reverse

/-- The parent of a path: the text before its last component. -/
def parent? (p : String) : Option String :=
  match (components p).getLast? with
  | none => none
  | some .root => none
  | some _ =>
    let head := String.ofList (p.toList.take (headLength p))
    let body := trimPieces (pieces (String.ofList (p.toList.drop (headLength p))))
    match body with
    | [] => some ""
    | _ => some (head ++ "/".intercalate (trimPieces body.dropLast))

/-- The file name of a path: its last component when that is a name. -/
def fileName? (p : String) : Option String :=
  match (components p).getLast? with
  | some (.normal n) => some n
  | _ => none

/-- Joins a path to a base. -/
def join (base p : String) : String :=
  if isAbsolute p then p
  else if base.isEmpty || base.endsWith "/" then base ++ p
  else base ++ "/" ++ p

/-- The directory a path sits in: its parent, or `.` when that is empty or absent. -/
def parentDir (p : String) : String :=
  match parent? p with
  | some q => if q.isEmpty then "." else q
  | none => "."

/-- The rank of a component's kind in the order of paths. -/
def Component.rank : Component → Nat
  | .root => 0
  | .current => 1
  | .up => 2
  | .normal _ => 3

/-- Components in order: by kind, then names by their characters. -/
def Component.lt (a b : Component) : Bool :=
  match a, b with
  | .normal x, .normal y => decide (x < y)
  | _, _ => a.rank < b.rank

/-- Lists of components in lexicographic order. -/
def componentsLt : List Component → List Component → Bool
  | [], [] => false
  | [], _ :: _ => true
  | _ :: _, [] => false
  | a :: as, b :: bs => if a == b then componentsLt as bs else a.lt b

/-- Paths in order, component by component. -/
def pathLt (p q : String) : Bool := componentsLt (components p) (components q)

/-- Whether two paths name the same components. -/
def samePath (p q : String) : Bool := components p == components q

end Transcribe.Files
