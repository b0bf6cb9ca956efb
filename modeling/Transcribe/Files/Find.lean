import Transcribe.Files.Glob
import Transcribe.Files.Path
import Transcribe.Files.System
/-!
# `Files.Find` — finding files by pattern, and below a directory

`glob` finds the paths that a pattern such as `suite/*.html` names. The pattern is
cut at `/` into one pattern per component, and the search goes down from the current
directory (or the root): a component without wildcards is looked up directly, any
other is matched against the names in the directory reached so far. A `**` component
stands for any number of directories. Found paths are spelled as they were reached:
the names joined to the path of their directory, bare below the current directory.

`walkFiles` lists every file below a directory, at any depth.

Both are bounded by a budget of steps, far above what a tree of files needs.
-/

namespace Transcribe.Files

variable {m : Type → Type} [Monad m] [FileSystem m]

/-- A path met while searching, and whether it is a directory. -/
structure Visit where
  path : String
  isDir : Bool

/-- Looks a path up. -/
def visit (p : String) : m Visit := do return ⟨p, ← isDir p⟩

/-- The steps a search may take. -/
def searchBudget : Nat := 100000

/-- Cuts text at `/`; an empty piece at the very end is dropped. -/
def splitTerminator (s : String) : List String :=
  let cut := pieces s
  if cut.getLast? == some "" then cut.dropLast else cut

/-- A path waiting in the search, with the index of the component it still has to
match, or none when it is already known to match them all. -/
abbrev Pending := Visit × Option Nat

/-- What the component at `idx` adds below a path: a literal component is looked up
directly (the next component continues from it at once), any other lists the
directory, whose entries wait to be matched. A component starting with `.` also
reaches `.` and `..` when it matches them. -/
def expandAt (patterns : List Pattern) : Nat → Nat → Visit → m (List Pending)
  | 0, _, _ => pure []
  | fuel + 1, idx, path => do
    match patterns[idx]? with
    | none => pure []
    | some pat =>
      let here := samePath path.path "."
      let add (next : Visit) : m (List Pending) :=
        if idx + 1 == patterns.length then pure [(next, none)]
        else expandAt patterns fuel (idx + 1) next
      match pat.literal? with
      | some s =>
        let special := s == "." || s == ".."
        let nextPath := if here then s else join path.path s
        if (special && path.isDir) || (!special && (← exists? nextPath)) then add (← visit nextPath)
        else pure []
      | none =>
        if !path.isDir then pure []
        else match ← FileSystem.children path.path with
          | .error _ => pure []
          | .ok kids =>
            let listed : List Pending := kids.map fun (name, kind) =>
              (⟨if here then name else join path.path name, kind == .dir⟩, some idx)
            let specials ← if pat.tokens.head? == some (.char '.') then
                [".", ".."].foldlM (fun acc sp => do
                  if pat.matches sp then return acc ++ (← add (← visit (join path.path sp)))
                  else return acc) []
              else pure []
            pure (listed ++ specials)

/-- The last index of the run of `**` components that starts at `idx`. -/
def recursiveRunEnd (patterns : List Pattern) (idx : Nat) : Nat → Nat
  | 0 => idx
  | fuel + 1 =>
    match patterns[idx + 1]? with
    | some p => if p.recursive then recursiveRunEnd patterns (idx + 1) fuel else idx
    | none => idx

/-- Works through the waiting paths and collects those that match every component. -/
def searchLoop (patterns : List Pattern) (requireDir : Bool) :
    Nat → List Pending → List String → m (List String)
  | 0, _, acc => pure acc
  | _, [], acc => pure acc
  | fuel + 1, (path, idx?) :: todo, acc => do
    match idx? with
    | none =>
      if requireDir && !path.isDir then searchLoop patterns requireDir fuel todo acc
      else searchLoop patterns requireDir fuel todo (acc ++ [path.path])
    | some idx =>
      let last := patterns.length - 1
      -- a run of `**` components: a directory matches it and its entries wait on it
      let (idx?, todo, acc) ← do
        if (patterns[idx]?.map (·.recursive)).getD false then
          let next := recursiveRunEnd patterns idx patterns.length
          if path.isDir then
            let more ← expandAt patterns patterns.length next path
            if next == last then pure (none, todo ++ more, acc ++ [path.path])
            else pure (some (next + 1), todo ++ more, acc)
          else if next == last then pure (none, todo, acc)
          else pure (some (next + 1), todo, acc)
        else pure (some idx, todo, acc)
      match idx? with
      | none => searchLoop patterns requireDir fuel todo acc
      | some idx =>
        match fileName? path.path, patterns[idx]? with
        | some name, some pat =>
          if pat.matches name then
            if idx == last then
              if !requireDir || path.isDir then searchLoop patterns requireDir fuel todo (acc ++ [path.path])
              else searchLoop patterns requireDir fuel todo acc
            else
              let more ← expandAt patterns patterns.length (idx + 1) path
              searchLoop patterns requireDir fuel (todo ++ more) acc
          else searchLoop patterns requireDir fuel todo acc
        | _, _ => searchLoop patterns requireDir fuel todo acc

/-- The paths a pattern names, in no particular order, or why it cannot be read. -/
def glob (pattern : String) : m (Except PatternError (List String)) := do
  match Pattern.read pattern with
  | .error e => return .error e
  | .ok _ =>
    let absolute := isAbsolute pattern
    let body := if absolute then String.ofList (pattern.toList.drop 1) else pattern
    match (splitTerminator body).mapM Pattern.read with
    | .error e => return .error e
    | .ok patterns =>
      if patterns.isEmpty then return .ok []
      let start ← expandAt patterns patterns.length 0 (← visit (if absolute then "/" else "."))
      return .ok (← searchLoop patterns (pattern.endsWith "/") searchBudget start [])

/-- Every file below a directory, at any depth, under the directory's path joined with
the names on the way. -/
def walkFiles (dir : String) : m (List String) :=
  go searchBudget [dir] []
where
  go : Nat → List String → List String → m (List String)
    | 0, _, acc => pure acc
    | _, [], acc => pure acc
    | fuel + 1, d :: rest, acc => do
      match ← FileSystem.children d with
      | .error _ => go fuel rest acc
      | .ok kids =>
        let files := (kids.filter (·.2 == .file)).map fun k => join d k.1
        let dirs := (kids.filter (·.2 == .dir)).map fun k => join d k.1
        go fuel (dirs ++ rest) (acc ++ files)

/-- Sorts paths component by component. -/
def sortPaths (ps : List String) : List String := ps.mergeSort fun a b => !pathLt b a

end Transcribe.Files
