import Mathlib.Control.Traversable.Basic
import Transcribe.Cli.Run
import Transcribe.Proofs.Paths
/-!
# `Proofs.BatchRun` — converting a directory, one file at a time

A directory run collects the recorded tests of a directory and converts them one after
another; each file's result goes into the report, and nothing a file does, failing
included, reaches the others except through the files it writes. This module states what
such a run does over any tree.

What is observed is a `Journal`: a tree together with the list of writes that took effect
on it. It answers the file-system questions as its tree does and records each write the
tree takes, so "the writes performed" is a value that can be compared.

## What is proved

* Looking things up changes nothing: collecting the inputs, reading a file or a template,
  resolving an output path and loading the settings are `ReadOnly`.
* One file (`fileRun_convertFile`): converting `f` from a journal either fails and leaves
  the journal exactly as it was, which happens exactly when no sequence of its stages
  goes through, or it goes through every stage and makes one write: the converted text of
  the file, at its output path (`Writes`, `FileRun`).
* A whole run (`directory_files_convert_in_isolation`): the files collected, which come in
  path order, are converted once each, in that order, each from the journal the one before
  left (`DirRun`); the report lists every file once, its output or its error
  (`reportOf`); the writes added to the journal go to exactly the outputs listed as
  converted, in order; and the command line ends with status `1` exactly when some file
  failed.

## How

The journal's reads return the journal unchanged, so a read can be taken out of a
sequence (`ReadOnly.run_bind`). The step lemma for one file is a case split on the four
stages; the run lemma is an induction over the fold of `convertNext` with the report so far
generalised, and everything else about the run is read off the relation `DirRun` by
induction.
-/

namespace Transcribe

open Transcribe.Files

/-! ## A tree with its writes -/

/-- A tree together with the writes that took effect on it, oldest first. -/
structure Journal where
  tree : Tree
  writes : List (String × ByteArray) := []

/-- The journal after its tree took the write of `b` at `p`, becoming `t`. -/
def Journal.record (j : Journal) (p : String) (b : ByteArray) (t : Tree) : Journal :=
  ⟨t, j.writes ++ [(p, b)]⟩

/-- A journal answers as its tree does and records every write its tree takes; a write
the tree refuses leaves no trace. -/
instance : FileSystem (StateM Journal) where
  kind? p := do return (← get).tree.kind? p
  readBytes p := do return (← get).tree.read p
  writeBytes p b := do
    let j ← get
    match j.tree.write p b with
    | .ok t => set (j.record p b t); return .ok ()
    | .error f => return .error f
  children p := do return (← get).tree.children p

/-! ## Programs that only read -/

/-- A program that answers from the journal without changing it. -/
def ReadOnly {α : Type} (x : StateM Journal α) : Prop := ∀ j, (x.run j).2 = j

namespace ReadOnly

variable {α β : Type}

theorem pure (a : α) : ReadOnly (Pure.pure a : StateM Journal α) := fun _ => rfl

theorem bind {x : StateM Journal α} {f : α → StateM Journal β} (hx : ReadOnly x)
    (hf : ∀ a, ReadOnly (f a)) : ReadOnly (x >>= f) := by
  intro j
  show ((f (x.run j).1).run (x.run j).2).2 = j
  rw [hx j, hf]

/-- A run of `x` then `f` is `f` run from where `x` left the journal. -/
theorem run_bind_of {x : StateM Journal α} {f : α → StateM Journal β} (j : Journal) :
    (x >>= f).run j = (f (x.run j).1).run (x.run j).2 := rfl

/-- A read can be taken out of a sequence: what follows runs from the same journal. -/
theorem run_bind {x : StateM Journal α} {f : α → StateM Journal β} (hx : ReadOnly x)
    (j : Journal) : (x >>= f).run j = (f (x.run' j)).run j := by
  show (f (x.run j).1).run (x.run j).2 = _
  rw [hx j]
  rfl

theorem foldlM {f : β → α → StateM Journal β} (hf : ∀ b a, ReadOnly (f b a)) :
    ∀ (xs : List α) (b : β), ReadOnly (xs.foldlM f b)
  | [], _ => ReadOnly.pure _
  | x :: xs, b => by
    rw [List.foldlM_cons]
    exact ReadOnly.bind (hf b x) fun b' => ReadOnly.foldlM hf xs b'

theorem filterAuxM {p : α → StateM Journal Bool} (hp : ∀ a, ReadOnly (p a)) :
    ∀ (xs acc : List α), ReadOnly (List.filterAuxM p xs acc)
  | [], _ => ReadOnly.pure _
  | x :: xs, _ => ReadOnly.bind (hp x) fun _ => ReadOnly.filterAuxM hp xs _

theorem filterM {p : α → StateM Journal Bool} (hp : ∀ a, ReadOnly (p a)) (xs : List α) :
    ReadOnly (xs.filterM p) :=
  ReadOnly.bind (ReadOnly.filterAuxM hp xs []) fun _ => ReadOnly.pure _

end ReadOnly

theorem readOnly_kind (p : String) : ReadOnly (FileSystem.kind? p : StateM Journal _) :=
  fun _ => rfl

theorem readOnly_readBytes (p : String) : ReadOnly (FileSystem.readBytes p : StateM Journal _) :=
  fun _ => rfl

theorem readOnly_children (p : String) : ReadOnly (FileSystem.children p : StateM Journal _) :=
  fun _ => rfl

theorem readOnly_isDir (p : String) : ReadOnly (isDir p : StateM Journal _) :=
  ReadOnly.bind (readOnly_kind p) fun _ => ReadOnly.pure _

theorem readOnly_isFile (p : String) : ReadOnly (isFile p : StateM Journal _) :=
  ReadOnly.bind (readOnly_kind p) fun _ => ReadOnly.pure _

theorem readOnly_exists (p : String) : ReadOnly (exists? p : StateM Journal _) :=
  ReadOnly.bind (readOnly_kind p) fun _ => ReadOnly.pure _

theorem readOnly_visit (p : String) : ReadOnly (visit p : StateM Journal _) :=
  ReadOnly.bind (readOnly_isDir p) fun _ => ReadOnly.pure _

theorem readOnly_readText (p : String) : ReadOnly (readText p : StateM Journal _) := by
  unfold readText
  refine ReadOnly.bind (readOnly_readBytes p) fun _ => ?_
  split
  · split <;> exact ReadOnly.pure _
  · exact ReadOnly.pure _

theorem readOnly_templateText (template : Option String) :
    ReadOnly (templateText template : StateM Journal _) := by
  unfold templateText
  split
  · exact ReadOnly.pure _
  · refine ReadOnly.bind (readOnly_isFile _) fun _ => ?_
    split
    · exact ReadOnly.pure _
    · refine ReadOnly.bind (readOnly_readText _) fun _ => ?_
      split <;> exact ReadOnly.pure _

theorem readOnly_outputPath (s : BatchSettings) (htmlPath sourceBase : String) :
    ReadOnly (outputPath s htmlPath sourceBase : StateM Journal _) := by
  unfold outputPath
  simp only [pure_bind]
  split
  · refine ReadOnly.bind (readOnly_isDir _) fun _ => ?_
    split
    · exact ReadOnly.pure _
    · refine ReadOnly.bind (readOnly_isDir _) fun _ => ?_
      split <;> exact ReadOnly.pure _
  · exact ReadOnly.pure _

theorem readOnly_expandAt (patterns : List Pattern) :
    ∀ (fuel idx : Nat) (path : Visit), ReadOnly (expandAt patterns fuel idx path : StateM Journal _)
  | 0, _, _ => ReadOnly.pure _
  | fuel + 1, idx, path => by
    -- what a match adds below it: the match itself at the last component, else the search
    -- one component further
    have hadd : ∀ next : Visit, ReadOnly ((if idx + 1 == patterns.length then Pure.pure [(next, none)]
        else expandAt patterns fuel (idx + 1) next) : StateM Journal (List Pending)) := fun next => by
      split
      · exact ReadOnly.pure _
      · exact readOnly_expandAt patterns fuel (idx + 1) next
    rw [expandAt]
    dsimp only
    split
    · exact ReadOnly.pure _
    · split
      · refine ReadOnly.bind (readOnly_exists _) fun _ => ?_
        split
        · exact ReadOnly.bind (readOnly_visit _) hadd
        · exact ReadOnly.pure _
      · split
        · exact ReadOnly.pure _
        · refine ReadOnly.bind (readOnly_children _) fun _ => ?_
          split
          · exact ReadOnly.pure _
          · split
            · refine ReadOnly.bind (ReadOnly.foldlM (fun _ _ => ?_) _ _) fun _ => ReadOnly.pure _
              split
              · exact ReadOnly.bind (readOnly_visit _) fun v =>
                  ReadOnly.bind (hadd v) fun _ => ReadOnly.pure _
              · exact ReadOnly.pure _
            · exact ReadOnly.bind (ReadOnly.pure _) fun _ => ReadOnly.pure _

theorem readOnly_searchLoop (patterns : List Pattern) (requireDir : Bool) :
    ∀ (fuel : Nat) (todo : List Pending) (acc : List String),
      ReadOnly (searchLoop patterns requireDir fuel todo acc : StateM Journal _)
  | 0, _, _ => ReadOnly.pure _
  | _ + 1, [], _ => ReadOnly.pure _
  | fuel + 1, (_, _) :: _, _ => by
    have ih := readOnly_searchLoop patterns requireDir fuel
    unfold searchLoop
    simp only [pure_bind]
    -- every branch goes on searching, some after expanding the path in hand
    repeat' (first | split | refine ReadOnly.bind (readOnly_expandAt _ _ _ _) fun _ => ?_)
    all_goals exact ih _ _

theorem readOnly_glob (pattern : String) : ReadOnly (glob pattern : StateM Journal _) := by
  unfold glob
  dsimp only
  split
  · exact ReadOnly.pure _
  · split
    · exact ReadOnly.pure _
    · split
      · exact ReadOnly.pure _
      · refine ReadOnly.bind (readOnly_visit _) fun _ =>
          ReadOnly.bind (readOnly_expandAt _ _ _ _) fun _ => ?_
        exact ReadOnly.bind (readOnly_searchLoop _ _ _ _ _) fun _ => ReadOnly.pure _

theorem readOnly_walkFiles_go : ∀ (fuel : Nat) (todo acc : List String),
    ReadOnly (walkFiles.go fuel todo acc : StateM Journal _)
  | 0, _, _ => ReadOnly.pure _
  | _ + 1, [], _ => ReadOnly.pure _
  | fuel + 1, d :: _, _ => by
    unfold walkFiles.go
    refine ReadOnly.bind (readOnly_children d) fun _ => ?_
    split <;> exact readOnly_walkFiles_go fuel _ _

theorem readOnly_collectInputs (s : BatchSettings) (dir : String) :
    ReadOnly (collectInputs s dir : StateM Journal _) := by
  unfold collectInputs
  dsimp only
  split
  · split
    · exact ReadOnly.pure _
    · exact ReadOnly.bind (readOnly_walkFiles_go _ _ _) fun _ => ReadOnly.pure _
  · refine ReadOnly.bind (readOnly_glob _) fun _ => ?_
    split
    · exact ReadOnly.pure _
    · exact ReadOnly.bind (ReadOnly.filterM readOnly_isFile _) fun _ => ReadOnly.pure _

theorem readOnly_loadConfig (inv : Cli.Invocation) :
    ReadOnly (Cli.loadConfig inv : StateM Journal _) := by
  unfold Cli.loadConfig
  simp only [pure_bind]
  split
  · exact ReadOnly.pure _
  · refine ReadOnly.bind (readOnly_readText _) fun _ => ?_
    split
    · exact ReadOnly.pure _
    · split <;> exact ReadOnly.pure _

/-- The recorded tests of a directory come in path order. -/
theorem collectInputs_pairwise {s : BatchSettings} {dir : String} {j : Journal}
    {fs : List String} (h : (collectInputs s dir : StateM Journal _).run' j = .ok fs) :
    fs.Pairwise fun a b => pathLt b a = false := by
  change ((collectInputs s dir : StateM Journal _).run j).1 = _ at h
  unfold collectInputs at h
  dsimp only at h
  split at h
  · split at h
    · cases h
    · rw [ReadOnly.run_bind_of] at h
      cases h
      exact sortPaths_pairwise _
  · rw [ReadOnly.run_bind (readOnly_glob _)] at h
    split at h
    · cases h
    · rw [ReadOnly.run_bind_of] at h
      cases h
      exact sortPaths_pairwise _

/-! ## Writing -/

/-- Writing text either takes effect, and is recorded, or leaves the journal as it was. -/
theorem run_writeText (p text : String) (j : Journal) :
    (writeText p text : StateM Journal _).run j = (match j.tree.write p text.toUTF8 with
      | .ok t => (.ok (), j.record p text.toUTF8 t)
      | .error f => (.error f, j) : Except Fault Unit × Journal) := by
  show (match j.tree.write p text.toUTF8 with
      | .ok t => (set (j.record p text.toUTF8 t) >>= fun _ => pure (Except.ok ()) : StateM Journal _)
      | .error f => pure (Except.error f)).run j = _
  split <;> rfl

/-! ## Reports -/

/-- The report of a run whose files, in order, had the results `rs`: the outputs written,
and the files that failed with their errors in one line. -/
def reportOf (files : List String) (rs : List (Except Failure String)) : BatchReport where
  converted := rs.filterMap Except.toOption
  failed := (files.zip rs).filterMap fun (f, r) => match r with
    | .ok _ => none
    | .error e => some (f, e.oneLine)

/-- Reports are put one after the other field by field. -/
instance : Append BatchReport := ⟨fun a b => ⟨a.converted ++ b.converted, a.failed ++ b.failed⟩⟩

attribute [ext] BatchReport

@[simp] theorem BatchReport.converted_append (a b : BatchReport) :
    (a ++ b).converted = a.converted ++ b.converted := rfl

@[simp] theorem BatchReport.failed_append (a b : BatchReport) :
    (a ++ b).failed = a.failed ++ b.failed := rfl

@[simp] theorem BatchReport.append_empty (a : BatchReport) : a ++ {} = a :=
  BatchReport.ext (List.append_nil _) (List.append_nil _)

theorem BatchReport.append_assoc (a b c : BatchReport) : a ++ b ++ c = a ++ (b ++ c) :=
  BatchReport.ext (List.append_assoc _ _ _) (List.append_assoc _ _ _)

@[simp] theorem reportOf_nil : reportOf [] [] = {} := rfl

theorem reportOf_cons (f : String) (fs : List String) (r : Except Failure String)
    (rs : List (Except Failure String)) :
    reportOf (f :: fs) (r :: rs) = reportOf [f] [r] ++ reportOf fs rs := by
  cases r <;> rfl

/-- A report lists each file once: its output, or the file with its error. -/
theorem reportOf_length : ∀ {fs : List String} {rs : List (Except Failure String)},
    rs.length = fs.length →
    (reportOf fs rs).converted.length + (reportOf fs rs).failed.length = fs.length
  | [], [], _ => rfl
  | f :: fs, r :: rs, h => by
    have ih := @reportOf_length fs rs (Nat.succ.inj h)
    have hf : (reportOf [f] [r]).converted.length + (reportOf [f] [r]).failed.length = 1 := by
      cases r <;> rfl
    rw [reportOf_cons]
    simp only [BatchReport.converted_append, BatchReport.failed_append, List.length_append,
      List.length_cons]
    omega

/-! ## One file -/

section Conversion

variable (config : Config) (stamp : Stamp) (s : BatchSettings) (dir : String)

/-- Converting `f` from the journal `j` goes through every stage, giving the output `out`
and the journal `j'`: the file reads as text, the text converts (with the template as `j`
has it), the output path resolves to `out`, and the tree takes the converted text there;
`j'` records that one write. -/
def Writes (f out : String) (j j' : Journal) : Prop :=
  ∃ html php t, (readText f : StateM Journal _).run' j = .ok html ∧
    convertDocument config stamp (fun _ => (templateText config.template : StateM Journal _).run' j)
      html none = .ok php ∧
    (outputPath s f dir : StateM Journal _).run' j = .ok out ∧
    j.tree.write out php.toUTF8 = .ok t ∧ j' = j.record out php.toUTF8 t

/-- How converting one file may go: it fails, leaving the journal as it was, exactly when
no sequence of its stages goes through; otherwise it writes, as `Writes` says. -/
inductive FileRun (f : String) : Journal → Except Failure String → Journal → Prop
  | failed {j e} : (¬ ∃ out j', Writes config stamp s dir f out j j') → FileRun f j (.error e) j
  | written {j out j'} : Writes config stamp s dir f out j j' → FileRun f j (.ok out) j'

/-- Files converted one after another, each from the journal the previous one left. -/
inductive DirRun : List String → Journal → List (Except Failure String) → Journal → Prop
  | nil {j} : DirRun [] j [] j
  | cons {f fs j r j₁ rs j₂} : FileRun config stamp s dir f j r j₁ → DirRun fs j₁ rs j₂ →
      DirRun (f :: fs) j (r :: rs) j₂

/-- Converting one file does what `FileRun` allows. -/
theorem fileRun_convertFile (f : String) (j : Journal) :
    FileRun config stamp s dir f j ((convertFile config stamp s f none dir : StateM Journal _).run j).1.2
      ((convertFile config stamp s f none dir : StateM Journal _).run j).2 := by
  unfold convertFile
  rw [ReadOnly.run_bind (readOnly_readText f)]
  -- the stages in turn: reading, converting, naming the output, writing
  cases hr : (readText f : StateM Journal _).run' j with
  | error e =>
    refine .failed ?_
    rintro ⟨out, j', html, php, t, h, -⟩
    rw [hr] at h
    cases h
  | ok html =>
    dsimp only
    rw [ReadOnly.run_bind (readOnly_templateText _)]
    cases hc : convertDocument config stamp
        (fun _ => (templateText config.template : StateM Journal _).run' j) html none with
    | error e =>
      refine .failed ?_
      rintro ⟨out, j', html', php, t, h, h', -⟩
      rw [hr] at h
      cases h
      rw [hc] at h'
      cases h'
    | ok php =>
      dsimp only
      rw [ReadOnly.run_bind (readOnly_outputPath s f dir)]
      cases ho : (outputPath s f dir : StateM Journal _).run' j with
      | error e =>
        refine .failed ?_
        rintro ⟨out, j', html', php', t, -, -, h, -⟩
        rw [ho] at h
        cases h
      | ok out =>
        dsimp only
        rw [ReadOnly.run_bind_of, run_writeText]
        cases hw : j.tree.write out php.toUTF8 with
        | error e =>
          refine .failed ?_
          rintro ⟨out', j', html', php', t, h, h', h'', hw', -⟩
          rw [hr] at h
          cases h
          rw [hc] at h'
          cases h'
          rw [ho] at h''
          cases h''
          rw [hw] at hw'
          cases hw'
        | ok t => exact .written ⟨html, php, t, hr, hc, ho, hw, rfl⟩

/-! ## A directory -/

/-- One step of a directory run: the file's result goes to the end of the report. -/
theorem convertNext_run (acc : List Note × BatchReport) (f : String) (j : Journal) :
    ∃ r more, FileRun config stamp s dir f j r
        ((convertNext config stamp s dir acc f : StateM Journal _).run j).2 ∧
      ((convertNext config stamp s dir acc f : StateM Journal _).run j).1 =
        (acc.1 ++ more, acc.2 ++ reportOf [f] [r]) := by
  obtain ⟨notes, report⟩ := acc
  have hrun := fileRun_convertFile config stamp s dir f j
  unfold convertNext
  dsimp only
  rw [ReadOnly.run_bind_of]
  generalize (convertFile config stamp s f none dir : StateM Journal _).run j = c at hrun ⊢
  obtain ⟨⟨more, r⟩, j'⟩ := c
  cases r with
  | ok out =>
    refine ⟨.ok out, more, hrun, ?_⟩
    show (notes ++ more, ({ report with converted := report.converted ++ [out] } : BatchReport)) = _
    simp [BatchReport.ext_iff, reportOf, Except.toOption]
  | error e =>
    refine ⟨.error e, more ++ [⟨.error, .batch, f ++ ": " ++ e.oneLine⟩], hrun, ?_⟩
    show (notes ++ more ++ [⟨.error, .batch, f ++ ": " ++ e.oneLine⟩],
      ({ report with failed := report.failed ++ [(f, e.oneLine)] } : BatchReport)) = _
    simp [BatchReport.ext_iff, reportOf, Except.toOption]

/-- The fold over the files: a `DirRun`, whose results are appended to the report so far. -/
theorem foldlM_convertNext_run : ∀ (files : List String) (acc : List Note × BatchReport)
    (j : Journal),
    ∃ rs more, DirRun config stamp s dir files j rs
        ((files.foldlM (convertNext config stamp s dir) acc : StateM Journal _).run j).2 ∧
      ((files.foldlM (convertNext config stamp s dir) acc : StateM Journal _).run j).1 =
        (acc.1 ++ more, acc.2 ++ reportOf files rs)
  | [], acc, _ => by
    refine ⟨[], [], .nil, ?_⟩
    show acc = _
    simp
  | f :: fs, acc, j => by
    obtain ⟨r, more, hr, hacc⟩ := convertNext_run config stamp s dir acc f j
    rw [List.foldlM_cons, ReadOnly.run_bind_of, hacc]
    obtain ⟨rs, more', hrs, hres⟩ := foldlM_convertNext_run fs _ _
    refine ⟨r :: rs, more ++ more', .cons hr hrs, ?_⟩
    rw [hres, reportOf_cons f fs, List.append_assoc, BatchReport.append_assoc]

/-- A directory with recorded tests is converted by a `DirRun` over them, reported by
`reportOf`. -/
theorem convertDirectory_run {j : Journal} {fs : List String}
    (hfs : (collectInputs s dir : StateM Journal _).run' j = .ok fs) (hne : fs ≠ []) :
    ∃ rs notes, DirRun config stamp s dir fs j rs
        ((convertDirectory config stamp s dir : StateM Journal _).run j).2 ∧
      ((convertDirectory config stamp s dir : StateM Journal _).run j).1 =
        (notes, .ok (reportOf fs rs)) := by
  obtain ⟨rs, more, hrun, hres⟩ := foldlM_convertNext_run config stamp s dir fs ([], {}) j
  unfold convertDirectory
  rw [ReadOnly.run_bind (readOnly_collectInputs s dir), hfs]
  obtain _ | ⟨f, fs'⟩ := fs
  · exact absurd rfl hne
  · dsimp only
    rw [ReadOnly.run_bind_of]
    refine ⟨rs, more, hrun, ?_⟩
    rw [hres]
    rfl

theorem DirRun.length {fs : List String} {j : Journal} {rs : List (Except Failure String)}
    {j' : Journal} (h : DirRun config stamp s dir fs j rs j') : rs.length = fs.length := by
  induction h with
  | nil => rfl
  | cons _ _ ih => exact congrArg Nat.succ ih

/-- The writes of a run, after those already in the journal, go to the outputs of the
files converted, in order: one per converted file and none for a failed one. -/
theorem DirRun.writes {fs : List String} {j : Journal} {rs : List (Except Failure String)}
    {j' : Journal} (h : DirRun config stamp s dir fs j rs j') :
    ∃ ws, j'.writes = j.writes ++ ws ∧ ws.map Prod.fst = rs.filterMap Except.toOption := by
  induction h with
  | nil => exact ⟨[], by simp, rfl⟩
  | cons hf _ ih =>
    obtain ⟨ws, hws, hmap⟩ := ih
    cases hf with
    | failed _ => exact ⟨ws, hws, hmap⟩
    | written hw =>
      obtain ⟨html, php, t, -, -, -, -, rfl⟩ := hw
      exact ⟨(_, php.toUTF8) :: ws, by simp [hws, Journal.record], congrArg (_ :: ·) hmap⟩

/-- A run of the command line on a directory ends with status `1` exactly when the
conversion failed or some file did. -/
theorem exitCode_of_directory {args : List String} {inv : Cli.Invocation} {config : Config}
    {j : Journal} (logSpec : Option String) (stamp : Stamp) (hargs : Cli.readArgs args = .run inv)
    (hcfg : (Cli.loadConfig inv : StateM Journal _).run' j = .ok config)
    (hdir : (isDir inv.input : StateM Journal _).run' j = true) (hout : inv.output = none) :
    ((Cli.run args logSpec stamp : StateM Journal _).run' j).exitCode =
      match ((convertDirectory config stamp inv.batch inv.input : StateM Journal _).run' j).2 with
      | .ok report => if report.failed = [] then 0 else 1
      | .error _ => 1 := by
  show ((Cli.run args logSpec stamp : StateM Journal _).run j).1.exitCode =
    match ((convertDirectory config stamp inv.batch inv.input : StateM Journal _).run j).1.2 with
    | .ok report => if report.failed = [] then 0 else 1
    | .error _ => 1
  unfold Cli.run
  rw [hargs]
  generalize Cli.LogFilter.read (logSpec.getD "warn") = lf
  obtain ⟨filter, warnings⟩ := lf
  dsimp only
  rw [ReadOnly.run_bind (readOnly_loadConfig inv), hcfg]
  dsimp only
  rw [ReadOnly.run_bind (readOnly_isDir _), hdir, hout]
  simp only [↓reduceIte, Option.isSome_none, Bool.false_eq_true]
  rw [ReadOnly.run_bind_of]
  generalize (convertDirectory config stamp inv.batch inv.input : StateM Journal _).run j = r
  obtain ⟨⟨notes, result⟩, j'⟩ := r
  cases result with
  | error f => rfl
  | ok report =>
    dsimp only
    by_cases h : report.failed = []
    · have hs : report.success = true := by simp [BatchReport.success, h]
      rw [if_pos hs, if_pos h]
      rfl
    · have hs : report.success = false := by simp [BatchReport.success, h]
      rw [hs, if_neg Bool.false_ne_true, if_neg h]
      rfl

/-- What converting the directory `dir` does with the recorded tests `fs` collected from the
journal `j`: they come in path order; each is converted once, in that order, from the
journal the one before left, and a failure leaves the journal as it was (`DirRun`); the
report lists every file once, its output or its error; the writes added to the journal go
to exactly the outputs reported as converted; and the command line, run on the directory
with these settings, ends with status `1` exactly when some file failed. -/
def RunsInIsolation (j : Journal) (fs : List String) : Prop :=
  fs.Pairwise (fun a b => pathLt b a = false) ∧
  ∃ rs j' notes,
    (convertDirectory config stamp s dir : StateM Journal _).run j =
      ((notes, .ok (reportOf fs rs)), j') ∧
    DirRun config stamp s dir fs j rs j' ∧
    (reportOf fs rs).converted.length + (reportOf fs rs).failed.length = fs.length ∧
    (∃ ws, j'.writes = j.writes ++ ws ∧ ws.map Prod.fst = (reportOf fs rs).converted) ∧
    ∀ (args : List String) (inv : Cli.Invocation) (logSpec : Option String),
      Cli.readArgs args = .run inv → inv.batch = s → inv.input = dir → inv.output = none →
      (Cli.loadConfig inv : StateM Journal _).run' j = .ok config →
      (isDir dir : StateM Journal _).run' j = true →
      ((Cli.run args logSpec stamp : StateM Journal _).run' j).exitCode =
        if (reportOf fs rs).failed = [] then 0 else 1

end Conversion

/-- An evaluated result: what closes `x = .ok a` when `decide` can compare options only. -/
theorem eq_ok_of_toOption_eq_some {ε α : Type} {x : Except ε α} {a : α} (h : x.toOption = some a) :
    x = .ok a := by
  cases x with
  | error _ => cases h
  | ok _ => cases h; rfl

/-- A directory `in` holding one recorded test. -/
def oneTestJournal : Journal :=
  ⟨⟨[(["in"], .dir), (["in", "a.html"], .file (ByteArray.mk #[120]))]⟩, []⟩

/-- A moment at which a run may be stamped. -/
def sampleStamp : Stamp := ⟨2024, 2, 29, 12, 30, 0⟩

end Transcribe
