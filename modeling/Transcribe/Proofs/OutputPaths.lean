import Transcribe.Proofs.BatchRun
/-!
# `Proofs.OutputPaths` — where a directory run writes

Every input of a directory run is written to one output path: the destination directory
when one is set (as given if it is a directory, else below the directory converted),
next to the input otherwise, joined with the output name `<prefix><stem><postfix>.php`,
where the stem is the input's file name less one `.html` (`run'_outputPath`).

## What is proved

For a prefix and a postfix without `/`, two inputs get the same output path exactly when
their stems are equal and, unless a destination is set, their parent directories are
equal too (`outputPath_eq_iff`). So without a destination two inputs collide only when
they sit in one directory under one stem; with a destination, all inputs of one stem
collide wherever they sit. A recursive run with a destination therefore writes two
same-named files of different subdirectories to one output
(`same_stem_inputs_share_output`): the later write replaces the earlier one while both are
reported as converted.

## How

An output name holds no `/`, since a file name holds none. Joining such a name to a
directory writes the directory, one separator and the name, and among the directories
that can occur (the destination, fixed for the run, or a parent, which ends with a
separator only when it is the root) the text determines both parts
(`Files.join_eq_join_iff`, `Files.join_parentDir_eq_iff`).
-/

namespace Transcribe

open Transcribe.Files

/-- An input's file name without one final `.html`. -/
def inputStem (f : String) : String := stripHtml ((fileName? f).getD "")

/-- The file name of an input's output. -/
def outputName (s : BatchSettings) (f : String) : String :=
  s.phpPrefix ++ inputStem f ++ s.phpPostfix ++ ".php"

theorem run_kind? (p : String) (t : Tree) :
    (FileSystem.kind? p : StateM Tree _).run t = pure (t.kind? p, t) := rfl

/-- The directory that `outputPath` finds for `f` in a tree. -/
def outputDir (t : Tree) (s : BatchSettings) (f dir : String) : Except Failure String :=
  match s.dest with
  | none => .ok (parentDir f)
  | some d =>
    if t.kind? d = some .dir then .ok d
    else if t.kind? (join dir d) = some .dir then .ok (join dir d)
    else .error ⟨"Directory \"" ++ join dir d ++ "\" not found", []⟩

/-- Where the output of `f` goes, computed in a tree: its directory joined with the output
name. -/
theorem run'_outputPath (s : BatchSettings) (f dir : String) (t : Tree) :
    (outputPath s f dir : StateM Tree _).run' t = (outputDir t s f dir).map (join · (outputName s f)) := by
  unfold outputPath outputDir
  cases s.dest with
  | none => rfl
  | some d =>
    -- each lookup answers from the tree; what is left is the name joined to the directory
    by_cases h₁ : t.kind? d = some .dir
    · simp [h₁, isDir, run_kind?]
      rfl
    · by_cases h₂ : t.kind? (join dir d) = some .dir
      · simp [h₁, h₂, isDir, run_kind?]
        rfl
      · simp [h₁, h₂, isDir, run_kind?]
        rfl

/-- With a destination, the directory does not depend on the input. -/
theorem outputDir_of_dest {t : Tree} {s : BatchSettings} {d : String} (hd : s.dest = some d)
    (f₁ f₂ dir : String) : outputDir t s f₁ dir = outputDir t s f₂ dir := by
  simp only [outputDir, hd]

theorem slash_not_mem_stripHtml {name : String} (h : '/' ∉ name.toList) :
    '/' ∉ (stripHtml name).toList := by
  unfold stripHtml
  split
  · rw [String.toList_ofList]
    exact fun hm => h (List.mem_of_mem_take hm)
  · exact h

theorem slash_not_mem_inputStem (f : String) : '/' ∉ (inputStem f).toList := by
  unfold inputStem
  apply slash_not_mem_stripHtml
  cases hn : fileName? f with
  | none => simp
  | some n => exact slash_not_mem_of_fileName? hn

theorem slash_not_mem_outputName {s : BatchSettings} (hp : '/' ∉ s.phpPrefix.toList)
    (hq : '/' ∉ s.phpPostfix.toList) (f : String) : '/' ∉ (outputName s f).toList := by
  simp only [outputName, String.toList_append, List.mem_append, not_or]
  exact ⟨⟨⟨hp, slash_not_mem_inputStem f⟩, hq⟩, by decide⟩

theorem outputName_eq_iff (s : BatchSettings) (f₁ f₂ : String) :
    outputName s f₁ = outputName s f₂ ↔ inputStem f₁ = inputStem f₂ := by
  constructor
  · intro h
    have h' := congrArg String.toList h
    simp only [outputName, String.toList_append, List.append_assoc, List.append_cancel_left_eq,
      List.append_cancel_right_eq] at h'
    exact String.toList_inj.1 h'
  · intro h
    rw [outputName, outputName, h]

theorem outputPath_eq_iff {t : Tree} {s : BatchSettings} {dir f₁ f₂ out₁ out₂ : String}
    (hp : '/' ∉ s.phpPrefix.toList) (hq : '/' ∉ s.phpPostfix.toList)
    (h₁ : (outputPath s f₁ dir : StateM Tree _).run' t = .ok out₁)
    (h₂ : (outputPath s f₂ dir : StateM Tree _).run' t = .ok out₂) :
    out₁ = out₂ ↔ inputStem f₁ = inputStem f₂ ∧ (s.dest.isSome ∨ parentDir f₁ = parentDir f₂) := by
  have hn₁ := slash_not_mem_outputName hp hq f₁
  have hn₂ := slash_not_mem_outputName hp hq f₂
  rw [run'_outputPath] at h₁ h₂
  cases hd : s.dest with
  | none =>
    -- next to the inputs: the parents and the names must both agree
    simp only [outputDir, hd] at h₁ h₂
    cases h₁
    cases h₂
    rw [join_parentDir_eq_iff hn₁ hn₂, outputName_eq_iff]
    simp [and_comm]
  | some d =>
    -- one destination for every input: only the names can differ
    rw [outputDir_of_dest hd f₁ f₂] at h₁
    generalize outputDir t s f₂ dir = D at h₁ h₂
    cases D with
    | error e => cases h₁
    | ok D =>
      cases h₁
      cases h₂
      rw [join_eq_join_iff hn₁ hn₂, outputName_eq_iff]
      simp

/-- A directory `in` with the subdirectories `a` and `b`, each holding a test `x.html`, and
an empty directory `out`. -/
def twoSubdirectoryTree : Tree :=
  ⟨[(["in"], .dir), (["in", "a"], .dir), (["in", "a", "x.html"], .file (ByteArray.mk #[120])),
    (["in", "b"], .dir), (["in", "b", "x.html"], .file (ByteArray.mk #[120])), (["in", "out"], .dir)]⟩

theorem outputs_apart_without_destination :
    '/' ∉ ({} : BatchSettings).phpPrefix.toList ∧ '/' ∉ ({} : BatchSettings).phpPostfix.toList ∧
      (outputPath {} "in/a/x.html" "in" : StateM Tree _).run' twoSubdirectoryTree = .ok "in/a/xTest.php" ∧
      (outputPath {} "in/b/x.html" "in" : StateM Tree _).run' twoSubdirectoryTree = .ok "in/b/xTest.php" ∧
      ("in/a/xTest.php" = "in/b/xTest.php" ↔ inputStem "in/a/x.html" = inputStem "in/b/x.html" ∧
        (({} : BatchSettings).dest.isSome ∨ parentDir "in/a/x.html" = parentDir "in/b/x.html")) := by
  have hp : '/' ∉ ({} : BatchSettings).phpPrefix.toList := by decide
  have hq : '/' ∉ ({} : BatchSettings).phpPostfix.toList := by decide
  have h₁ : (outputPath {} "in/a/x.html" "in" : StateM Tree _).run' twoSubdirectoryTree =
      .ok "in/a/xTest.php" := by
    rw [run'_outputPath]
    exact eq_ok_of_toOption_eq_some (by decide +kernel)
  have h₂ : (outputPath {} "in/b/x.html" "in" : StateM Tree _).run' twoSubdirectoryTree =
      .ok "in/b/xTest.php" := by
    rw [run'_outputPath]
    exact eq_ok_of_toOption_eq_some (by decide +kernel)
  exact ⟨hp, hq, h₁, h₂, outputPath_eq_iff hp hq h₁ h₂⟩

/-- A recursive collection: every file below the directory whose name matches the pattern,
sorted. -/
theorem run'_collectInputs_of_recursive {s : BatchSettings} {pat : Pattern} (dir : String)
    (t : Tree) (hr : s.recursive = true) (hp : Pattern.read s.htmlPattern = .ok pat) :
    (collectInputs s dir : StateM Tree _).run' t =
      .ok (sortPaths ((Id.run ((walkFiles dir : StateM Tree _).run' t)).filter
        fun f => pat.matches ((fileName? f).getD ""))) := by
  unfold collectInputs
  simp [hr, hp]
  rfl

/-- Recursive settings that write into the directory `out`. -/
def destinationSettings : BatchSettings := { dest := some "out", recursive := true }

theorem same_stem_inputs_share_output :
    ∃ fs, (collectInputs destinationSettings "in" : StateM Tree _).run' twoSubdirectoryTree = .ok fs ∧
      "in/a/x.html" ∈ fs ∧ "in/b/x.html" ∈ fs ∧
      (outputPath destinationSettings "in/a/x.html" "in" : StateM Tree _).run' twoSubdirectoryTree =
        .ok "in/out/xTest.php" ∧
      (outputPath destinationSettings "in/b/x.html" "in" : StateM Tree _).run' twoSubdirectoryTree =
        .ok "in/out/xTest.php" := by
  refine ⟨_, run'_collectInputs_of_recursive "in" twoSubdirectoryTree rfl rfl, ?_, ?_, ?_, ?_⟩
  · rw [sortPaths, List.mem_mergeSort]
    decide +kernel
  · rw [sortPaths, List.mem_mergeSort]
    decide +kernel
  · rw [run'_outputPath]
    exact eq_ok_of_toOption_eq_some (by decide +kernel)
  · rw [run'_outputPath]
    exact eq_ok_of_toOption_eq_some (by decide +kernel)

end Transcribe
