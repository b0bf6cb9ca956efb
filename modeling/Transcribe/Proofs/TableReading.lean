import Transcribe.Proofs.ElementWalk
import Transcribe.Script.Document
/-!
# `Proofs.TableReading` — reading back a written table

A recorder writes a test as a table with one row per step, and may write it in many
ways: the end tags `</td>` and `</tr>` written or left out, an empty cell as
`<td></td>` or `<td/>`, blanks between any two tags, extra cells after the third,
rows of fewer than three cells (the header row) among the steps, and any text around
the table. `read_writtenTable` proves that `Script.read` undoes every such writing:
it succeeds, and its steps are those of the rows of three cells or more, in order,
each named by its first cell trimmed and with the arguments of the next two cells as
`decodeCellText` gives them, a cell without its end tag read without its closing
blanks.

## What a written table must respect

* no `<table`, in any case, stands before it (`HasTagStart`);
* what stands between two tags is blank;
* a cell holds no markup but tags that begin `<b`, such as the line breaks `<br>`,
  `<br/>` and `<br />` (`OnlyBTags`);
* a row of three cells or more has a first cell that is not blank.

## How

The table is found by its opening tag and its first closing tag, the rows by the
element walk over the table's body, and each row's cells by the walk again
(`Proofs.ElementWalk`). What is left is to show that the texts between the tags of
one level are silent for the scanners of the level above: cell texts because every
`<` in them is followed by `b`, cell tags because `td` is neither `tr`, nor a row
stop, nor `table`.
-/

namespace Transcribe

open Transcribe.Text Transcribe.Markup

/-! ## Cell texts -/

/-- Every `<` of the text is followed by `b` or `B`: the only markup the text may hold
begins `<b`, as the line break tags `<br>`, `<br/>` and `<br />` in any case do. -/
def OnlyBTags : List Char → Prop
  | [] => True
  | c :: cs => (c = '<' → cs.head? = some 'b' ∨ cs.head? = some 'B') ∧ OnlyBTags cs

instance : DecidablePred OnlyBTags := fun cs => by
  induction cs with
  | nil => exact isTrue trivial
  | cons c cs ih => unfold OnlyBTags; exact instDecidableAnd

section
variable {α : Type} {m : List Char → Option α}

/-- A matcher that fails at `<b` and `<B` fails everywhere in a text of `b` tags. -/
theorem OnlyBTags.silent (hm : Guarded m) (hb : ∀ ys, m ('<' :: 'b' :: ys) = none)
    (hB : ∀ ys, m ('<' :: 'B' :: ys) = none) : ∀ {cs : List Char}, OnlyBTags cs → Silent m cs
  | [], _ => trivial
  | c :: cs, ⟨hc, hcs⟩ => by
    refine ⟨fun ys => ?_, OnlyBTags.silent hm hb hB hcs⟩
    by_cases hlt : c = '<'
    · subst hlt
      rcases hc rfl with h | h
      · obtain ⟨cs', rfl⟩ := List.head?_eq_some_iff.1 h
        exact hb _
      · obtain ⟨cs', rfl⟩ := List.head?_eq_some_iff.1 h
        exact hB _
    · exact hm c _ hlt

end

theorem OnlyBTags.of_append_blank : ∀ {xs ys : List Char}, OnlyBTags (xs ++ ys) → Blank ys →
    OnlyBTags xs
  | [], _, _, _ => trivial
  | c :: xs, ys, ⟨hc, hxs⟩, hys => by
    refine ⟨fun hlt => ?_, OnlyBTags.of_append_blank hxs hys⟩
    cases xs with
    | cons d xs => simpa using hc hlt
    | nil =>
      -- the `<` would be followed by a blank, or by nothing
      exfalso
      cases ys with
      | nil => simpa using hc hlt
      | cons d ys =>
        have hd : isBlank d = true := hys d (by simp)
        have hbd : d = 'b' ∨ d = 'B' := by simpa using hc hlt
        rcases hbd with rfl | rfl <;> revert hd <;> decide

theorem OnlyBTags.trimEnd {cs : List Char} (h : OnlyBTags cs) : OnlyBTags (trimEnd cs) := by
  have hsplit := List.rdropWhile_append_rtakeWhile (p := isBlank) (l := cs)
  rw [← trimEnd_eq_rdropWhile] at hsplit
  rw [← hsplit] at h
  exact h.of_append_blank fun c hc => List.mem_rtakeWhile_imp hc

theorem OnlyBTags.trimmed {w : Written} (h : OnlyBTags w.text) : OnlyBTags w.trimmed.text := by
  cases w with
  | unclosed x => exact OnlyBTags.trimEnd h
  | closed x | selfClosed => exact h

/-! ## The text before the table -/

/-- The text holds `<` followed by the word `w` in any case. -/
def HasTagStart (w : List Char) : List Char → Prop
  | [] => False
  | c :: cs => (c = '<' ∧ (stripCaseless w cs).isSome = true) ∨ HasTagStart w cs

instance (w : List Char) : DecidablePred (HasTagStart w) := fun cs => by
  induction cs with
  | nil => exact isFalse id
  | cons c cs ih => unfold HasTagStart; exact instDecidableOr

/-- A word that `c` cannot start a match of... -/
theorem stripCaseless_append_cons_of_eq_none {c : Char} (ys : List Char) :
    ∀ {w cs : List Char}, (∀ p ∈ w, matchesCaseless p c = false) → stripCaseless w cs = none →
      stripCaseless w (cs ++ c :: ys) = none
  | [], _, _, h => by simp [stripCaseless] at h
  | p :: w, [], hc, _ => by simp [stripCaseless, hc p (by simp)]
  | p :: w, d :: cs, hc, h => by
    simp only [stripCaseless] at h
    simp only [List.cons_append, stripCaseless]
    split
    · rename_i hpd
      rw [if_pos hpd] at h
      exact stripCaseless_append_cons_of_eq_none ys (fun q hq => hc q (by simp [hq])) h
    · rfl

/-- Text with no `<name` in it, in any case, holds no opening tag of `name` before a `<`. -/
theorem findOpenTag?_append_of_not_hasTagStart {name : List Char}
    (hname : ∀ p ∈ name, matchesCaseless p '<' = false) (ys : List Char) :
    ∀ {before : List Char}, ¬ HasTagStart name before →
      findOpenTag? name (before ++ '<' :: ys) = findOpenTag? name ('<' :: ys)
  | [], _ => rfl
  | c :: cs, h => by
    simp only [HasTagStart, not_or, not_and] at h
    have hc : openTagAt? name (c :: (cs ++ '<' :: ys)) = none := by
      by_cases hlt : c = '<'
      · subst hlt
        have hnone : stripCaseless name cs = none := by simpa using h.1 rfl
        simp [openTagAt?, tagHead?, stripCaseless_append_cons_of_eq_none ys hname hnone]
      · exact guarded_openTagAt? name c _ hlt
    rw [List.cons_append, findOpenTag?, firstMatch, hc]
    exact findOpenTag?_append_of_not_hasTagStart hname ys h.2

/-! ## Written tables -/

/-- A row as a recorder may write it. -/
structure WrittenRow where
  /-- The cells, each after its own blanks. -/
  cells : List (List Char × Written)
  /-- The blanks after the last cell. -/
  trailing : List Char
  /-- Whether `</tr>` is written. -/
  closed : Bool
  deriving DecidableEq, Repr

/-- The row as an element `tr`. -/
def WrittenRow.element (r : WrittenRow) : Written :=
  if r.closed then .closed (renderElements "td".toList r.cells ++ r.trailing)
  else .unclosed (renderElements "td".toList r.cells ++ r.trailing)

/-- A table as a recorder may write it, with the text around it. -/
structure WrittenTable where
  /-- The text before `<table>`. -/
  before : List Char
  /-- The rows, each after its own blanks. -/
  rows : List (List Char × WrittenRow)
  /-- The blanks before `</table>`. -/
  trailing : List Char
  /-- The text after `</table>`. -/
  after : List Char
  deriving DecidableEq, Repr

/-- What is written between `<table>` and `</table>`. -/
def WrittenTable.body (t : WrittenTable) : List Char :=
  renderElements "tr".toList (t.rows.map fun p => (p.1, p.2.element)) ++ t.trailing

/-- The whole document. -/
def WrittenTable.render (t : WrittenTable) : List Char :=
  t.before ++ "<table>".toList ++ t.body ++ "</table>".toList ++ t.after

/-- A row fits when what stands between its tags is blank, its cells hold no markup but
`b` tags, and a row of three cells or more has a name that is not blank. -/
structure WrittenRow.Fits (r : WrittenRow) : Prop where
  blanks : ∀ q ∈ r.cells, Blank q.1
  trailing : Blank r.trailing
  texts : ∀ q ∈ r.cells, OnlyBTags q.2.text
  named : ∀ ws n rest, r.cells = (ws, n) :: rest → 2 ≤ rest.length → trim n.text ≠ []

/-- A table fits when no `<table` stands before it, what stands between its tags is blank,
and every row fits. -/
structure WrittenTable.Fits (t : WrittenTable) : Prop where
  before : ¬ HasTagStart "table".toList t.before
  trailing : Blank t.trailing
  rows : ∀ p ∈ t.rows, Blank p.1 ∧ p.2.Fits

/-- A cell's argument: absent when its decoded text is empty. -/
def argumentOf (x : List Char) : Option String :=
  if decodeCellText (String.ofList x) = "" then none else some (decodeCellText (String.ofList x))

/-- The step a written row stands for: for a row of three cells or more, its first cell's
text trimmed, and the arguments of the next two cells as a reader sees them. -/
def WrittenRow.step? (r : WrittenRow) : Option Command :=
  match r.cells with
  | (_, n) :: (_, t) :: (_, v) :: _ =>
    some ⟨String.ofList (trim n.text), argumentOf t.content, argumentOf v.content⟩
  | _ => none

/-! ## Reading a written table -/

theorem cellArgument_eq_argumentOf (x : List Char) : cellArgument x = argumentOf x := by
  unfold cellArgument argumentOf
  split <;> simp_all

namespace WrittenRow

variable {r : WrittenRow}

theorem Fits.readable (hr : r.Fits) : Readable "td".toList cellStops r.cells := fun q hq =>
  ⟨hr.blanks q hq, (hr.texts q hq).silent (guarded_openTagAt? _) (fun _ => rfl) (fun _ => rfl),
    (hr.texts q hq).silent (guarded_stopAt? _) (fun _ => rfl) (fun _ => rfl)⟩

theorem Fits.readable_trimmed (hr : r.Fits) :
    Readable "td".toList cellStops (r.cells.map fun q => (q.1, q.2.trimmed)) := by
  intro p hp
  obtain ⟨q, hq, rfl⟩ := List.mem_map.1 hp
  have htext := (hr.texts q hq).trimmed
  exact ⟨hr.blanks q hq, htext.silent (guarded_openTagAt? _) (fun _ => rfl) (fun _ => rfl),
    htext.silent (guarded_stopAt? _) (fun _ => rfl) (fun _ => rfl)⟩

/-- A cell's stop is its own end tag, or the next cell. -/
theorem cell_endTag (ys : List Char) :
    stopAt? cellStops ('<' :: '/' :: ("td".toList ++ '>' :: ys)) = some (.endTag ('>' :: ys)) :=
  rfl

theorem cell_sibling (w : Written) (ys : List Char) :
    stopAt? cellStops (w.render "td".toList ++ ys) = some (.sibling (w.render "td".toList ++ ys)) := by
  cases w <;> rfl

/-- The reader finds the cells of a row as written, with or without the row's end tag. -/
theorem elements_cells (hr : r.Fits) :
    elements "td".toList cellStops r.element.content = r.cells.map fun q => q.2.content := by
  unfold element
  cases r.closed with
  | true =>
    exact elements_renderElements cell_endTag cell_sibling hr.trailing hr.readable
  | false =>
    exact elements_trimEnd_renderElements cell_endTag cell_sibling hr.trailing hr.readable
      hr.readable_trimmed

theorem stepOfCells_cells (hr : r.Fits) :
    stepOfCells (r.cells.map fun q => q.2.content) = r.step? := by
  unfold step?
  rcases hc : r.cells with _ | ⟨⟨ws, n⟩, _ | ⟨⟨_, t⟩, _ | ⟨⟨_, v⟩, rest⟩⟩⟩
  · rfl
  · rfl
  · rfl
  · -- a row of three cells or more: its name is not blank, read with or without `</td>`
    have hne : trim n.text ≠ [] := hr.named ws n _ hc (by simp)
    have hname : trim n.content = trim n.text := by
      cases n <;> simp [Written.content, Written.text, trim_trimEnd]
    obtain ⟨c, cs, hcs⟩ := List.exists_cons_of_ne_nil hne
    simp only [List.map_cons, stepOfCells, hname, hcs]
    simp [cellArgument_eq_argumentOf]

/-- The text of a fitting row is silent for a matcher that fails at the cell tags and
at `b` tags. -/
theorem Fits.silent {α : Type} {m : List Char → Option α} (hr : r.Fits) (hm : Guarded m)
    (htd : ∀ ys, m ('<' :: ("td".toList ++ ys)) = none)
    (hetd : ∀ ys, m ('<' :: '/' :: ("td".toList ++ ys)) = none)
    (hb : ∀ ys, m ('<' :: 'b' :: ys) = none) (hB : ∀ ys, m ('<' :: 'B' :: ys) = none) :
    Silent m r.element.text := by
  have htext : r.element.text = renderElements "td".toList r.cells ++ r.trailing := by
    unfold element
    split <;> rfl
  rw [htext]
  exact (silent_renderElements hm (by decide) htd hetd fun q hq =>
    ⟨hr.blanks q hq, (hr.texts q hq).silent hm hb hB⟩).append
    (hm.silent (not_lt_mem_of_blank hr.trailing))

end WrittenRow

namespace WrittenTable

variable {t : WrittenTable}

/-- A row's stop is its own end tag, or the next row. -/
theorem row_endTag (ys : List Char) :
    stopAt? rowStops ('<' :: '/' :: ("tr".toList ++ '>' :: ys)) = some (.endTag ('>' :: ys)) :=
  rfl

theorem row_sibling (w : Written) (ys : List Char) :
    stopAt? rowStops (w.render "tr".toList ++ ys) = some (.sibling (w.render "tr".toList ++ ys)) := by
  cases w <;> rfl

theorem Fits.readable (ht : t.Fits) :
    Readable "tr".toList rowStops (t.rows.map fun p => (p.1, p.2.element)) := by
  intro p hp
  obtain ⟨q, hq, rfl⟩ := List.mem_map.1 hp
  obtain ⟨hws, hr⟩ := ht.rows q hq
  exact ⟨hws, hr.silent (guarded_openTagAt? _) (fun _ => rfl) (fun _ => rfl) (fun _ => rfl)
    (fun _ => rfl), hr.silent (guarded_stopAt? _) (fun _ => rfl) (fun _ => rfl) (fun _ => rfl)
    (fun _ => rfl)⟩

/-- No `</table>` stands in the body of a fitting table. -/
theorem Fits.silent_body (ht : t.Fits) : Silent (closingTagAt? "table".toList) t.body := by
  have hm := guarded_closingTagAt? "table".toList
  refine (silent_renderElements hm (by decide) (fun _ => rfl) (fun _ => rfl) fun p hp => ?_).append
    (hm.silent (not_lt_mem_of_blank ht.trailing))
  obtain ⟨q, hq, rfl⟩ := List.mem_map.1 hp
  obtain ⟨hws, hr⟩ := ht.rows q hq
  exact ⟨hws, hr.silent hm (fun _ => rfl) (fun _ => rfl) (fun _ => rfl) (fun _ => rfl)⟩

theorem tableContent?_render (ht : t.Fits) : tableContent? t.render = some t.body := by
  have hopen : findOpenTag? "table".toList t.render
      = some ⟨[], t.body ++ "</table>".toList ++ t.after⟩ := by
    have hsplit : t.render = t.before ++
        '<' :: ("table".toList ++ '>' :: (t.body ++ "</table>".toList ++ t.after)) := by
      have htag : "<table>".toList = '<' :: ("table".toList ++ ['>']) := rfl
      rw [render, htag]
      simp only [List.append_assoc, List.cons_append, List.nil_append]
    -- no letter of `table` matches the `<` that the table's own tag starts with
    have hlt : ∀ p ∈ "table".toList, matchesCaseless p '<' = false := by
      intro p hp
      have hall : "table".toList.all (fun p => !matchesCaseless p '<') = true := rfl
      simpa using List.all_eq_true.1 hall p hp
    rw [hsplit, findOpenTag?_append_of_not_hasTagStart hlt _ ht.before]
    exact findOpenTag?_of_openTagAt? (openTagAt?_open _ _)
  have hclose : splitAtClosingTag? "table".toList (t.body ++ "</table>".toList ++ t.after)
      = some (t.body, t.after) := by
    rw [List.append_assoc, splitAtClosingTag?_append_of_silent ht.silent_body,
      splitAtClosingTag?_of_closingTagAt?
        (show closingTagAt? "table".toList ("</table>".toList ++ t.after) = some t.after from rfl)]
    simp
  unfold tableContent?
  rw [hopen, Option.map_some]
  dsimp only
  rw [hclose]

theorem stepsOfTable_body (ht : t.Fits) :
    stepsOfTable t.body = t.rows.filterMap fun p => p.2.step? := by
  rw [stepsOfTable, body, elements_renderElements row_endTag row_sibling ht.trailing ht.readable,
    List.map_map, List.filterMap_map]
  apply List.filterMap_congr
  intro p hp
  have hr := (ht.rows p hp).2
  show stepOfCells (elements "td".toList cellStops p.2.element.content) = p.2.step?
  rw [WrittenRow.elements_cells hr, WrittenRow.stepOfCells_cells hr]

end WrittenTable

/-- Reading undoes writing: whatever the caller's settings, a fitting written table is
read, and its steps are those its rows stand for, in order, none lost, repeated or moved. -/
theorem read_writtenTable (settings : ReadSettings) (t : WrittenTable) (ht : t.Fits) :
    ∃ s, Script.read settings (String.ofList t.render) = .ok s ∧
      s.commands = t.rows.filterMap fun p => p.2.step? := by
  simp only [Script.read, String.toList_ofList, t.tableContent?_render ht]
  exact ⟨_, rfl, t.stepsOfTable_body ht⟩

/-- A recorded table: a header row of one cell, a step whose end tags are all written and
whose value cell is self-closed, and a step whose end tags are all left out. -/
def sampleTable : WrittenTable where
  before := "<html><body>".toList
  rows :=
    [("\n".toList, ⟨[([], .closed "t".toList)], [], true⟩),
     ("\n".toList, ⟨[([], .closed "open".toList), ([], .closed "/".toList), ([], .selfClosed)],
       [], true⟩),
     ("\n".toList, ⟨[([], .unclosed "click ".toList), (" ".toList, .unclosed "id=go<BR/>".toList),
       ([], .closed [])], "\n".toList, false⟩)]
  trailing := "\n".toList
  after := "</body></html>".toList

theorem sampleTable_reads_back :
    sampleTable.Fits ∧ ∃ s, Script.read ⟨none, none, "T", ""⟩ (String.ofList sampleTable.render)
      = .ok s ∧ s.commands = sampleTable.rows.filterMap fun p => p.2.step? := by
  have hfits : sampleTable.Fits := by
    refine ⟨by show ¬ HasTagStart _ "<html><body>".toList; decide, by decide, ?_⟩
    intro p hp
    unfold sampleTable at hp
    rcases List.mem_cons.1 hp with rfl | hp
    · refine ⟨by decide, by decide, by decide, by decide, ?_⟩
      rintro ws n rest h hlen
      cases h
      simp at hlen
    rcases List.mem_cons.1 hp with rfl | hp
    · refine ⟨by decide, by decide, by decide, by decide, ?_⟩
      rintro ws n rest h -
      cases h
      decide
    rcases List.mem_cons.1 hp with rfl | hp
    · refine ⟨by decide, by decide, by decide, by decide, ?_⟩
      rintro ws n rest h -
      cases h
      decide
    simp at hp
  exact ⟨hfits, read_writtenTable _ _ hfits⟩

end Transcribe
