import Mathlib.Data.List.DropRight
import Transcribe.Markup.Tag
/-!
# `Proofs.ElementWalk` — the element walk on written elements

`Markup.elements` finds elements by scanning: the next opening tag, then the first
stop after it. This module proves what the walk gives on a text written the way a
recorder writes a list of elements, each after some blanks: `<name>text</name>`,
`<name>text` with the end tag left out, or `<name/>`.

## What is proved

`elements_renderElements`: the walk gives the content of every element, in order —
its text when the end tag is written, its text less the blanks that end it when the
end tag is left out, and nothing when the tag closes itself.
`elements_trimEnd_renderElements`: the same holds when the whole text has lost its
closing blanks, which is what a row without `</tr>` hands to the cell walk.

## How

Every scanner of `Markup.Tag` can only succeed at a `<` (`Guarded`). What the walk
needs of the texts between tags is that a scanner fails at each of their positions
whatever follows them (`Silent`). Silence is kept by concatenation, so it is proved
once for each tag and once for each kind of text; with it every scan skips what it
must (`firstMatch_append_of_silent`, `findStop?_append_of_silent`,
`splitAtClosingTag?_append_of_silent`). The walk itself is followed one branch at a
time (`elements_of_endTag` and its siblings), then one written element at a time
(`elements_closed_append` and its siblings: an element without its end tag stops where
the next one opens), and over the whole list by induction.
-/

namespace Transcribe.Text

/-! ## Trimming

`trimEnd` is `List.rdropWhile isBlank`, and the lemmas below say how it meets
concatenation. -/

/-- A text of blanks only. -/
def Blank (cs : List Char) : Prop := ∀ c ∈ cs, isBlank c = true

instance : DecidablePred Blank := fun cs => List.decidableBAll _ cs

theorem trimEnd_eq_rdropWhile (cs : List Char) : trimEnd cs = cs.rdropWhile isBlank := rfl

theorem not_lt_mem_of_blank {cs : List Char} (h : Blank cs) : '<' ∉ cs := by
  intro hmem
  have hlt := h '<' hmem
  revert hlt
  decide

theorem trimEnd_append_of_blank {xs ys : List Char} (h : Blank ys) :
    trimEnd (xs ++ ys) = trimEnd xs := by
  simp only [trimEnd, List.reverse_append]
  rw [List.dropWhile_append_of_pos fun c hc => h c (List.mem_reverse.1 hc)]

theorem trimEnd_of_blank {ys : List Char} (h : Blank ys) : trimEnd ys = [] :=
  @trimEnd_append_of_blank [] _ h

theorem trimEnd_append_of_not_blank {xs ys : List Char} (h : ∃ c ∈ ys, isBlank c = false) :
    trimEnd (xs ++ ys) = xs ++ trimEnd ys := by
  obtain ⟨c, hc, hb⟩ := h
  have hne : (ys.reverse.dropWhile isBlank).isEmpty = false := by
    rw [List.isEmpty_eq_false_iff, ne_eq, List.dropWhile_eq_nil_iff]
    intro hall
    simpa [hb] using hall c (List.mem_reverse.2 hc)
  simp only [trimEnd, List.reverse_append, List.dropWhile_append, hne, Bool.false_eq_true,
    if_false, List.reverse_append, List.reverse_reverse]

theorem trimEnd_cons_of_not_blank {c : Char} (cs : List Char) (h : isBlank c = false) :
    trimEnd (c :: cs) = c :: trimEnd cs := by
  by_cases hcs : ∃ d ∈ cs, isBlank d = false
  · exact @trimEnd_append_of_not_blank [c] cs hcs
  · have hblank : Blank cs := by simpa [Blank] using hcs
    rw [trimEnd_of_blank hblank, ← List.singleton_append, trimEnd_append_of_blank hblank,
      trimEnd_eq_rdropWhile, List.rdropWhile_singleton]
    simp [h]

theorem trimEnd_append_cons_of_not_blank {c : Char} (xs ys : List Char) (h : isBlank c = false) :
    trimEnd (xs ++ c :: ys) = xs ++ c :: trimEnd ys := by
  rw [trimEnd_append_of_not_blank ⟨c, by simp, h⟩, trimEnd_cons_of_not_blank ys h]

theorem trimEnd_trimEnd (cs : List Char) : trimEnd (trimEnd cs) = trimEnd cs :=
  List.rdropWhile_idempotent _ _

theorem trimStart_append_of_blank {xs ys : List Char} (h : Blank xs) :
    trimStart (xs ++ ys) = trimStart ys :=
  List.dropWhile_append_of_pos h

theorem trimStart_cons_of_not_blank {c : Char} (cs : List Char) (h : isBlank c = false) :
    trimStart (c :: cs) = c :: cs :=
  List.dropWhile_cons_of_neg (by simp [h])

theorem trimStart_of_blank {cs : List Char} (h : Blank cs) : trimStart cs = [] :=
  List.dropWhile_eq_nil_iff.2 h

/-- Trimming is blind to the blanks that a text already lost at its end. -/
theorem trim_trimEnd (cs : List Char) : trim (trimEnd cs) = trim cs := by
  by_cases hcs : ∃ d ∈ cs, isBlank d = false
  · -- `cs` is blanks, a first non-blank `c`, and the rest `m`
    obtain ⟨c, m, hdrop⟩ : ∃ c m, trimStart cs = c :: m := by
      cases h : trimStart cs with
      | nil =>
        obtain ⟨d, hd, hb⟩ := hcs
        have := List.dropWhile_eq_nil_iff.1 h d hd
        simp_all
      | cons c m => exact ⟨c, m, rfl⟩
    have hc : isBlank c = false := by
      have hhead := List.head?_dropWhile_not isBlank cs
      rw [show cs.dropWhile isBlank = c :: m from hdrop] at hhead
      simpa using hhead
    have hpre : Blank (cs.takeWhile isBlank) := fun d hd => List.mem_takeWhile_imp hd
    have hend : trimEnd cs = cs.takeWhile isBlank ++ c :: trimEnd m := by
      conv_lhs => rw [← List.takeWhile_append_dropWhile (p := isBlank) (l := cs)]
      rw [show cs.dropWhile isBlank = c :: m from hdrop, trimEnd_append_cons_of_not_blank _ m hc]
    calc trim (trimEnd cs)
        = trimEnd (c :: trimEnd m) := by
          rw [trim, hend, trimStart_append_of_blank hpre, trimStart_cons_of_not_blank _ hc]
      _ = c :: trimEnd m := by rw [trimEnd_cons_of_not_blank _ hc, trimEnd_trimEnd]
      _ = trim cs := by rw [trim, hdrop, trimEnd_cons_of_not_blank _ hc]
  · have hblank : Blank cs := by simpa [Blank] using hcs
    rw [trim, trim, trimEnd_of_blank hblank, trimStart_of_blank hblank]
    rfl

/-! ## Silent texts -/

section Silence
variable {α : Type} (m : List Char → Option α)

/-- The matcher `m` fails at every position of a text, whatever follows the text. -/
def Silent : List Char → Prop
  | [] => True
  | c :: cs => (∀ ys, m (c :: (cs ++ ys)) = none) ∧ Silent cs

/-- The matcher `m` can only succeed at a `<`. -/
def Guarded : Prop := ∀ c cs, c ≠ '<' → m (c :: cs) = none

variable {m}

theorem Silent.append {xs ys : List Char} (hx : Silent m xs) (hy : Silent m ys) :
    Silent m (xs ++ ys) := by
  induction xs with
  | nil => exact hy
  | cons c cs ih =>
    obtain ⟨hc, hcs⟩ := hx
    rw [List.cons_append]
    refine ⟨fun zs => ?_, ih hcs⟩
    rw [List.append_assoc]
    exact hc (ys ++ zs)

/-- A matcher that can only succeed at the character `a` is silent on a text without it. -/
theorem silent_of_not_mem {a : Char} (hm : ∀ c cs, c ≠ a → m (c :: cs) = none) {xs : List Char}
    (h : a ∉ xs) : Silent m xs := by
  induction xs with
  | nil => trivial
  | cons c cs ih =>
    simp only [List.mem_cons, not_or] at h
    exact ⟨fun ys => hm c _ (Ne.symm h.1), ih h.2⟩

theorem Guarded.silent (hm : Guarded m) {xs : List Char} (h : '<' ∉ xs) : Silent m xs :=
  silent_of_not_mem hm h

/-- A tag whose `<` is its only one is silent when the matcher fails at its front. -/
theorem Guarded.silent_tag (hm : Guarded m) {w : List Char} (hw : '<' ∉ w)
    (h : ∀ ys, m ('<' :: (w ++ ys)) = none) : Silent m ('<' :: w) :=
  ⟨h, hm.silent hw⟩

/-- A text made of silent pieces and silent separators is silent. -/
theorem Silent.intercalate {sep : List Char} (hs : Silent m sep) :
    ∀ {xs : List (List Char)}, (∀ x ∈ xs, Silent m x) → Silent m (sep.intercalate xs)
  | [], _ => trivial
  | [x], h => by
    rw [List.intercalate_singleton]
    exact h x List.mem_cons_self
  | x :: y :: xs, h => by
    rw [List.intercalate_cons_cons]
    exact ((h x List.mem_cons_self).append hs).append
      (Silent.intercalate hs fun z hz => h z (List.mem_cons_of_mem x hz))

theorem firstMatch_append_of_silent {xs : List Char} (h : Silent m xs) (ys : List Char) :
    firstMatch m (xs ++ ys) = firstMatch m ys := by
  induction xs with
  | nil => rfl
  | cons c cs ih =>
    obtain ⟨hc, hcs⟩ := h
    rw [List.cons_append, firstMatch, hc ys]
    exact ih hcs

/-- Substitution copies a silent text and goes on after it. -/
theorem substitute_append_of_silent {m : List Char → Option (List Char × List Char)} {xs : List Char}
    (h : Silent m xs) (ys : List Char) : substitute m (xs ++ ys) = xs ++ substitute m ys := by
  induction xs with
  | nil => rfl
  | cons c cs ih =>
    obtain ⟨hc, hcs⟩ := h
    rw [List.cons_append, substitute_cons_of_none (hc ys), ih hcs, List.cons_append]

end Silence

end Transcribe.Text

namespace Transcribe.Markup

open Transcribe.Text

/-! ## Scanning past silent text -/

theorem guarded_openTagAt? (name : List Char) : Guarded (openTagAt? name) := by
  intro c cs hc
  simp [openTagAt?, tagHead?, hc]

theorem guarded_stopAt? (names : List (List Char)) : Guarded (stopAt? names) := by
  intro c cs hc
  simp [stopAt?, hc]

theorem guarded_closingTagAt? (name : List Char) : Guarded (closingTagAt? name) := by
  intro c cs hc
  simp [closingTagAt?, hc]

theorem findOpenTag?_of_openTagAt? {name cs : List Char} {t : OpenTag}
    (h : openTagAt? name cs = some t) : findOpenTag? name cs = some t :=
  firstMatch_of_eq_some h

theorem findOpenTag?_of_blank {name cs : List Char} (h : Blank cs) :
    findOpenTag? name cs = none := by
  have := firstMatch_append_of_silent ((guarded_openTagAt? name).silent (not_lt_mem_of_blank h)) []
  rw [List.append_nil] at this
  rw [findOpenTag?, this]
  rfl

theorem findStop?_append_of_silent {names : List (List Char)} {xs : List Char}
    (h : Silent (stopAt? names) xs) (ys : List Char) :
    findStop? names (xs ++ ys) = (findStop? names ys).map fun p => (xs ++ p.1, p.2) := by
  induction xs with
  | nil => simp
  | cons c cs ih =>
    obtain ⟨hc, hcs⟩ := h
    rw [List.cons_append, findStop?, hc ys, ih hcs, Option.map_map]
    rfl

theorem findStop?_of_stopAt? {names : List (List Char)} {cs : List Char} {s : Stop}
    (h : stopAt? names cs = some s) : findStop? names cs = some ([], s) := by
  cases cs with
  | nil => simp [stopAt?] at h
  | cons c cs => rw [findStop?, h]

theorem findStop?_of_blank {names : List (List Char)} {ws : List Char} (h : Blank ws) :
    findStop? names ws = none := by
  have := findStop?_append_of_silent ((guarded_stopAt? names).silent (not_lt_mem_of_blank h)) []
  rw [List.append_nil] at this
  rw [this]
  rfl

theorem splitAtClosingTag?_append_of_silent {name xs : List Char}
    (h : Silent (closingTagAt? name) xs) (ys : List Char) :
    splitAtClosingTag? name (xs ++ ys) =
      (splitAtClosingTag? name ys).map fun p => (xs ++ p.1, p.2) := by
  induction xs with
  | nil => simp
  | cons c cs ih =>
    obtain ⟨hc, hcs⟩ := h
    rw [List.cons_append, splitAtClosingTag?, hc ys, ih hcs, Option.map_map]
    rfl

theorem splitAtClosingTag?_of_closingTagAt? {name cs rest : List Char}
    (h : closingTagAt? name cs = some rest) : splitAtClosingTag? name cs = some ([], rest) := by
  cases cs with
  | nil => simp [closingTagAt?] at h
  | cons c cs => rw [splitAtClosingTag?, h]

theorem stripCaseless_self_append (w ys : List Char) : stripCaseless w (w ++ ys) = some ys := by
  induction w with
  | nil => rfl
  | cons c w ih => simp [stripCaseless, matchesCaseless, ih]

theorem tagHead?_self (name : List Char) {r : List Char} (hb : boundaryAhead r = true) :
    tagHead? name ('<' :: name ++ r) = some r := by
  simp [tagHead?, stripCaseless_self_append, Option.filter, hb]

theorem openTagAt?_open (name ys : List Char) :
    openTagAt? name ('<' :: name ++ '>' :: ys) = some ⟨[], ys⟩ := by
  have hb : boundaryAhead ('>' :: ys) = true := rfl
  rw [openTagAt?, tagHead?_self name hb]
  simp

theorem openTagAt?_selfClosing (name ys : List Char) :
    openTagAt? name ('<' :: name ++ '/' :: '>' :: ys) = some ⟨['/'], ys⟩ := by
  have hb : boundaryAhead ('/' :: '>' :: ys) = true := rfl
  rw [openTagAt?, tagHead?_self name hb]
  simp

/-! ## The walk, one branch at a time

`elements` is defined by well-founded recursion on a dependent `match`; these lemmas
state its branches as equations, so that the walk can be followed by rewriting. -/

section Branches
variable {name : List Char} {stops : List (List Char)} {text : List Char} {t : OpenTag}

theorem elements_of_findOpenTag?_eq_none (h : findOpenTag? name text = none) :
    elements name stops text = [] := by
  rw [elements]
  split
  · rfl
  · simp_all

theorem elements_of_selfClosing (h : findOpenTag? name text = some t)
    (hs : t.selfClosing = true) :
    elements name stops text = [] :: elements name stops t.rest := by
  rw [elements]
  split
  · simp_all
  · rename_i t' h'
    obtain rfl : t' = t := by simp_all
    simp [hs]

/-- After an opening tag that does not close itself, the element runs up to the first stop
after the tag, and the walk goes on from that stop. -/
theorem elements_of_open (h : findOpenTag? name text = some t) (hs : t.selfClosing = false) :
    elements name stops text =
      match findStop? stops t.rest with
      | some (inner, .endTag after) => inner :: elements name stops after
      | some (inner, .sibling start) => trimEnd inner :: elements name stops start
      | none => trimEnd t.rest :: elements name stops t.rest := by
  rw [elements]
  split
  · simp_all
  · rename_i t' h'
    obtain rfl : t' = t := by simp_all
    simp only [hs, Bool.false_eq_true, if_false]
    split <;> simp_all

theorem elements_of_endTag {inner after : List Char} (h : findOpenTag? name text = some t)
    (hs : t.selfClosing = false) (hstop : findStop? stops t.rest = some (inner, .endTag after)) :
    elements name stops text = inner :: elements name stops after := by
  rw [elements_of_open h hs, hstop]

theorem elements_of_sibling {inner start : List Char} (h : findOpenTag? name text = some t)
    (hs : t.selfClosing = false) (hstop : findStop? stops t.rest = some (inner, .sibling start)) :
    elements name stops text = trimEnd inner :: elements name stops start := by
  rw [elements_of_open h hs, hstop]

theorem elements_of_findStop?_eq_none (h : findOpenTag? name text = some t)
    (hs : t.selfClosing = false) (hstop : findStop? stops t.rest = none) :
    elements name stops text = trimEnd t.rest :: elements name stops t.rest := by
  rw [elements_of_open h hs, hstop]

/-- The walk depends on its text only through the first opening tag found in it. -/
theorem elements_congr {text' : List Char}
    (h : findOpenTag? name text = findOpenTag? name text') :
    elements name stops text = elements name stops text' := by
  cases ho : findOpenTag? name text' with
  | none =>
    rw [elements_of_findOpenTag?_eq_none (h.trans ho), elements_of_findOpenTag?_eq_none ho]
  | some t =>
    have ho' := h.trans ho
    cases hs : t.selfClosing with
    | true => rw [elements_of_selfClosing ho' hs, elements_of_selfClosing ho hs]
    | false =>
      rcases hstop : findStop? stops t.rest with _ | ⟨inner, _ | _⟩
      · rw [elements_of_findStop?_eq_none ho' hs hstop, elements_of_findStop?_eq_none ho hs hstop]
      · rw [elements_of_endTag ho' hs hstop, elements_of_endTag ho hs hstop]
      · rw [elements_of_sibling ho' hs hstop, elements_of_sibling ho hs hstop]

theorem elements_blank_append {ws : List Char} (h : Blank ws) (zs : List Char) :
    elements name stops (ws ++ zs) = elements name stops zs :=
  elements_congr (firstMatch_append_of_silent
    ((guarded_openTagAt? name).silent (not_lt_mem_of_blank h)) zs)

end Branches

/-! ## Written elements -/

/-- How an element is written: with its end tag, without it, or as a self-closing tag. -/
inductive Written where
  | closed (text : List Char)
  | unclosed (text : List Char)
  | selfClosed
  deriving DecidableEq, Repr

namespace Written

/-- The text written inside the element. -/
def text : Written → List Char
  | .closed x | .unclosed x => x
  | .selfClosed => []

/-- What a reader should take for the element's content: its text, less the blanks at
its end when the end tag is left out. -/
def content : Written → List Char
  | .closed x => x
  | .unclosed x => trimEnd x
  | .selfClosed => []

/-- The element written with the tag `name`. -/
def render (name : List Char) : Written → List Char
  | .closed x => '<' :: name ++ '>' :: x ++ '<' :: '/' :: name ++ ['>']
  | .unclosed x => '<' :: name ++ '>' :: x
  | .selfClosed => '<' :: name ++ ['/', '>']

/-- The element with the blanks at the end of its text cut when its end tag is left out,
as they are when it ends a text that a reader trims. -/
def trimmed : Written → Written
  | .unclosed x => .unclosed (trimEnd x)
  | w => w

theorem content_trimmed (w : Written) : w.trimmed.content = w.content := by
  cases w <;> simp [trimmed, content, trimEnd_trimEnd]

end Written

/-- Elements written one after another, each after its own blanks. -/
def renderElements (name : List Char) : List (List Char × Written) → List Char
  | [] => []
  | (ws, w) :: rest => ws ++ w.render name ++ renderElements name rest

section Rendering
variable {name : List Char}

theorem renderElements_cons_append (ws : List Char) (w : Written) (rest : List (List Char × Written))
    (tail : List Char) : renderElements name ((ws, w) :: rest) ++ tail
      = ws ++ (w.render name ++ (renderElements name rest ++ tail)) := by
  simp [renderElements]

theorem lt_mem_renderElements {items : List (List Char × Written)} (h : items ≠ []) :
    '<' ∈ renderElements name items := by
  obtain ⟨⟨ws, w⟩, rest, rfl⟩ := List.exists_cons_of_ne_nil h
  cases w <;> simp [renderElements, Written.render]

/-- An element is silent for a matcher that fails at its tags and in its text. -/
theorem Written.silent_render {α : Type} {m : List Char → Option α} (hm : Guarded m)
    (hname : '<' ∉ name) (hopen : ∀ ys, m ('<' :: (name ++ ys)) = none)
    (hclose : ∀ ys, m ('<' :: '/' :: (name ++ ys)) = none) {w : Written}
    (hw : Silent m w.text) : Silent m (w.render name) := by
  have hgt : '<' ∉ name ++ ['>'] := by simp [hname]
  have hopenTag : Silent m ('<' :: (name ++ ['>'])) :=
    hm.silent_tag hgt fun ys => by simpa using hopen ('>' :: ys)
  cases w with
  | closed x =>
    have hendTag : Silent m ('<' :: '/' :: (name ++ ['>'])) :=
      hm.silent_tag (by simp [hname]) fun ys => by simpa using hclose ('>' :: ys)
    have := (hopenTag.append hw).append hendTag
    simpa [Written.render, Written.text] using this
  | unclosed x => simpa [Written.render, Written.text] using hopenTag.append hw
  | selfClosed =>
    have := hm.silent_tag (w := name ++ ['/', '>']) (by simp [hname])
      fun ys => by simpa using hopen ('/' :: '>' :: ys)
    simpa [Written.render] using this

theorem silent_renderElements {α : Type} {m : List Char → Option α} (hm : Guarded m)
    (hname : '<' ∉ name) (hopen : ∀ ys, m ('<' :: (name ++ ys)) = none)
    (hclose : ∀ ys, m ('<' :: '/' :: (name ++ ys)) = none) :
    ∀ {items : List (List Char × Written)}, (∀ p ∈ items, Blank p.1 ∧ Silent m p.2.text) →
      Silent m (renderElements name items)
  | [], _ => trivial
  | (ws, w) :: rest, h => by
    obtain ⟨hws, hw⟩ := h (ws, w) (by simp)
    have hrest : Silent m (renderElements name rest) :=
      silent_renderElements hm hname hopen hclose fun p hp => h p (by simp [hp])
    exact ((hm.silent (not_lt_mem_of_blank hws)).append
      (Written.silent_render hm hname hopen hclose hw)).append hrest

/-- Trimming a text of written elements cuts only the blanks at the end of the last one. -/
theorem trimEnd_renderElements {tail : List Char} (htail : Blank tail) (ws : List Char)
    (w : Written) : ∀ items : List (List Char × Written),
      trimEnd (renderElements name (items ++ [(ws, w)]) ++ tail)
        = renderElements name (items ++ [(ws, w.trimmed)])
  | [] => by
    have hgt : isBlank '>' = false := by decide
    simp only [List.nil_append, renderElements, List.append_nil]
    rw [trimEnd_append_of_blank htail]
    -- an element with an end tag, or self-closed, ends with the `>` of a tag
    cases w with
    | closed x =>
      simp only [Written.render, Written.trimmed, ← List.append_assoc]
      rw [trimEnd_append_cons_of_not_blank _ [] hgt]
      rfl
    | selfClosed =>
      simp only [Written.render, Written.trimmed]
      rw [show ['/', '>'] = ['/'] ++ ['>'] from rfl, ← List.append_assoc, ← List.append_assoc,
        trimEnd_append_cons_of_not_blank _ [] hgt]
      rfl
    | unclosed x =>
      simp only [Written.render, Written.trimmed, List.cons_append]
      rw [show ws ++ '<' :: (name ++ '>' :: x) = (ws ++ '<' :: name) ++ '>' :: x by simp,
        trimEnd_append_cons_of_not_blank _ _ hgt]
      simp
  | (ws₀, w₀) :: items => by
    have hlt : '<' ∈ renderElements name (items ++ [(ws, w)]) ++ tail :=
      List.mem_append_left _ (lt_mem_renderElements (by simp))
    have hlt' : isBlank '<' = false := by decide
    have hsplit : renderElements name ((ws₀, w₀) :: items ++ [(ws, w)]) ++ tail
        = (ws₀ ++ w₀.render name) ++ (renderElements name (items ++ [(ws, w)]) ++ tail) := by
      simp [renderElements]
    rw [hsplit, trimEnd_append_of_not_blank ⟨'<', hlt, hlt'⟩,
      trimEnd_renderElements htail ws w items]
    simp [renderElements]

end Rendering

/-! ## Reading written elements back

The walk needs two facts of the stops: the end tag of an element stops it with the text
from its `>` left, and the opening tag of the next element stops it as a sibling. -/

section Walk
variable {name : List Char} {stops : List (List Char)}

/-- Written elements that the walk can read back: blanks before each, and texts at which
neither an opening tag of `name` nor a stop of `stops` can start. -/
def Readable (name : List Char) (stops : List (List Char)) (items : List (List Char × Written)) :
    Prop :=
  ∀ p ∈ items, Blank p.1 ∧ Silent (openTagAt? name) p.2.text ∧ Silent (stopAt? stops) p.2.text

/-! One written element, then whatever follows it: the walk takes the element's content and
goes on where the element ends. -/

/-- With its end tag, the element gives its text, and the walk goes on after the end tag. -/
theorem elements_closed_append
    (hend : ∀ ys, stopAt? stops ('<' :: '/' :: (name ++ '>' :: ys)) = some (.endTag ('>' :: ys)))
    {x : List Char} (hstop : Silent (stopAt? stops) x) (R : List Char) :
    elements name stops ((Written.closed x).render name ++ R) = x :: elements name stops R := by
  have hfind : findOpenTag? name ((Written.closed x).render name ++ R)
      = some ⟨[], x ++ '<' :: '/' :: (name ++ '>' :: R)⟩ := by
    simp only [Written.render, List.cons_append, List.append_assoc]
    exact findOpenTag?_of_openTagAt? (openTagAt?_open _ _)
  have hfound : findStop? stops (x ++ '<' :: '/' :: (name ++ '>' :: R))
      = some (x, .endTag ('>' :: R)) := by
    rw [findStop?_append_of_silent hstop, findStop?_of_stopAt? (hend R)]
    simp
  -- after the end tag the walk starts at its `>`, which opens nothing
  have hgt : elements name stops ('>' :: R) = elements name stops R := by
    have hsilent : Silent (openTagAt? name) ['>'] := (guarded_openTagAt? name).silent (by decide)
    exact elements_congr (firstMatch_append_of_silent hsilent R)
  rw [elements_of_endTag hfind rfl hfound, hgt]

/-- A self-closing tag gives an empty content, and the walk goes on after it. -/
theorem elements_selfClosed_append (R : List Char) :
    elements name stops (Written.selfClosed.render name ++ R) = [] :: elements name stops R := by
  have hfind : findOpenTag? name (Written.selfClosed.render name ++ R) = some ⟨['/'], R⟩ := by
    simp only [Written.render, List.cons_append, List.append_assoc]
    exact findOpenTag?_of_openTagAt? (openTagAt?_selfClosing _ _)
  exact elements_of_selfClosing hfind rfl

/-- Without its end tag and before another element, the element runs up to the next one,
less the blanks before it, and the walk goes on at the next one. -/
theorem elements_unclosed_sibling
    (hsib : ∀ (w : Written) ys,
      stopAt? stops (w.render name ++ ys) = some (.sibling (w.render name ++ ys)))
    {x ws : List Char} (hstop : Silent (stopAt? stops) x) (hws : Blank ws) (w : Written)
    (R : List Char) :
    elements name stops ((Written.unclosed x).render name ++ (ws ++ (w.render name ++ R)))
      = trimEnd x :: elements name stops (w.render name ++ R) := by
  have hfind : findOpenTag? name ((Written.unclosed x).render name ++ (ws ++ (w.render name ++ R)))
      = some ⟨[], x ++ (ws ++ (w.render name ++ R))⟩ := by
    simp only [Written.render, List.cons_append, List.append_assoc]
    exact findOpenTag?_of_openTagAt? (openTagAt?_open _ _)
  have hfound : findStop? stops (x ++ (ws ++ (w.render name ++ R)))
      = some (x ++ ws, .sibling (w.render name ++ R)) := by
    rw [← List.append_assoc, findStop?_append_of_silent
      (hstop.append ((guarded_stopAt? stops).silent (not_lt_mem_of_blank hws))),
      findStop?_of_stopAt? (hsib w _)]
    simp
  rw [elements_of_sibling hfind rfl hfound, trimEnd_append_of_blank hws]

/-- Without its end tag and last, the element runs to the end, less the closing blanks,
and nothing opens after it. -/
theorem elements_unclosed_last {x tail : List Char} (hopen : Silent (openTagAt? name) x)
    (hstop : Silent (stopAt? stops) x) (htail : Blank tail) :
    elements name stops ((Written.unclosed x).render name ++ tail) = [trimEnd x] := by
  have hfind : findOpenTag? name ((Written.unclosed x).render name ++ tail)
      = some ⟨[], x ++ tail⟩ := by
    simp only [Written.render, List.cons_append, List.append_assoc]
    exact findOpenTag?_of_openTagAt? (openTagAt?_open _ _)
  have hnone : findStop? stops (x ++ tail) = none := by
    rw [findStop?_append_of_silent hstop, findStop?_of_blank htail]
    rfl
  have hafter : findOpenTag? name (x ++ tail) = none := by
    rw [findOpenTag?, firstMatch_append_of_silent hopen]
    exact findOpenTag?_of_blank htail
  rw [elements_of_findStop?_eq_none hfind rfl hnone, elements_of_findOpenTag?_eq_none hafter,
    trimEnd_append_of_blank htail]

/-- The walk reads back every written element, in order. -/
theorem elements_renderElements
    (hend : ∀ ys, stopAt? stops ('<' :: '/' :: (name ++ '>' :: ys)) = some (.endTag ('>' :: ys)))
    (hsib : ∀ (w : Written) ys,
      stopAt? stops (w.render name ++ ys) = some (.sibling (w.render name ++ ys)))
    {tail : List Char} (htail : Blank tail) :
    ∀ {items : List (List Char × Written)}, Readable name stops items →
      elements name stops (renderElements name items ++ tail) = items.map fun p => p.2.content
  | [], _ => elements_of_findOpenTag?_eq_none (findOpenTag?_of_blank htail)
  | (ws, w) :: rest, hitems => by
    obtain ⟨hws, hopen, hstop⟩ : Blank ws ∧ Silent (openTagAt? name) w.text ∧
        Silent (stopAt? stops) w.text := hitems (ws, w) (by simp)
    have hrest : Readable name stops rest := fun q hq => hitems q (by simp [hq])
    have ih := elements_renderElements hend hsib htail hrest
    rw [renderElements_cons_append, elements_blank_append hws, List.map_cons]
    -- one step of the walk per way of writing the element
    cases w with
    | closed x =>
      change Silent _ x at hstop
      rw [elements_closed_append hend hstop, ih]
      rfl
    | selfClosed =>
      rw [elements_selfClosed_append, ih]
      rfl
    | unclosed x =>
      change Silent _ x at hopen hstop
      -- where an element without its end tag stops depends on what follows it
      cases rest with
      | nil =>
        simp only [renderElements, List.nil_append]
        rw [elements_unclosed_last hopen hstop htail]
        rfl
      | cons q rest' =>
        obtain ⟨ws', w'⟩ := q
        have hws' : Blank ws' := (hrest (ws', w') (by simp)).1
        rw [renderElements_cons_append, elements_unclosed_sibling hsib hstop hws',
          ← elements_blank_append hws', ← renderElements_cons_append, ih]
        rfl

/-- The walk on a text of written elements that has lost its closing blanks. -/
theorem elements_trimEnd_renderElements
    (hend : ∀ ys, stopAt? stops ('<' :: '/' :: (name ++ '>' :: ys)) = some (.endTag ('>' :: ys)))
    (hsib : ∀ (w : Written) ys,
      stopAt? stops (w.render name ++ ys) = some (.sibling (w.render name ++ ys)))
    {tail : List Char} (htail : Blank tail) {items : List (List Char × Written)}
    (h : Readable name stops items)
    (htrim : Readable name stops (items.map fun p => (p.1, p.2.trimmed))) :
    elements name stops (trimEnd (renderElements name items ++ tail))
      = items.map fun p => p.2.content := by
  have hnil : Blank [] := fun _ h => by simp at h
  rcases List.eq_nil_or_concat items with rfl | ⟨init, ⟨ws, w⟩, rfl⟩
  · rw [renderElements, List.nil_append, trimEnd_of_blank htail]
    exact elements_of_findOpenTag?_eq_none (findOpenTag?_of_blank hnil)
  · -- the last element's text is cut, which keeps it readable and keeps its content
    rw [List.concat_eq_append] at h htrim ⊢
    have hreadable : Readable name stops (init ++ [(ws, w.trimmed)]) := by
      intro p hp
      rcases List.mem_append.1 hp with hp | hp
      · exact h p (by simp [hp])
      · obtain rfl := List.mem_singleton.1 hp
        exact htrim _ (by simp)
    rw [trimEnd_renderElements htail, ← List.append_nil (renderElements name _),
      elements_renderElements hend hsib hnil hreadable]
    simp [Written.content_trimmed]

end Walk

end Transcribe.Markup
