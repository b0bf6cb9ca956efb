import Mathlib.Data.List.TakeWhile
import Transcribe.Locator
/-!
# `Proofs.Selectors` — the grammar of targets, and targets as recorders write them

`Locator.resolve` reads a target by a grammar of three lines:

| target | locator |
| :-- | :-- |
| `//` and more after it (`IsRawXPath`) | XPath, the whole target |
| a strategy's prefix, `=`, then a text whose first line is not empty (`IsPrefixedTarget`) | that strategy, with the first line (`firstLine`) as value — for `css` with each `..` collapsed to `.` (`Strategy.readValue`) |
| anything else | refused, `unknownSelector` of the target itself |

The prefixes are `id`, `name`, `link`, `xpath` and `css` (`Strategy.prefixName`).

## What is proved

`resolve_follows_selector_grammar`, for every target: the three lines of the table, and
that what a recorder writes for a locator (`Locator.encode`: the prefix, `=`, the value,
every `.` of a CSS selector doubled) reads back to that locator, for every strategy and
every non-empty value without a line feed.

## What it is not

A prefixed target's value is its *first line*: the text after `=` is read up to the first
line feed and the rest is dropped, while an XPath target keeps its line feeds whole. So a
recorded value that holds a line feed does not read back (`line_feed_cuts_recorded_value`).

## How

`prefixed?` is described once in each direction: on a run of lower-case letters followed
by `=` it finds that run and the first line after it (`prefixed?_append`), and whatever it
finds has that shape (`prefixed?_eq_some`). The CSS round trip is an induction over the
value: the left-to-right collapse takes a doubled dot in one step, so it undoes the
doubling character by character (`substitute_doubleDots`).
-/

namespace Transcribe

open Transcribe.Text

/-! ## Targets as recorders write them -/

/-- The prefix that names a strategy in a target. -/
def Strategy.prefixName : Strategy → String
  | .id => "id"
  | .name => "name"
  | .linkText => "link"
  | .xpath => "xpath"
  | .cssSelector => "css"

/-- Doubles every `.`, as recorders write the value of a CSS selector. -/
def doubleDots (cs : List Char) : List Char :=
  cs.flatMap fun c => if c = '.' then ['.', '.'] else [c]

/-- A locator as a recorder writes it: its prefix, `=`, and its value, with the dots of a
CSS selector doubled. -/
def Locator.encode (l : Locator) : String :=
  l.strategy.prefixName ++ "=" ++
    (if l.strategy = .cssSelector then String.ofList (doubleDots l.value.toList) else l.value)

/-! ## The grammar -/

/-- A raw XPath target: `//` and more after it. -/
def IsRawXPath (s : String) : Prop := ∃ rest, s.toList = '/' :: '/' :: rest ∧ rest ≠ []

/-- The first line of a text: all of it up to the first line feed. -/
def firstLine (r : String) : String := String.ofList (r.toList.takeWhile (· != '\n'))

/-- The value a strategy reads from the first line after `=`: CSS collapses doubled dots. -/
def Strategy.readValue (S : Strategy) (line : String) : String :=
  if S = .cssSelector then replaceAll ".." "." line else line

/-- A prefixed target whose first line after the `=` is not empty. -/
def IsPrefixedTarget (s : String) : Prop :=
  ∃ (S : Strategy) (r : String), s = S.prefixName ++ "=" ++ r ∧ firstLine r ≠ ""

/-! ## Prefixes -/

theorem Strategy.ofPrefix?_prefixName (S : Strategy) : Strategy.ofPrefix? S.prefixName = some S := by
  cases S <;> rfl

theorem Strategy.eq_prefixName_of_ofPrefix? {p : String} {S : Strategy}
    (h : Strategy.ofPrefix? p = some S) : p = S.prefixName := by
  unfold Strategy.ofPrefix? at h
  split at h <;> cases h <;> rfl

theorem Strategy.isLowerAscii_prefixName (S : Strategy) :
    ∀ c ∈ S.prefixName.toList, isLowerAscii c = true :=
  List.all_eq_true.1 (by cases S <;> decide)

theorem Strategy.prefixName_ne_nil (S : Strategy) : S.prefixName.toList ≠ [] := by
  cases S <;> decide

/-- `prefixed?` on a run of lower-case letters, `=` and a rest: the run and the rest's
first line, when that line is not empty. -/
theorem prefixed?_append {p rest : List Char} (hp : p ≠ []) (hl : ∀ c ∈ p, isLowerAscii c = true) :
    prefixed? (p ++ '=' :: rest) =
      if rest.takeWhile (· != '\n') = [] then none else some (p, rest.takeWhile (· != '\n')) := by
  have heq : isLowerAscii '=' = false := by decide
  have htake : (p ++ '=' :: rest).takeWhile isLowerAscii = p := by
    rw [List.takeWhile_append_of_pos hl, List.takeWhile_cons_of_neg (by simp [heq]), List.append_nil]
  have hdrop : (p ++ '=' :: rest).dropWhile isLowerAscii = '=' :: rest := by
    rw [List.dropWhile_append_of_pos hl, List.dropWhile_cons_of_neg (by simp [heq])]
  obtain ⟨c, p', rfl⟩ := List.exists_cons_of_ne_nil hp
  unfold prefixed?
  rw [htake, hdrop]
  split
  case h_1 _ _ _ _ rest' hpq hr =>
    obtain ⟨-, rfl⟩ := List.cons.inj hr
    obtain ⟨rfl, rfl⟩ := List.cons.inj hpq
    cases rest.takeWhile (· != '\n') <;> simp
  case h_2 hne => exact (hne c p' rest rfl rfl).elim

/-- Whatever `prefixed?` finds is a run of lower-case letters, `=`, and the first line of
what follows, which is not empty. -/
theorem prefixed?_eq_some {cs p r : List Char} (h : prefixed? cs = some (p, r)) :
    ∃ rest, cs = p ++ '=' :: rest ∧ r = rest.takeWhile (· != '\n') ∧ r ≠ [] := by
  unfold prefixed? at h
  split at h
  case h_1 p' rest hp hd =>
    split at h
    · cases h
    case h_2 r' hr =>
      cases h
      refine ⟨rest, ?_, rfl, hr⟩
      rw [← hp, ← hd, List.takeWhile_append_dropWhile]
  case h_2 => cases h

/-! ## The three lines of the table -/

theorem resolve_of_isRawXPath {s : String} (h : IsRawXPath s) : Locator.resolve s = .ok ⟨.xpath, s⟩ := by
  obtain ⟨rest, hs, hne⟩ := h
  obtain ⟨x, rest', rfl⟩ := List.exists_cons_of_ne_nil hne
  unfold Locator.resolve
  simp only [hs]

/-- Past the raw XPath form, a target is read by `prefixed?` and the prefix's strategy. -/
theorem resolve_of_prefixed? {s : String} {p r : List Char} {S : Strategy} (hx : ¬ IsRawXPath s)
    (hp : prefixed? s.toList = some (p, r)) (hS : Strategy.ofPrefix? (String.ofList p) = some S) :
    Locator.resolve s = .ok ⟨S, S.readValue (String.ofList r)⟩ := by
  unfold Locator.resolve
  split
  case h_1 rest hs => exact absurd ⟨_, hs, by simp⟩ hx
  case h_2 =>
    rw [hp]
    simp only [hS]
    cases S <;> simp [Strategy.readValue]

theorem resolve_of_no_strategy {s : String} (hx : ¬ IsRawXPath s)
    (hp : ∀ p r, prefixed? s.toList = some (p, r) → Strategy.ofPrefix? (String.ofList p) = none) :
    Locator.resolve s = .error (.unknownSelector s) := by
  unfold Locator.resolve
  split
  case h_1 rest hs => exact absurd ⟨_, hs, by simp⟩ hx
  case h_2 =>
    split
    case h_1 p r hpr => simp only [hp p r hpr]
    case h_2 => rfl

theorem not_isRawXPath_prefixed (S : Strategy) (r : String) :
    ¬ IsRawXPath (S.prefixName ++ "=" ++ r) := by
  rintro ⟨rest, hs, -⟩
  cases S <;> simp [Strategy.prefixName] at hs

theorem toList_prefixed (S : Strategy) (r : String) :
    (S.prefixName ++ "=" ++ r).toList = S.prefixName.toList ++ '=' :: r.toList := by
  simp

/-- A prefixed target reads its strategy and the first line after `=`, when that line is
not empty. -/
theorem resolve_prefixed {S : Strategy} {r : String} (hr : firstLine r ≠ "") :
    Locator.resolve (S.prefixName ++ "=" ++ r) = .ok ⟨S, S.readValue (firstLine r)⟩ := by
  have hline : r.toList.takeWhile (· != '\n') ≠ [] := fun h => hr (by simp [firstLine, h])
  have hp : prefixed? (S.prefixName ++ "=" ++ r).toList =
      some (S.prefixName.toList, r.toList.takeWhile (· != '\n')) := by
    rw [toList_prefixed, prefixed?_append S.prefixName_ne_nil S.isLowerAscii_prefixName, if_neg hline]
  exact resolve_of_prefixed? (not_isRawXPath_prefixed S r) hp
    (by rw [String.ofList_toList, Strategy.ofPrefix?_prefixName])

/-- A target that is neither raw XPath nor prefixed is refused as an unknown selector. -/
theorem resolve_of_not_prefixed {s : String} (hx : ¬ IsRawXPath s) (hp : ¬ IsPrefixedTarget s) :
    Locator.resolve s = .error (.unknownSelector s) := by
  refine resolve_of_no_strategy hx fun p r hpr => ?_
  cases hS : Strategy.ofPrefix? (String.ofList p) with
  | none => rfl
  | some S =>
    -- a strategy found by `prefixed?` makes `s` a prefixed target
    obtain ⟨rest, hs, hr, hne⟩ := prefixed?_eq_some hpr
    have hname := Strategy.eq_prefixName_of_ofPrefix? hS
    refine absurd ⟨S, String.ofList rest, ?_, ?_⟩ hp
    · apply String.toList_injective
      rw [toList_prefixed, ← hname, hs]
      simp
    · simpa [firstLine, ← hr] using hne

/-! ## Reading back what recorders write -/

@[simp] theorem doubleDots_nil : doubleDots [] = [] := rfl

theorem doubleDots_cons (c : Char) (cs : List Char) :
    doubleDots (c :: cs) = (if c = '.' then ['.', '.'] else [c]) ++ doubleDots cs := by
  simp [doubleDots]

theorem substitute_doubleDots (cs : List Char) :
    substitute (literal ['.', '.'] ['.']) (doubleDots cs) = cs := by
  induction cs with
  | nil => simp [substitute_nil]
  | cons c cs ih =>
    by_cases hc : c = '.'
    · -- a doubled dot is one match of `..`
      subst hc
      have hm : literal ['.', '.'] ['.'] ('.' :: '.' :: doubleDots cs) =
          some (['.'], doubleDots cs) := by
        simp [literal]
      rw [doubleDots_cons, if_pos rfl, List.cons_append, List.cons_append, List.nil_append,
        substitute_cons_of_some hm (by simp only [List.length_cons]; omega), ih]
      rfl
    · have hm : literal ['.', '.'] ['.'] (c :: doubleDots cs) = none := by
        simp [literal, Ne.symm hc]
      rw [doubleDots_cons, if_neg hc, List.cons_append, List.nil_append, substitute_cons_of_none hm, ih]

/-- Collapsing doubled dots undoes doubling them. -/
theorem replaceAll_doubleDots (cs : List Char) :
    replaceAll ".." "." (String.ofList (doubleDots cs)) = String.ofList cs := by
  unfold replaceAll
  simp only [String.toList_ofList]
  exact congrArg String.ofList (substitute_doubleDots cs)

theorem not_mem_doubleDots {x : Char} (hx : x ≠ '.') {cs : List Char} (h : x ∉ cs) :
    x ∉ doubleDots cs := by
  simp only [doubleDots, List.mem_flatMap, not_exists, not_and]
  intro c hc
  split
  · simp [hx]
  · rw [List.mem_singleton]
    rintro rfl
    exact h hc

theorem firstLine_of_not_mem {r : String} (h : '\n' ∉ r.toList) : firstLine r = r := by
  simp only [firstLine]
  rw [List.takeWhile_eq_self_iff.2 fun x hx => by simp; rintro rfl; exact h hx, String.ofList_toList]

/-- What a recorder writes for a locator whose value is one non-empty line reads back to
that locator. -/
theorem resolve_encode {l : Locator} (hv : l.value ≠ "") (hn : '\n' ∉ l.value.toList) :
    Locator.resolve l.encode = .ok l := by
  obtain ⟨S, v⟩ := l
  by_cases hS : S = .cssSelector
  · subst hS
    have hd : '\n' ∉ (String.ofList (doubleDots v.toList)).toList := by
      rw [String.toList_ofList]; exact not_mem_doubleDots (by decide) hn
    have hne : firstLine (String.ofList (doubleDots v.toList)) ≠ "" := by
      obtain ⟨c, cs, hcs⟩ := List.exists_cons_of_ne_nil (by simpa using hv : v.toList ≠ [])
      rw [firstLine_of_not_mem hd, hcs, doubleDots_cons]
      intro h
      have := congrArg String.toList h
      split at this <;> simp at this
    simp only [Locator.encode, if_pos]
    rw [resolve_prefixed hne, firstLine_of_not_mem hd, Strategy.readValue, if_pos rfl,
      replaceAll_doubleDots, String.ofList_toList]
  · simp only [Locator.encode, if_neg hS]
    rw [resolve_prefixed (by rwa [firstLine_of_not_mem hn]), firstLine_of_not_mem hn]
    simp [Strategy.readValue, hS]

/-- `Locator.resolve` follows the selector grammar: a raw XPath target is taken whole; a
prefixed target gives its strategy and the first line after `=` (dots collapsed for CSS);
every other target is refused as an unknown selector; and what a recorder writes for a
locator with a non-empty one-line value reads back to it. -/
theorem resolve_follows_selector_grammar (s : String) (S : Strategy) (r : String) (l : Locator) :
    (IsRawXPath s → Locator.resolve s = .ok ⟨.xpath, s⟩) ∧
    (firstLine r ≠ "" →
      Locator.resolve (S.prefixName ++ "=" ++ r) = .ok ⟨S, S.readValue (firstLine r)⟩) ∧
    (¬ IsRawXPath s → ¬ IsPrefixedTarget s → Locator.resolve s = .error (.unknownSelector s)) ∧
    (l.value ≠ "" → '\n' ∉ l.value.toList → Locator.resolve l.encode = .ok l) :=
  ⟨resolve_of_isRawXPath, resolve_prefixed, resolve_of_not_prefixed, resolve_encode⟩

/-- The grammar at four targets: a raw XPath expression, a CSS selector with doubled dots, an
upper-case prefix, and a CSS locator written by a recorder and read back. -/
theorem selector_grammar_samples :
    Locator.resolve "//div[@id]" = .ok ⟨.xpath, "//div[@id]"⟩ ∧
    Locator.resolve (Strategy.cssSelector.prefixName ++ "=" ++ "a..b") = .ok ⟨.cssSelector, "a.b"⟩ ∧
    Locator.resolve "ID=upper" = .error (.unknownSelector "ID=upper") ∧
    Locator.resolve (Locator.encode ⟨.cssSelector, "div.nav"⟩) = .ok ⟨.cssSelector, "div.nav"⟩ := by
  obtain ⟨hx, hp, -, he⟩ :=
    resolve_follows_selector_grammar "//div[@id]" .cssSelector "a..b" ⟨.cssSelector, "div.nav"⟩
  obtain ⟨-, -, hu, -⟩ :=
    resolve_follows_selector_grammar "ID=upper" .cssSelector "a..b" ⟨.cssSelector, "div.nav"⟩
  have hcss : Strategy.cssSelector.readValue (firstLine "a..b") = "a.b" := by decide +kernel
  refine ⟨hx ⟨"div[@id]".toList, by decide, by decide⟩, ?_, hu ?_ ?_, he (by decide) (by decide)⟩
  · rw [hp (by decide), hcss]
  · rintro ⟨rest, hs, -⟩
    simp at hs
  · rintro ⟨S, r, hs, -⟩
    cases S <;> simpa [Strategy.prefixName] using congrArg String.toList hs

/-- A recorded value with a line feed does not read back: the target keeps its first line. -/
theorem line_feed_cuts_recorded_value :
    Locator.resolve (Locator.encode ⟨.id, "a\nb"⟩) = .ok ⟨.id, "a"⟩ ∧
      Locator.resolve (Locator.encode ⟨.id, "a\nb"⟩) ≠ .ok ⟨.id, "a\nb"⟩ := by
  have hline : firstLine "a\nb" = "a" := by decide
  have h : Locator.resolve (Locator.encode ⟨.id, "a\nb"⟩) = .ok ⟨.id, "a"⟩ := by
    simp only [Locator.encode, if_neg (by decide : Strategy.id ≠ .cssSelector)]
    rw [resolve_prefixed (by rw [hline]; decide), hline]
    rfl
  refine ⟨h, ?_⟩
  rw [h]
  simp

end Transcribe
