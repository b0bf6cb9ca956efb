import Transcribe.Assemble.Skeleton
import Transcribe.Php.Code
import Transcribe.Proofs.TemplateRendering
/-!
# `Proofs.MethodBody` — the body of the generated test method

The body of the test method is made once, from the translated steps (`methodContent`), and
written in one of two ways: the built-in skeleton puts every line of it on a line of its own,
indented by eight; a template receives it as one block for `{$testMethodContent}`, where every
line but the first is indented by eight and the first stands where the placeholder stands
(`indentBlock`).

## What is proved

`methodContent_terminates_each_step`: the body is the steps' lines in order. When a command
terminator is in effect, it is appended to the last line of every step that has lines and to
no other line; otherwise the lines are kept as they are. A terminator is in effect exactly when
one is set and not empty, or none is set and the API is WebDriver, and then it is a line feed.

`template_body_line_matches_skeleton`: eight spaces before the block give the lines indented
one by one (`spaces_append_indentBlock`, for any width and separator). Hence a template line
made of eight spaces and `{$testMethodContent}`, standing between two line breaks, renders
into exactly the text that the skeleton writes between the test method's opening and closing
lines, whenever the steps have at least one line.

## Why at least one line

Without lines the block is empty: the template line renders to its eight spaces, while the
skeleton writes the method's closing line right after its opening line.

## How

Rendering goes line by line (`render_append_break`): a placeholder holds no line break, so
none found by the walk reaches over one. The block is the context's value for
`testMethodContent` (`get?_templateContext_testMethodContent`), read through `get?_set`: a
name set later answers for itself and leaves the others alone.
-/

namespace Transcribe

open Transcribe.Text

/-! ## Command terminators -/

theorem length_terminateStep (eol : Option String) (lines : List String) :
    (terminateStep eol lines).length = lines.length := by
  simp [terminateStep]

theorem terminateStep_none : terminateStep none = id := by
  funext lines
  apply List.ext_getElem (length_terminateStep none lines)
  intro i h₁ h₂
  simp [terminateStep]

/-- A terminator goes to the line at the last position of a step, and nowhere else. -/
theorem terminateStep_some (e : String) (lines : List String) :
    terminateStep (some e) lines =
      lines.mapIdx fun i line => if i + 1 = lines.length then line ++ e else line := by
  apply List.ext_getElem (by simp [length_terminateStep])
  intro i h₁ h₂
  -- below the count, the position the walk takes for the last is the count less one
  have hlast : i = lines.length - 1 ↔ i + 1 = lines.length := by
    rw [List.length_mapIdx] at h₂
    omega
  simp [terminateStep, hlast]

/-- The terminator goes on the last line, split off from the lines before it. -/
theorem terminateStep_concat (e : String) (before : List String) (last : String) :
    terminateStep (some e) (before ++ [last]) = before ++ [last ++ e] := by
  rw [terminateStep_some, List.mapIdx_append]
  -- no line before the last one is at the last position
  have hbefore : before.mapIdx (fun i line => if i = before.length then line ++ e else line) =
      before := by
    apply List.ext_getElem (by simp)
    intro i h₁ h₂
    simp only [List.getElem_mapIdx]
    rw [if_neg (by omega)]
  simp [hbefore]

theorem effectiveCommandEol_eq_some_iff (c : Config) (e : String) :
    c.effectiveCommandEol = some e ↔
      (c.commandEol = some e ∧ e ≠ "") ∨
        (c.commandEol = none ∧ c.variant = .webDriver ∧ e = "\n") := by
  unfold Config.effectiveCommandEol
  cases hc : c.commandEol with
  | none => cases hv : c.variant <;> simp [eq_comm]
  | some e' =>
    by_cases he : e' = ""
    · subst he
      simp [eq_comm]
    · simp only [Option.some.injEq, ne_eq, reduceCtorEq, false_and, or_false, iff_self_and]
      rintro rfl
      exact he

theorem methodContent_eq_nil_iff (config : Config) (steps : List (List String)) :
    methodContent config steps = [] ↔ steps.flatten = [] := by
  simp [methodContent, ← List.length_eq_zero_iff, length_terminateStep]

/-- The body of the test method is the steps' lines in order, the terminator in effect, if
any, appended to the last line of every step with lines and to no other line; a terminator is
in effect when one is set and not empty, or none is set and the API is WebDriver. -/
theorem methodContent_terminates_each_step (config : Config) (steps : List (List String)) :
    (∀ e, config.effectiveCommandEol = some e →
      methodContent config steps = steps.flatMap fun lines =>
        lines.mapIdx fun i line => if i + 1 = lines.length then line ++ e else line) ∧
    (config.effectiveCommandEol = none → methodContent config steps = steps.flatten) ∧
    (∀ e, config.effectiveCommandEol = some e ↔
      (config.commandEol = some e ∧ e ≠ "") ∨
        (config.commandEol = none ∧ config.variant = .webDriver ∧ e = "\n")) := by
  refine ⟨fun e he => ?_, fun he => ?_, effectiveCommandEol_eq_some_iff config⟩
  · rw [methodContent, he, funext (terminateStep_some e)]
  · rw [methodContent, he, terminateStep_none, List.flatMap_id]

/-- Under WebDriver every step ends in a line feed; by default nothing is appended. -/
theorem webDriver_steps_end_in_line_feeds :
    ({ variant := .webDriver } : Config).effectiveCommandEol = some "\n" ∧
      methodContent { variant := .webDriver } [["a", "b"], [], ["c"]] =
        [["a", "b"], [], ["c"]].flatMap (fun lines =>
          lines.mapIdx fun i line => if i + 1 = lines.length then line ++ "\n" else line) ∧
      ({} : Config).effectiveCommandEol = none ∧
      methodContent {} [["a", "b"], [], ["c"]] = [["a", "b"], [], ["c"]].flatten :=
  ⟨rfl, (methodContent_terminates_each_step _ _).1 "\n" rfl, rfl,
    (methodContent_terminates_each_step _ _).2.1 rfl⟩

example : methodContent { variant := .webDriver } [["a", "b"], [], ["c"]] = ["a", "b\n", "c\n"] := by
  cbv

/-! ## The values of a template context -/

namespace TemplateContext

theorem lookup_cons_eq_ite (k v key : String) (l : List (String × String)) :
    ((k, v) :: l).lookup key = if key = k then some v else l.lookup key := by
  by_cases h : key = k
  · subst h
    simp
  · simp [List.lookup_cons, beq_false_of_ne h, h]

/-- Setting a name answers `value` for it and leaves the other names alone: the first entry
with the name is the one that both setting and looking up find. -/
theorem lookup_setEntries (name value key : String) (l : List (String × String)) :
    (setEntries name value l).lookup key = if key = name then some value else l.lookup key := by
  induction l with
  | nil => simp [setEntries]
  | cons p l ih =>
    obtain ⟨k, v⟩ := p
    by_cases hk : k = name
    · subst hk
      rw [setEntries, if_pos (beq_self_eq_true k), lookup_cons_eq_ite, lookup_cons_eq_ite]
      by_cases hkey : key = k <;> simp [hkey]
    · rw [setEntries, if_neg (by simpa using hk), lookup_cons_eq_ite, ih, lookup_cons_eq_ite]
      -- the name set is not the first entry's, so the two tests commute
      by_cases hkey : key = name
      · simp [hkey, Ne.symm hk]
      · rw [if_neg hkey, if_neg hkey]

/-- A name just set answers with its new value; every other name keeps its value. -/
theorem get?_set (ctx : TemplateContext) (name value key : String) :
    (ctx.set name value).get? key = if key = name then some value else ctx.get? key :=
  lookup_setEntries name value key ctx.entries

/-! ## Rendering goes line by line -/

/-- A text without `{` holds no placeholder. -/
theorem plain_of_not_mem {s : List Char} (h : '\x7b' ∉ s) : Plain s := by
  intro name _ hin
  exact h (hin.subset (by simp [toList_placeholder]))

/-- A placeholder at the front of a text stays there whatever follows the text. -/
theorem placeholderAt?_append_of_eq_some {xs name u : List Char}
    (h : placeholderAt? xs = some (name, u)) (r : List Char) :
    placeholderAt? (xs ++ r) = some (name, u ++ r) := by
  obtain ⟨hne, hall, rfl⟩ := (placeholderAt?_eq_some_iff _ _ _).1 h
  rw [placeholderAt?_eq_some_iff]
  exact ⟨hne, hall, by simp⟩

theorem length_rest_lt_of_placeholderAt? {cs name rest : List Char}
    (h : placeholderAt? cs = some (name, rest)) : rest.length < cs.length := by
  obtain ⟨-, -, rfl⟩ := (placeholderAt?_eq_some_iff _ _ _).1 h
  simp
  omega

theorem placeholderMatch_of_placeholderAt? (ctx : TemplateContext) {cs name rest : List Char}
    (h : placeholderAt? cs = some (name, rest)) :
    placeholderMatch ctx cs = some ((fill ctx (String.ofList name)).toList, rest) := by
  simp only [placeholderMatch, h, fill]
  cases ctx.get? (String.ofList name) <;> simp [toList_placeholder]

/-- A placeholder found in a text followed by a line break ends before the break. -/
theorem placeholderAt?_append_break {xs ys name rest : List Char}
    (h : placeholderAt? (xs ++ '\n' :: ys) = some (name, rest)) :
    ∃ u, placeholderAt? xs = some (name, u) ∧ rest = u ++ '\n' :: ys := by
  cases xs with
  | nil => simp [placeholderAt?] at h
  | cons c xs =>
    -- a placeholder holds no line break
    have hbreak : ∀ x ∈ ('\n' :: ys).head?, x ≠ '$' ∧ isNameChar x = false ∧ x ≠ '\x7d' := by
      intro x hx
      obtain rfl : '\n' = x := Option.some.inj hx
      decide
    obtain ⟨u, hu, rfl⟩ := placeholderAt?_append_eq_some (List.cons_ne_nil c xs) hbreak h
    obtain ⟨hne, hall, -⟩ := (placeholderAt?_eq_some_iff _ _ _).1 h
    exact ⟨u, (placeholderAt?_eq_some_iff _ _ _).2 ⟨hne, hall, hu⟩, rfl⟩

theorem substitute_append_break (ctx : TemplateContext) (a b : List Char) :
    substitute (placeholderMatch ctx) (a ++ '\n' :: b) =
      substitute (placeholderMatch ctx) a ++ '\n' :: substitute (placeholderMatch ctx) b := by
  -- on the length of `a`: after a placeholder the walk goes on from a shorter text
  induction hn : a.length using Nat.strong_induction_on generalizing a with
  | _ n ih =>
    cases a with
    | nil =>
      have hbreak : placeholderMatch ctx ('\n' :: b) = none := by
        simp [placeholderMatch, placeholderAt?]
      rw [List.nil_append, substitute_cons_of_none hbreak, substitute_nil, List.nil_append]
    | cons c a =>
      cases hp : placeholderAt? (c :: a ++ '\n' :: b) with
      | none =>
        -- no placeholder starts at `c` without the break either: it would still be there
        have hp' : placeholderAt? (c :: a) = none := by
          cases hq : placeholderAt? (c :: a) with
          | none => rfl
          | some q =>
            rw [placeholderAt?_append_of_eq_some hq] at hp
            cases hp
        have hm : placeholderMatch ctx (c :: (a ++ '\n' :: b)) = none := by
          simp only [placeholderMatch, ← List.cons_append, hp]
        have hm' : placeholderMatch ctx (c :: a) = none := by
          simp only [placeholderMatch, hp']
        rw [List.cons_append, substitute_cons_of_none hm, substitute_cons_of_none hm',
          ih a.length (by simp [← hn]) a rfl, List.cons_append]
      | some q =>
        -- the placeholder lies within `c :: a`, and the walk goes on after it on both sides
        obtain ⟨name, rest⟩ := q
        obtain ⟨u, hq, rfl⟩ := placeholderAt?_append_break hp
        have hlen : u.length < a.length + 1 := by simpa using length_rest_lt_of_placeholderAt? hq
        rw [List.cons_append] at hp ⊢
        rw [substitute_cons_of_some (placeholderMatch_of_placeholderAt? ctx hp) (by simp; omega),
          substitute_cons_of_some (placeholderMatch_of_placeholderAt? ctx hq) hlen,
          ih u.length (by simp [← hn]; omega) u rfl, List.append_assoc]

/-- Rendering a text with a line break renders the two sides of the break on their own. -/
theorem render_append_break (ctx : TemplateContext) (a b : String) :
    ctx.render (a ++ "\n" ++ b) = ctx.render a ++ "\n" ++ ctx.render b := by
  simp only [render_eq, ← String.toList_inj, String.toList_append, String.toList_ofList]
  simpa using substitute_append_break ctx a.toList b.toList

/-- Text without a placeholder and then one placeholder renders as the text and then the
placeholder's value. -/
theorem render_append_placeholder (ctx : TemplateContext) {pad : String} (hpad : Plain pad.toList)
    {name : String} (hn : IsName name) :
    ctx.render (pad ++ placeholder name) = pad ++ fill ctx name := by
  have hopen : ∀ c ∈ (placeholder name).toList.head?, c = '\x7b' := by simp [toList_placeholder]
  have h := substitute_placeholder_append ctx hn []
  rw [List.append_nil, substitute_nil, List.append_nil] at h
  rw [render_eq, ← String.toList_inj, String.toList_ofList, String.toList_append,
    substitute_append_of_plain ctx hpad hopen, h, String.toList_append]

end TemplateContext

/-! ## The template line and the skeleton -/

/-- Indenting a block's first line as well gives its lines indented one by one. -/
theorem spaces_append_indentBlock {lines : List String} (h : lines ≠ []) (n : Nat) (eol : String) :
    spaces n ++ indentBlock lines n eol = eol.intercalate (Php.indentLines lines n) := by
  obtain ⟨first, rest, rfl⟩ := List.exists_cons_of_ne_nil h
  simp [indentBlock, Php.indentLines, spaces]

theorem get?_templateContext_testMethodContent (config : Config) (stamp : Stamp) (script : Script)
    (content : List String) :
    (templateContext config stamp script content).get? "testMethodContent" =
      some (indentBlock content methodIndent config.eol) := by
  simp [templateContext, TemplateContext.get?_set]

/-- The line `        {$testMethodContent}` renders into the body's lines, each indented by
eight, joined by the line separator. -/
theorem render_testMethodContent_line (config : Config) (stamp : Stamp) (script : Script)
    {content : List String} (h : content ≠ []) :
    (templateContext config stamp script content).render
        (spaces methodIndent ++ TemplateContext.placeholder "testMethodContent") =
      config.eol.intercalate (content.map (spaces methodIndent ++ ·)) := by
  have hpad : TemplateContext.Plain (spaces methodIndent).toList :=
    TemplateContext.plain_of_not_mem (by simp [spaces, methodIndent])
  have hname : TemplateContext.IsName "testMethodContent" :=
    ⟨by simp, by simp [TemplateContext.isNameChar]⟩
  rw [TemplateContext.render_append_placeholder _ hpad hname, TemplateContext.fill,
    get?_templateContext_testMethodContent, Option.getD_some, spaces_append_indentBlock h]
  simp [Php.indentLines, spaces]

/-- The skeleton's lines around the body: everything up to the test method's opening line, the
body's lines indented by eight, then the method's closing line and the end of the class. -/
theorem skeleton_around_method_body (config : Config) (stamp : Stamp) (script : Script)
    {content : List String} (h : content ≠ []) :
    ∃ before : List String, skeleton config stamp script content =
      config.eol.intercalate (before ++ [spaces classIndent ++ "function " ++
          (TestNames.of config.classPrefix script.testName).methodName ++ "() \x7b"]) ++
        config.eol ++ config.eol.intercalate (content.map (spaces methodIndent ++ ·)) ++
        config.eol ++ config.eol.intercalate [spaces classIndent ++ "\x7d", "", "\x7d"] := by
  obtain ⟨before, hlines⟩ : ∃ before, skeletonLines config stamp script content =
      before ++ [spaces classIndent ++ "function " ++
          (TestNames.of config.classPrefix script.testName).methodName ++ "() \x7b"] ++
        content.map (spaces methodIndent ++ ·) ++ [spaces classIndent ++ "\x7d", "", "\x7d"] :=
    ⟨_, rfl⟩
  refine ⟨before, ?_⟩
  rw [skeleton, hlines, String.intercalate_append_of_ne_nil (by simp) (by simp),
    String.intercalate_append_of_ne_nil (by simp) (by simpa using h)]

/-- Eight spaces before the template block give the lines indented one by one, so a template
line of eight spaces and `{$testMethodContent}` renders, in its place, into exactly the text
that the built-in skeleton writes between the test method's opening and closing lines. -/
theorem template_body_line_matches_skeleton :
    (∀ (lines : List String) (n : Nat) (eol : String), lines ≠ [] →
      spaces n ++ indentBlock lines n eol = eol.intercalate (Php.indentLines lines n)) ∧
    ∀ (config : Config) (stamp : Stamp) (script : Script) (steps : List (List String)),
      steps.flatten ≠ [] →
      let content := methodContent config steps
      let ctx := templateContext config stamp script content
      let line := spaces methodIndent ++ TemplateContext.placeholder "testMethodContent"
      (∀ pre post : String, ctx.render (pre ++ "\n" ++ line ++ "\n" ++ post) =
          ctx.render pre ++ "\n" ++ ctx.render line ++ "\n" ++ ctx.render post) ∧
      ∃ before : List String,
        skeleton config stamp script content =
          config.eol.intercalate (before ++ [spaces classIndent ++ "function " ++
              (TestNames.of config.classPrefix script.testName).methodName ++ "() \x7b"]) ++
            config.eol ++ ctx.render line ++ config.eol ++
            config.eol.intercalate [spaces classIndent ++ "\x7d", "", "\x7d"] := by
  refine ⟨fun lines n eol h => spaces_append_indentBlock h n eol, ?_⟩
  intro config stamp script steps hsteps
  have hcontent : methodContent config steps ≠ [] :=
    fun h => hsteps ((methodContent_eq_nil_iff config steps).1 h)
  refine ⟨fun pre post => ?_, ?_⟩
  · rw [TemplateContext.render_append_break, TemplateContext.render_append_break]
  · rw [render_testMethodContent_line config stamp script hcontent]
    exact skeleton_around_method_body config stamp script hcontent

/-- The template line of a two-step test renders as the skeleton's body. -/
theorem two_step_body_renders_as_skeleton :
    ["open", "click"] ≠ [] ∧
      spaces 8 ++ indentBlock ["open", "click"] 8 "\r\n" =
        "\r\n".intercalate (Php.indentLines ["open", "click"] 8) ∧
      [["$this->open(\"/\");"], ["if (1) \x7b", "    x();", "\x7d"]].flatten ≠ [] ∧
      let config : Config := { eol := "\r\n", variant := .webDriver }
      let stamp : Stamp := ⟨2024, 3, 5, 9, 30, 0⟩
      let script : Script := ⟨"Login", "http://example.com/", []⟩
      let content := methodContent config
        [["$this->open(\"/\");"], ["if (1) \x7b", "    x();", "\x7d"]]
      let ctx := templateContext config stamp script content
      let line := spaces methodIndent ++ TemplateContext.placeholder "testMethodContent"
      (∀ pre post : String, ctx.render (pre ++ "\n" ++ line ++ "\n" ++ post) =
          ctx.render pre ++ "\n" ++ ctx.render line ++ "\n" ++ ctx.render post) ∧
      ∃ before : List String,
        skeleton config stamp script content =
          config.eol.intercalate (before ++ [spaces classIndent ++ "function " ++
              (TestNames.of config.classPrefix script.testName).methodName ++ "() \x7b"]) ++
            config.eol ++ ctx.render line ++ config.eol ++
            config.eol.intercalate [spaces classIndent ++ "\x7d", "", "\x7d"] :=
  ⟨by simp, template_body_line_matches_skeleton.1 _ _ _ (by simp), by simp,
    template_body_line_matches_skeleton.2 _ _ _ _ (by simp)⟩

end Transcribe
