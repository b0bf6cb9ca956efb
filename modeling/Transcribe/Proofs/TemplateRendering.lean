import Mathlib.Data.List.Infix
import Transcribe.Assemble.Template
/-!
# `Proofs.TemplateRendering` — every placeholder is filled once, where it stands

A template is read as literal segments with placeholders between them. Rendering walks it
once from the left (`Text.substitute`); this module says what that walk gives on every such
template.

## What is proved, with every binder written out

`render_fills_placeholders_once`: for every context `ctx`, every segment `s₀` and every
list of pairs `(nᵢ, sᵢ)`, `i = 1 … n`, where each `nᵢ` is a placeholder name (`IsName`:
a non-empty run of ASCII letters, digits and `_`) and no segment holds a placeholder
(`Plain`),

    ctx.render (s₀ ++ {$n₁} ++ s₁ ++ … ++ {$nₙ} ++ sₙ) = s₀ ++ w n₁ ++ s₁ ++ … ++ w nₙ ++ sₙ

where `w n` is the value of `n` in `ctx` when it has one and `{$n}` itself otherwise
(`fill`). So the segments are copied as they are, each placeholder is replaced by its own
value, and a value is never looked at again, whatever it holds.

## What it is NOT

It says nothing about how the values got into `ctx`: `get?` answers with the first entry of
a name, and any list of entries is allowed here.

## Why a segment may end in `{$` or begin with `}`

A placeholder found by the walk can start inside a segment only if it ends there too: what
follows a segment is a placeholder, whose `{` is neither a name character nor `}`
(`placeholderAt?_append_eq_some`). So a segment such as `{$a` before `{$b}`, or `}` after
one, is copied, and the walk stands at the next placeholder's `{` when it leaves a segment.
-/

namespace Transcribe.TemplateContext

open Transcribe.Text

/-! ## Placeholders -/

/-- The placeholder `{$name}` as text. -/
def placeholder (name : String) : String := "\x7b$" ++ name ++ "\x7d"

/-- A placeholder name: a non-empty run of ASCII letters, digits and `_`. -/
def IsName (name : String) : Prop := name.toList ≠ [] ∧ name.toList.all isNameChar = true

instance : DecidablePred IsName := fun _ => inferInstanceAs (Decidable (_ ∧ _))

/-- A text in which no placeholder stands. -/
def Plain (s : List Char) : Prop := ∀ name, IsName name → ¬ (placeholder name).toList <:+: s

/-- What rendering writes for a placeholder: the name's value, or the placeholder as written. -/
def fill (ctx : TemplateContext) (name : String) : String :=
  (ctx.get? name).getD (placeholder name)

/-- The matcher that `render` walks a template with. -/
def placeholderMatch (ctx : TemplateContext) (cs : List Char) : Option (List Char × List Char) :=
  match placeholderAt? cs with
  | some (name, rest) =>
    match ctx.get? (String.ofList name) with
    | some v => some (v.toList, rest)
    | none => some ('\x7b' :: '$' :: name ++ ['\x7d'], rest)
  | none => none

theorem render_eq (ctx : TemplateContext) (t : String) :
    ctx.render t = String.ofList (substitute (placeholderMatch ctx) t.toList) := rfl

theorem toList_placeholder (name : String) :
    (placeholder name).toList = '\x7b' :: '$' :: (name.toList ++ ['\x7d']) := by
  simp [placeholder]

/-- The walk finds a placeholder exactly where the text starts with one. -/
theorem placeholderAt?_eq_some_iff (cs name rest : List Char) :
    placeholderAt? cs = some (name, rest) ↔
      name ≠ [] ∧ name.all isNameChar = true ∧ cs = '\x7b' :: '$' :: (name ++ '\x7d' :: rest) := by
  constructor
  · intro h
    unfold placeholderAt? at h
    split at h
    · rename_i cs'
      split at h
      · rename_i _ c n r hn hr
        obtain ⟨rfl, rfl⟩ := Prod.mk.inj (Option.some.inj h).symm
        have hall : (c :: n).all isNameChar = true := by
          rw [← hn]
          exact List.all_takeWhile
        refine ⟨List.cons_ne_nil _ _, hall, ?_⟩
        rw [← @List.takeWhile_append_dropWhile _ isNameChar cs', hn, hr]
      · cases h
    · cases h
  · rintro ⟨hne, hall, rfl⟩
    have hclose : isNameChar '\x7d' = false := by decide
    have htake : (name ++ '\x7d' :: rest).takeWhile isNameChar = name := by
      rw [List.takeWhile_append_of_pos (by simpa using hall), List.takeWhile_cons_of_neg (by simp [hclose]),
        List.append_nil]
    have hdrop : (name ++ '\x7d' :: rest).dropWhile isNameChar = '\x7d' :: rest := by
      rw [List.dropWhile_append_of_pos (by simpa using hall), List.dropWhile_cons_of_neg (by simp [hclose])]
    obtain ⟨c, name', rfl⟩ := List.exists_cons_of_ne_nil hne
    simp only [placeholderAt?, htake, hdrop]

/-- The name that the walk reads is a name. -/
theorem isName_ofList {name : List Char} (hne : name ≠ []) (hall : name.all isNameChar = true) :
    IsName (String.ofList name) :=
  ⟨by simpa using hne, by simpa using hall⟩

theorem placeholderAt?_placeholder {name : String} (hn : IsName name) (rest : List Char) :
    placeholderAt? ((placeholder name).toList ++ rest) = some (name.toList, rest) := by
  rw [placeholderAt?_eq_some_iff, toList_placeholder]
  exact ⟨hn.1, hn.2, by simp⟩

/-- A placeholder found in a non-empty text `t` followed by `r` lies within `t` when `r` is
empty or starts with a character that no placeholder holds past its `{`. -/
theorem placeholderAt?_append_eq_some {t r name rest : List Char} (ht : t ≠ [])
    (hr : ∀ c ∈ r.head?, c ≠ '$' ∧ isNameChar c = false ∧ c ≠ '\x7d')
    (h : placeholderAt? (t ++ r) = some (name, rest)) :
    ∃ u, t = '\x7b' :: '$' :: (name ++ '\x7d' :: u) ∧ rest = u ++ r := by
  obtain ⟨-, hall, heq⟩ := (placeholderAt?_eq_some_iff _ _ _).1 h
  have hsplit : '\x7b' :: '$' :: (name ++ '\x7d' :: rest) =
      ('\x7b' :: '$' :: (name ++ ['\x7d'])) ++ rest := by simp
  rw [hsplit, List.append_eq_append_iff] at heq
  rcases heq with ⟨a, hp, hra⟩ | ⟨u, rfl, rfl⟩
  · cases a with
    | nil =>
      rw [List.append_nil] at hp
      rw [List.nil_append] at hra
      exact ⟨[], hp.symm, by simp [hra]⟩
    | cons x a =>
      -- the match would end beyond `t`: then `r` starts inside it, past its `{`
      exfalso
      obtain ⟨hdollar, hname, hclose⟩ := hr x (by simp [hra])
      obtain ⟨c, t', rfl⟩ := List.exists_cons_of_ne_nil ht
      simp only [List.cons_append, List.cons.injEq] at hp
      obtain ⟨-, hp⟩ := hp
      have hmem : x ∈ '$' :: (name ++ ['\x7d']) := by
        rw [hp]
        simp
      simp only [List.mem_cons, List.mem_append, List.not_mem_nil, or_false] at hmem
      rcases hmem with hx | hx | hx
      · exact hdollar hx
      · rw [List.all_eq_true.1 hall x hx] at hname
        cases hname
      · exact hclose hx
  · exact ⟨u, by simp, rfl⟩

/-- A text holds no placeholder exactly when the walk finds none at any of its suffixes. -/
theorem plain_iff (s : List Char) : Plain s ↔ ∀ t ∈ s.tails, placeholderAt? t = none := by
  constructor
  · intro hs t ht
    cases hp : placeholderAt? t with
    | none => rfl
    | some p =>
      obtain ⟨name, rest⟩ := p
      obtain ⟨hne, hall, rfl⟩ := (placeholderAt?_eq_some_iff _ _ _).1 hp
      refine absurd ?_ (hs (String.ofList name) (isName_ofList hne hall))
      have hpre : (placeholder (String.ofList name)).toList <+:
          '\x7b' :: '$' :: (name ++ '\x7d' :: rest) :=
        ⟨rest, by rw [toList_placeholder, String.toList_ofList]; simp⟩
      exact hpre.isInfix.trans ((List.mem_tails _ _).1 ht).isInfix
  · intro h name hn hin
    obtain ⟨t, ⟨rest, rfl⟩, hsuf⟩ := List.infix_iff_prefix_suffix.1 hin
    have hnone := h _ ((List.mem_tails _ _).2 hsuf)
    rw [placeholderAt?_placeholder hn] at hnone
    cases hnone

instance : DecidablePred Plain := fun s => decidable_of_iff _ (plain_iff s).symm

/-! ## Segments are copied -/

/-- A text without a placeholder, followed by a `{` or by nothing, is copied, and the walk
goes on after it. -/
theorem substitute_append_of_plain (ctx : TemplateContext) {s : List Char} (hs : Plain s)
    {r : List Char} (hr : ∀ c ∈ r.head?, c = '\x7b') :
    substitute (placeholderMatch ctx) (s ++ r) = s ++ substitute (placeholderMatch ctx) r := by
  induction s with
  | nil => rfl
  | cons c s ih =>
    -- no placeholder starts at `c`: it would lie within `c :: s`
    have hnone : placeholderMatch ctx (c :: (s ++ r)) = none := by
      cases hp : placeholderAt? (c :: s ++ r) with
      | none => simp only [placeholderMatch, ← List.cons_append, hp]
      | some p =>
        obtain ⟨name, rest⟩ := p
        exfalso
        have hr' : ∀ x ∈ r.head?, x ≠ '$' ∧ isNameChar x = false ∧ x ≠ '\x7d' := by
          intro x hx
          obtain rfl := hr x hx
          decide
        obtain ⟨u, hu, -⟩ := placeholderAt?_append_eq_some (List.cons_ne_nil c s) hr' hp
        obtain ⟨hne, hall, -⟩ := (placeholderAt?_eq_some_iff _ _ _).1 hp
        refine hs (String.ofList name) (isName_ofList hne hall) ⟨[], u, ?_⟩
        rw [hu, toList_placeholder, String.toList_ofList]
        simp
    have hplain : Plain s := fun name hn hin => hs name hn (hin.trans (List.suffix_cons c s).isInfix)
    rw [List.cons_append, substitute_cons_of_none hnone, ih hplain, List.cons_append]

/-- A placeholder is replaced by what `fill` gives for it, and the walk goes on after it. -/
theorem substitute_placeholder_append (ctx : TemplateContext) {name : String} (hn : IsName name)
    (r : List Char) :
    substitute (placeholderMatch ctx) ((placeholder name).toList ++ r) =
      (fill ctx name).toList ++ substitute (placeholderMatch ctx) r := by
  have hmatch : placeholderMatch ctx ((placeholder name).toList ++ r) =
      some ((fill ctx name).toList, r) := by
    simp only [placeholderMatch, placeholderAt?_placeholder hn, String.ofList_toList, fill]
    cases ctx.get? name <;> simp [toList_placeholder]
  rw [toList_placeholder, List.cons_append, List.cons_append] at hmatch ⊢
  rw [substitute_cons_of_some hmatch (by simp; omega)]

/-! ## Rendering a template -/

/-- A template made of a segment and placeholders each followed by a segment. -/
def interleave (s₀ : String) (ps : List (String × String)) : String :=
  s₀ ++ String.join (ps.map fun p => placeholder p.1 ++ p.2)

/-- The same segments with each placeholder filled. -/
def filled (ctx : TemplateContext) (s₀ : String) (ps : List (String × String)) : String :=
  s₀ ++ String.join (ps.map fun p => fill ctx p.1 ++ p.2)

theorem toList_interleave (s₀ : String) (ps : List (String × String)) :
    (interleave s₀ ps).toList = s₀.toList ++ (ps.flatMap fun p => (placeholder p.1).toList ++ p.2.toList) := by
  simp [interleave, String.toList_join, List.flatMap_map]

theorem toList_filled (ctx : TemplateContext) (s₀ : String) (ps : List (String × String)) :
    (filled ctx s₀ ps).toList = s₀.toList ++ (ps.flatMap fun p => (fill ctx p.1).toList ++ p.2.toList) := by
  simp [filled, String.toList_join, List.flatMap_map]

/-- Rendering copies every segment and replaces every placeholder by its name's value, or
keeps it when the name has none; values are not scanned again. -/
theorem render_fills_placeholders_once (ctx : TemplateContext) (s₀ : String)
    (ps : List (String × String)) (h₀ : Plain s₀.toList)
    (hps : ∀ p ∈ ps, IsName p.1 ∧ Plain p.2.toList) :
    ctx.render (interleave s₀ ps) = filled ctx s₀ ps := by
  rw [render_eq, ← String.toList_inj, String.toList_ofList, toList_interleave, toList_filled]
  -- induction on the placeholders, the segment before the first one generalised
  induction ps generalizing s₀ with
  | nil =>
    have hend : ∀ c ∈ ([] : List Char).head?, c = '\x7b' := by simp
    simpa [substitute_nil] using substitute_append_of_plain ctx h₀ hend
  | cons p ps ih =>
    obtain ⟨hname, hseg⟩ := hps p List.mem_cons_self
    have hopen : ∀ r, ∀ c ∈ ((placeholder p.1).toList ++ r).head?, c = '\x7b' := by
      simp [toList_placeholder]
    simp only [List.flatMap_cons, List.append_assoc]
    rw [substitute_append_of_plain ctx h₀ (hopen _), substitute_placeholder_append ctx hname,
      ih p.2 hseg fun q hq => hps q (List.mem_cons_of_mem p hq)]

/-- A segment that ends in `{$` or starts with `}` is copied as it is, and a value holding a
placeholder is not filled in turn. -/
theorem dangling_braces_and_placeholder_values :
    Plain "\x7b$".toList ∧
      (∀ p ∈ [("comment", "\x7d\x7b$a"), ("className", "\x7d")], IsName p.1 ∧ Plain p.2.toList) ∧
      (⟨[("comment", "\x7b$className\x7d"), ("className", "LoginTest")]⟩ : TemplateContext).render
          (interleave "\x7b$" [("comment", "\x7d\x7b$a"), ("className", "\x7d")]) =
        filled ⟨[("comment", "\x7b$className\x7d"), ("className", "LoginTest")]⟩ "\x7b$"
          [("comment", "\x7d\x7b$a"), ("className", "\x7d")] :=
  ⟨by decide, by decide, render_fills_placeholders_once _ _ _ (by decide) (by decide)⟩

example : filled ⟨[("comment", "\x7b$className\x7d"), ("className", "LoginTest")]⟩ "\x7b$"
    [("comment", "\x7d\x7b$a"), ("className", "\x7d")] =
      "\x7b$\x7b$className\x7d\x7d\x7b$aLoginTest\x7d" := by
  decide

end Transcribe.TemplateContext
