import Mathlib.Data.List.Nodup
import Transcribe.Proofs.MethodBody
/-!
# `Proofs.ContextMap` — a template context built by `set` is a finite map

A template context keeps its values as a list of names and values; `set` replaces the value of
the first entry of a name that is there and appends a name that is not. This module says what
a run of `set` calls from the empty context builds (`ofSets`), whatever the calls.

## What is proved

`nodup_names_ofSets`: no name is stored twice.
`get?_ofSets`: a name answers with the value of its last `set` in the run, and with nothing
when the run never set it (`lastSet?`).
`render_congr`: rendering reads a context only through `get?`.
`ofSets_is_finite_map`: all three together: the run builds a finite map, and what a template
renders into depends only on the last value set for each name, not on the order in which
distinct names were set.

## How

A step lemma for each property (`nodup_names_set`, `get?_set`), carried along the run by
induction on its calls: forwards for the names, from the last call back for the values.
-/

namespace Transcribe.TemplateContext

/-- The context that a run of `set` calls builds from the empty one. -/
def ofSets (sets : List (String × String)) : TemplateContext :=
  sets.foldl (fun ctx s => ctx.set s.1 s.2) {}

/-- The value that the last `set` of a name in a run of calls gave it. -/
def lastSet? (sets : List (String × String)) (name : String) : Option String :=
  (sets.filter (·.1 == name)).getLast?.map Prod.snd

theorem ofSets_append_singleton (sets : List (String × String)) (s : String × String) :
    ofSets (sets ++ [s]) = (ofSets sets).set s.1 s.2 := by
  simp [ofSets]

theorem lastSet?_append_singleton (sets : List (String × String)) (s : String × String)
    (name : String) :
    lastSet? (sets ++ [s]) name = if name = s.1 then some s.2 else lastSet? sets name := by
  by_cases h : name = s.1
  · subst h
    simp [lastSet?]
  · have hs : (s.1 == name) = false := beq_false_of_ne (Ne.symm h)
    simp [lastSet?, List.filter_append, hs, h]

/-! ## Names are stored once -/

/-- Setting a name keeps the names where they were, and appends the name if it is new. -/
theorem map_fst_setEntries (name value : String) (l : List (String × String)) :
    (setEntries name value l).map Prod.fst =
      if l.any (·.1 == name) then l.map Prod.fst else l.map Prod.fst ++ [name] := by
  induction l with
  | nil => simp [setEntries]
  | cons p l ih =>
    by_cases hp : (p.1 == name) = true
    · simp [setEntries, hp]
    · rw [setEntries, if_neg hp, List.map_cons, ih, List.any_cons, Bool.eq_false_iff.2 hp,
        Bool.false_or]
      split <;> simp

/-- Setting a name keeps the stored names apart: a name that is there keeps its one entry,
and a new one is appended. -/
theorem nodup_names_set {ctx : TemplateContext} (h : (ctx.entries.map Prod.fst).Nodup)
    (name value : String) : ((ctx.set name value).entries.map Prod.fst).Nodup := by
  rw [set, map_fst_setEntries]
  split
  · exact h
  · rename_i hnew
    refine List.Nodup.append h (List.nodup_singleton _) ?_
    simpa using hnew

theorem nodup_names_foldl (sets : List (String × String)) {ctx : TemplateContext}
    (h : (ctx.entries.map Prod.fst).Nodup) :
    ((sets.foldl (fun ctx s => ctx.set s.1 s.2) ctx).entries.map Prod.fst).Nodup := by
  induction sets generalizing ctx with
  | nil => exact h
  | cons s sets ih =>
    rw [List.foldl_cons]
    exact ih (nodup_names_set h s.1 s.2)

theorem nodup_names_ofSets (sets : List (String × String)) :
    ((ofSets sets).entries.map Prod.fst).Nodup :=
  nodup_names_foldl sets List.nodup_nil

/-! ## The last value set wins -/

theorem get?_ofSets (sets : List (String × String)) (name : String) :
    (ofSets sets).get? name = lastSet? sets name := by
  induction sets using List.reverseRecOn with
  | nil => rfl
  | append_singleton sets s ih =>
    rw [ofSets_append_singleton, get?_set, lastSet?_append_singleton, ih]

example : (ofSets [("browser", "*firefox"), ("browser", "*chrome")]).get? "browser" =
    some "*chrome" := by
  decide

/-! ## Rendering sees only the values -/

/-- Two contexts that answer alike for every name render every template alike. -/
theorem render_congr {ctx ctx' : TemplateContext} (h : ∀ name, ctx.get? name = ctx'.get? name)
    (template : String) : ctx.render template = ctx'.render template := by
  have hget : ctx.get? = ctx'.get? := funext h
  simp only [render, hget]

/-- After two runs of `set` calls that leave every name with the same last value, every
template renders alike. -/
theorem render_ofSets_of_lastSet? {sets sets' : List (String × String)}
    (h : ∀ name, lastSet? sets name = lastSet? sets' name) (template : String) :
    (ofSets sets).render template = (ofSets sets').render template := by
  apply render_congr
  intro name
  rw [get?_ofSets, get?_ofSets, h]

/-- A run of `set` calls from the empty context builds a finite map: no name is stored twice,
each name answers with the value of its last `set` (nothing when never set), and rendering
depends only on those last values, so not on the order of the calls for distinct names. -/
theorem ofSets_is_finite_map (sets : List (String × String)) :
    ((ofSets sets).entries.map Prod.fst).Nodup ∧
    (∀ name, (ofSets sets).get? name = lastSet? sets name) ∧
    (∀ sets', (∀ name, lastSet? sets name = lastSet? sets' name) →
      ∀ template, (ofSets sets).render template = (ofSets sets').render template) ∧
    (∀ sets', (∀ name, sets.filter (·.1 == name) = sets'.filter (·.1 == name)) →
      ∀ template, (ofSets sets).render template = (ofSets sets').render template) := by
  refine ⟨nodup_names_ofSets sets, get?_ofSets sets, fun _ => render_ofSets_of_lastSet?,
    fun sets' hsame => ?_⟩
  -- a reordering that keeps the calls of each name in order keeps each name's last call
  exact render_ofSets_of_lastSet? fun name => by rw [lastSet?, lastSet?, hsame]

end Transcribe.TemplateContext
