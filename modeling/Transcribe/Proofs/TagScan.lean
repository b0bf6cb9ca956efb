import Mathlib.Data.List.Infix
import Mathlib.Data.List.DropRight
import Transcribe.Proofs.ElementWalk
import Transcribe.Script.Document
/-!
# `Proofs.TagScan` — the element walk takes one piece of text per opening tag, in order

`Markup.elements` walks a text: it finds the next opening tag `<name …>`, takes the element's
content after it, and goes on from where that content stops. This module holds the walk
against the plain left-to-right scan of the opening tags (`openTags`: each one is the first
found after the `>` of the one before), on every text.

## What is proved

`elements_step`: a step of the walk that finds a tag gives one piece and goes on from a point
at or after the end of that tag, so every step advances by at least the tag it found.
`pairwise_openTags`, `suffix_of_mem_openTags`: the tags of the scan lie in the text, each
ending strictly after the one before.
`forall₂_elements_openTags`: when the element's own name is one of the names its content stops
at and the names are made of letters (`StopNames`), the walk gives exactly one piece per tag of
the scan, and the piece of a tag is a prefix of the text after its `>` in which no other
opening tag starts (`ContentOf`).
`table_walks_in_order`: all of this for the row walk and the cell walk of a table.

## How

A stop is found at the first place where one can start (`findStop?_eq_some`), and an opening
tag of a name among the stops starts such a place (`openTagAt?_eq_none_of_stopAt?`): so no
opening tag starts before the stop, and the scan from the stop finds the same tag as the scan
from the end of the last tag (`firstMatch_drop`). An end tag, `</` and a name of letters, holds
no `<` but its first and cannot open an element, so the scan passes over it
(`silent_endTag`).
-/

namespace Transcribe.Text

/-- Stripping a word leaves the text after the characters that matched it, each matched by a
character of the word. -/
theorem stripCaseless_eq_some_append {w cs r : List Char} (h : stripCaseless w cs = some r) :
    ∃ u, cs = u ++ r ∧ ∀ c ∈ u, ∃ p ∈ w, matchesCaseless p c = true := by
  induction w generalizing cs with
  | nil =>
    simp only [stripCaseless, Option.some.injEq] at h
    exact ⟨[], by simp [h], by simp⟩
  | cons p ps ih =>
    cases cs with
    | nil => simp [stripCaseless] at h
    | cons c cs =>
      simp only [stripCaseless] at h
      split at h
      · rename_i hpc
        obtain ⟨u, rfl, hu⟩ := ih h
        refine ⟨c :: u, rfl, fun d hd => ?_⟩
        rcases List.mem_cons.1 hd with rfl | hd
        · exact ⟨p, List.mem_cons_self, hpc⟩
        · obtain ⟨q, hq, hqd⟩ := hu d hd
          exact ⟨q, List.mem_cons_of_mem p hq, hqd⟩
      · cases h

theorem trimEnd_isPrefix (cs : List Char) : trimEnd cs <+: cs := by
  rw [trimEnd_eq_rdropWhile]
  exact List.rdropWhile_prefix _ _

end Transcribe.Text

namespace Transcribe.Markup

open Transcribe.Text

/-! ## Where the scanners find what they find -/

theorem tagHead?_eq_some {name cs r : List Char} (h : tagHead? name cs = some r) :
    ∃ cs', cs = '<' :: cs' ∧ stripCaseless name cs' = some r ∧ boundaryAhead r = true := by
  unfold tagHead? at h
  split at h
  · rename_i cs'
    simp only [Option.filter_eq_some_iff] at h
    exact ⟨cs', rfl, h⟩
  · cases h

theorem tagHead?_of_openTagAt? {name cs : List Char} {t : OpenTag}
    (h : openTagAt? name cs = some t) : ∃ r, tagHead? name cs = some r ∧ t.rest <:+ r := by
  unfold openTagAt? at h
  split at h
  · rename_i r hr
    split at h
    · rename_i rest hd
      simp only [Option.some.injEq] at h
      subst h
      refine ⟨r, hr, ?_⟩
      have hsuf : '>' :: rest <:+ r := hd ▸ List.dropWhile_suffix _
      exact (List.suffix_cons '>' rest).trans hsuf
    · cases h
  · cases h

/-- The text after an opening tag is a part of the text it was found at. -/
theorem rest_suffix_openTagAt? {name cs : List Char} {t : OpenTag}
    (h : openTagAt? name cs = some t) : t.rest <:+ cs := by
  obtain ⟨r, hr, hrest⟩ := tagHead?_of_openTagAt? h
  obtain ⟨cs', rfl, hstrip, -⟩ := tagHead?_eq_some hr
  obtain ⟨u, rfl, -⟩ := stripCaseless_eq_some_append hstrip
  exact hrest.trans ((List.suffix_append u r).trans (List.suffix_cons '<' _))

theorem rest_suffix_findOpenTag? {name cs : List Char} {t : OpenTag}
    (h : findOpenTag? name cs = some t) : t.rest <:+ cs := by
  obtain ⟨s, hs, hm⟩ := firstMatch_eq_some h
  exact (rest_suffix_openTagAt? hm).trans hs

/-- A stop is found at the first place where one starts, after the text it returns. -/
theorem findStop?_eq_some {names : List (List Char)} :
    ∀ {cs before : List Char} {s : Stop}, findStop? names cs = some (before, s) →
      ∃ rest, cs = before ++ rest ∧ stopAt? names rest = some s ∧
        ∀ k < before.length, stopAt? names (cs.drop k) = none := by
  intro cs
  induction cs with
  | nil => intro _ _ h; simp [findStop?] at h
  | cons c cs ih =>
    intro before s h
    simp only [findStop?] at h
    split at h
    · rename_i s' hs
      simp only [Option.some.injEq, Prod.mk.injEq] at h
      obtain ⟨rfl, rfl⟩ := h
      exact ⟨c :: cs, rfl, hs, fun k hk => absurd hk (Nat.not_lt_zero k)⟩
    · rename_i hs
      obtain ⟨⟨b, s'⟩, hb, he⟩ := Option.map_eq_some_iff.1 h
      simp only [Prod.mk.injEq] at he
      obtain ⟨rfl, rfl⟩ := he
      obtain ⟨rest, rfl, hrest, hbefore⟩ := ih hb
      refine ⟨rest, rfl, hrest, fun k hk => ?_⟩
      cases k with
      | zero => exact hs
      | succ k => exact hbefore k (by simp at hk; omega)

theorem findStop?_eq_none {names : List (List Char)} :
    ∀ {cs : List Char}, findStop? names cs = none → ∀ k, stopAt? names (cs.drop k) = none := by
  intro cs
  induction cs with
  | nil => intro _ k; simp [stopAt?]
  | cons c cs ih =>
    intro h k
    simp only [findStop?] at h
    split at h
    · cases h
    · rename_i hs
      cases k with
      | zero => exact hs
      | succ k => exact ih (Option.map_eq_none_iff.1 h) k

/-- An end-tag stop is `</`, the characters that matched one of the names, and the text after. -/
theorem stopAt?_endTag {names : List (List Char)} {cs after : List Char}
    (h : stopAt? names cs = some (.endTag after)) :
    ∃ n ∈ names, ∃ u, cs = '<' :: '/' :: (u ++ after) ∧ ∀ c ∈ u, ∃ p ∈ n, matchesCaseless p c = true := by
  unfold stopAt? at h
  split at h
  · rename_i cs'
    obtain ⟨r, hr, he⟩ := Option.map_eq_some_iff.1 h
    cases he
    obtain ⟨n, hn, hnr⟩ := List.exists_of_findSome?_eq_some hr
    simp only [Option.filter_eq_some_iff] at hnr
    obtain ⟨u, rfl, hu⟩ := stripCaseless_eq_some_append hnr.1
    exact ⟨n, hn, u, rfl, hu⟩
  · obtain ⟨_, _, he⟩ := Option.map_eq_some_iff.1 h
    cases he
  · cases h

/-- A sibling stop is where the walk goes on from. -/
theorem stopAt?_sibling {names : List (List Char)} {cs start : List Char}
    (h : stopAt? names cs = some (.sibling start)) : start = cs := by
  unfold stopAt? at h
  split at h
  · obtain ⟨_, _, he⟩ := Option.map_eq_some_iff.1 h
    cases he
  · obtain ⟨_, _, he⟩ := Option.map_eq_some_iff.1 h
    cases he
    rfl
  · cases h

/-! ## Names the walk can rely on -/

/-- What the walk over the elements `name`, stopping at `stops`, relies on: the element's own
name is a stop, its first character does not match `/`, and no character of a stop matches
`<`. Rows and cells are such. -/
structure StopNames (name : List Char) (stops : List (List Char)) : Prop where
  name_mem : name ∈ stops
  not_slash : ∀ cs, stripCaseless name ('/' :: cs) = none
  not_lt : ∀ n ∈ stops, ∀ p ∈ n, matchesCaseless p '<' = false

theorem stopNames_of_all {name : List Char} {stops : List (List Char)} (hmem : name ∈ stops)
    (hslash : ∀ cs, stripCaseless name ('/' :: cs) = none)
    (hlt : stops.all (·.all fun p => !matchesCaseless p '<') = true) : StopNames name stops where
  name_mem := hmem
  not_slash := hslash
  not_lt n hn p hp := by
    have := List.all_eq_true.1 (List.all_eq_true.1 hlt n hn) p hp
    simpa using this

theorem stopNames_row : StopNames "tr".toList rowStops :=
  stopNames_of_all List.mem_cons_self (fun _ => rfl) rfl

theorem stopNames_cell : StopNames "td".toList cellStops :=
  stopNames_of_all List.mem_cons_self (fun _ => rfl) rfl

section Names
variable {name : List Char} {stops : List (List Char)}

/-- Where no stop starts, no opening tag starts: `<name` is itself a stop. -/
theorem openTagAt?_eq_none_of_stopAt? (hs : StopNames name stops) {cs : List Char}
    (h : stopAt? stops cs = none) : openTagAt? name cs = none := by
  cases ho : openTagAt? name cs with
  | none => rfl
  | some t =>
    exfalso
    obtain ⟨r, hr, -⟩ := tagHead?_of_openTagAt? ho
    obtain ⟨cs', rfl, hstrip, hb⟩ := tagHead?_eq_some hr
    have hahead : (nameAhead? stops cs').isSome = true :=
      List.findSome?_isSome_iff.2 ⟨name, hs.name_mem, by simp [hstrip, Option.filter, hb]⟩
    -- after the `<` comes the name, so not the `/` of an end tag: the stop is a sibling's
    have hsib : ∀ cs'', cs' = '/' :: cs'' → False := by
      rintro cs'' rfl
      rw [hs.not_slash] at hstrip
      cases hstrip
    rw [stopAt?.eq_2 _ _ hsib, Option.map_eq_none_iff] at h
    simp [h] at hahead

/-- `</` and the characters of a stop's name: the scan for opening tags passes over it. -/
theorem silent_endTag (hs : StopNames name stops) {n u : List Char} (hn : n ∈ stops)
    (hu : ∀ c ∈ u, ∃ p ∈ n, matchesCaseless p c = true) :
    Silent (openTagAt? name) ('<' :: '/' :: u) := by
  have hlt : '<' ∉ '/' :: u := by
    intro hmem
    rcases List.mem_cons.1 hmem with h | h
    · cases h
    · obtain ⟨p, hp, hpc⟩ := hu '<' h
      rw [hs.not_lt n hn p hp] at hpc
      cases hpc
  refine (guarded_openTagAt? name).silent_tag hlt fun ys => ?_
  simp [openTagAt?, tagHead?, hs.not_slash]

end Names

/-! ## The opening tags of a text -/

set_option linter.unusedVariables false in
/-- The opening tags `<name …>` of a text, left to right: each is the first one found after
the `>` of the one before. -/
def openTags (name : List Char) (text : List Char) : List OpenTag :=
  match h : findOpenTag? name text with
  | none => []
  | some t => t :: openTags name t.rest
termination_by text.length
decreasing_by exact length_rest_findOpenTag? h

section Tags
variable {name : List Char} {text : List Char} {t : OpenTag}

theorem openTags_of_none (h : findOpenTag? name text = none) : openTags name text = [] := by
  rw [openTags]
  split
  · rfl
  · simp_all

theorem openTags_of_some (h : findOpenTag? name text = some t) :
    openTags name text = t :: openTags name t.rest := by
  rw [openTags]
  split
  · simp_all
  · rename_i t' h'
    obtain rfl : t' = t := by simp_all
    rfl

/-- The scan depends on its text only through the first opening tag found in it. -/
theorem openTags_congr {text' : List Char} (h : findOpenTag? name text = findOpenTag? name text') :
    openTags name text = openTags name text' := by
  cases ho : findOpenTag? name text' with
  | none => rw [openTags_of_none (h.trans ho), openTags_of_none ho]
  | some t => rw [openTags_of_some (h.trans ho), openTags_of_some ho]

/-- Every tag of the scan ends strictly inside the text: what follows it is a shorter part of
the text. -/
theorem suffix_of_mem_openTags (ht : t ∈ openTags name text) :
    t.rest <:+ text ∧ t.rest.length < text.length := by
  fun_induction openTags name text with
  | case1 x h => simp at ht
  | case2 x t' h ih =>
    rcases List.mem_cons.1 ht with rfl | ht
    · exact ⟨rest_suffix_findOpenTag? h, length_rest_findOpenTag? h⟩
    · obtain ⟨hsuf, hlt⟩ := ih ht
      exact ⟨hsuf.trans (rest_suffix_findOpenTag? h),
        lt_trans hlt (length_rest_findOpenTag? h)⟩

/-- The tags of the scan come in document order, each ending after the one before. -/
theorem pairwise_openTags :
    (openTags name text).Pairwise fun a b => b.rest.length < a.rest.length := by
  fun_induction openTags name text with
  | case1 x h => exact List.Pairwise.nil
  | case2 x t h ih =>
    exact List.Pairwise.cons (fun b hb => (suffix_of_mem_openTags hb).2) ih

end Tags

/-! ## The walk against the scan -/

/-- `e` is a piece of text that the walk may give for the element opened by `t`: it starts
right after the tag's `>`, and no other opening tag starts inside it. -/
def ContentOf (name : List Char) (e : List Char) (t : OpenTag) : Prop :=
  e <+: t.rest ∧ ∀ k < e.length, openTagAt? name (t.rest.drop k) = none

theorem ContentOf.of_isPrefix {name e e' : List Char} {t : OpenTag} (h : ContentOf name e t)
    (he : e' <+: e) : ContentOf name e' t :=
  ⟨he.trans h.1, fun k hk => h.2 k (lt_of_lt_of_le hk he.length_le)⟩

theorem contentOf_nil (name : List Char) (t : OpenTag) : ContentOf name [] t :=
  ⟨List.nil_prefix, fun k hk => absurd hk (Nat.not_lt_zero k)⟩

section Walk
variable {name : List Char} {stops : List (List Char)} {text : List Char} {t : OpenTag}

/-- The text before the first stop after a tag is content of it, and the scan from the stop
finds the tag the scan from the end of the tag finds. -/
theorem findStop?_contentOf (hs : StopNames name stops) {inner : List Char} {s : Stop}
    (h : findStop? stops t.rest = some (inner, s)) :
    ∃ rest, stopAt? stops rest = some s ∧ rest <:+ t.rest ∧ ContentOf name inner t ∧
      findOpenTag? name t.rest = findOpenTag? name rest := by
  obtain ⟨rest, hsplit, hrest, hbefore⟩ := findStop?_eq_some h
  have hc : ContentOf name inner t :=
    ⟨⟨rest, hsplit.symm⟩, fun k hk => openTagAt?_eq_none_of_stopAt? hs (hbefore k hk)⟩
  refine ⟨rest, hrest, ⟨inner, hsplit.symm⟩, hc, ?_⟩
  rw [findOpenTag?, firstMatch_drop hc.2, hsplit, List.drop_left]
  rfl

/-- One step of the walk: after the tag `t` it gives a piece of content of `t`, and goes on
from a point at or after the end of `t` from which the scan finds the tag the scan from the end
of `t` finds. -/
theorem elements_step (hs : StopNames name stops) (h : findOpenTag? name text = some t) :
    ∃ e r, elements name stops text = e :: elements name stops r ∧ ContentOf name e t ∧
      r <:+ t.rest ∧ findOpenTag? name r = findOpenTag? name t.rest := by
  cases hsc : t.selfClosing with
  | true =>
    exact ⟨[], t.rest, elements_of_selfClosing h hsc, contentOf_nil name t, List.suffix_refl _, rfl⟩
  | false =>
    rcases hstop : findStop? stops t.rest with _ | ⟨inner, after | start⟩
    · -- no stop: then no opening tag either, and the element runs to the end of the text
      have hc : ContentOf name t.rest t :=
        ⟨List.prefix_refl _, fun k _ => openTagAt?_eq_none_of_stopAt? hs (findStop?_eq_none hstop k)⟩
      exact ⟨trimEnd t.rest, t.rest, elements_of_findStop?_eq_none h hsc hstop,
        hc.of_isPrefix (trimEnd_isPrefix _), List.suffix_refl _, rfl⟩
    · obtain ⟨rest, hrest, hsuf, hc, hfind⟩ := findStop?_contentOf hs hstop
      obtain ⟨n, hn, u, rfl, hu⟩ := stopAt?_endTag hrest
      refine ⟨inner, after, elements_of_endTag h hsc hstop, hc, ?_, ?_⟩
      · exact (List.suffix_append ('<' :: '/' :: u) after).trans hsuf
      · rw [hfind]
        exact (firstMatch_append_of_silent (silent_endTag hs hn hu) after).symm
    · obtain ⟨rest, hrest, hsuf, hc, hfind⟩ := findStop?_contentOf hs hstop
      obtain rfl := stopAt?_sibling hrest
      exact ⟨trimEnd inner, start, elements_of_sibling h hsc hstop,
        hc.of_isPrefix (trimEnd_isPrefix _), hsuf, hfind.symm⟩

/-- The walk gives one piece per tag of the scan, in order, each a piece of content of its
tag. -/
theorem forall₂_elements_openTags (hs : StopNames name stops) (text : List Char) :
    List.Forall₂ (ContentOf name) (elements name stops text) (openTags name text) := by
  cases ho : findOpenTag? name text with
  | none =>
    rw [elements_of_findOpenTag?_eq_none ho, openTags_of_none ho]
    exact List.Forall₂.nil
  | some t =>
    obtain ⟨e, r, he, hc, hr, hfind⟩ := elements_step hs ho
    have : r.length < text.length := lt_of_le_of_lt hr.length_le (length_rest_findOpenTag? ho)
    rw [he, openTags_of_some ho, ← openTags_congr hfind]
    exact List.Forall₂.cons hc (forall₂_elements_openTags hs r)
termination_by text.length

/-- Pieces of content of tags that lie in a text lie in the text. -/
theorem infix_of_forall₂_contentOf {es : List (List Char)} {ts : List OpenTag}
    (h : List.Forall₂ (ContentOf name) es ts) (hts : ∀ t ∈ ts, t.rest <:+ text) :
    ∀ e ∈ es, e <:+: text := by
  induction h with
  | nil => simp
  | cons hc _ ih =>
    intro e he
    rcases List.mem_cons.1 he with rfl | he
    · exact hc.1.isInfix.trans (hts _ List.mem_cons_self).isInfix
    · exact ih (fun t ht => hts t (List.mem_cons_of_mem _ ht)) e he

end Walk

/-- What the walk over the elements `name`, stopping at `stops`, does on a text. -/
structure WalksInOrder (name : List Char) (stops : List (List Char)) (text : List Char) : Prop where
  /-- A step that finds a tag passes at least one character, and goes on at or after the
  tag's end. -/
  advances : ∀ t, findOpenTag? name text = some t → t.rest.length < text.length ∧
    ∃ e r, elements name stops text = e :: elements name stops r ∧ r <:+ t.rest
  /-- The opening tags come in document order. -/
  tags_ordered : (openTags name text).Pairwise fun a b => b.rest.length < a.rest.length
  /-- The opening tags lie in the text. -/
  tags_inside : ∀ t ∈ openTags name text, t.rest <:+ text
  /-- Every piece the walk gives is a piece of the text. -/
  pieces_inside : ∀ e ∈ elements name stops text, e <:+: text
  /-- One piece per opening tag, right after the tag, with no other opening tag in it. -/
  pieces_follow_tags : List.Forall₂ (ContentOf name) (elements name stops text) (openTags name text)

theorem walksInOrder_of_stopNames {name : List Char} {stops : List (List Char)}
    (hs : StopNames name stops) (text : List Char) : WalksInOrder name stops text where
  advances t h := by
    obtain ⟨e, r, he, -, hr, -⟩ := elements_step hs h
    exact ⟨length_rest_findOpenTag? h, e, r, he, hr⟩
  tags_ordered := pairwise_openTags
  tags_inside _ ht := (suffix_of_mem_openTags ht).1
  pieces_inside := infix_of_forall₂_contentOf (forall₂_elements_openTags hs text)
    fun _ ht => (suffix_of_mem_openTags ht).1
  pieces_follow_tags := forall₂_elements_openTags hs text

/-- The row walk and the cell walk of a table each give one piece of the text per opening tag,
in document order, every step passing the tag it found. -/
theorem table_walks_in_order (text : List Char) :
    WalksInOrder "tr".toList rowStops text ∧ WalksInOrder "td".toList cellStops text :=
  ⟨walksInOrder_of_stopNames stopNames_row text, walksInOrder_of_stopNames stopNames_cell text⟩

end Transcribe.Markup
