import Transcribe.Text.Blank
import Transcribe.Text.Word
import Transcribe.Text.Caseless
import Transcribe.Text.Search
/-!
# `Markup.Tag` — finding tags in a recorded document

The reader does not build a document tree. It looks for tags by name, in any case
(`Text.Caseless`), and cuts the text between them:

* an *opening tag* `<name …>` is `<`, the name, a word boundary (the next character
  is no word character, or there is none), then anything up to the first `>`;
* a *stop* of an element is either an end tag `</name` or the opening `<name` of a
  sibling, for one of a list of names, again at a word boundary; the text of an
  element runs up to its first stop;
* a *closing tag* `</name>` may hold blanks before its `>`.

`elements` collects the content of every element with a given opening tag. End tags
are optional: an element without one runs until a sibling opens, and then loses its
trailing blanks; a self-closing `<name …/>` is empty; an element whose stop is missing
runs to the end of the text. Every step of the walk starts strictly after an opening
tag, so the walk ends (`length_rest_findOpenTag?`).
-/

namespace Transcribe.Markup

open Transcribe.Text

/-- An opening tag found in a text. -/
structure OpenTag where
  /-- The text between the tag's name and its `>`. -/
  attrs : List Char
  /-- The text after the `>`. -/
  rest : List Char
  deriving DecidableEq, Repr

/-- A tag that ends in `/>` has no content. -/
def OpenTag.selfClosing (t : OpenTag) : Bool := t.attrs.getLast? == some '/'

/-- The text after `<name` at the front of a text, when the name ends at a word boundary. -/
def tagHead? (name : List Char) : List Char → Option (List Char)
  | '<' :: cs => (stripCaseless name cs).filter boundaryAhead
  | _ => none

/-- An opening tag `<name …>` at the front of a text. -/
def openTagAt? (name : List Char) (cs : List Char) : Option OpenTag :=
  match tagHead? name cs with
  | some r =>
    match r.dropWhile (· != '>') with
    | '>' :: rest => some ⟨r.takeWhile (· != '>'), rest⟩
    | _ => none
  | none => none

/-- The first opening tag `<name …>` of a text. -/
def findOpenTag? (name : List Char) (cs : List Char) : Option OpenTag :=
  firstMatch (openTagAt? name) cs

/-- Where an element's content stops. -/
inductive Stop where
  /-- At an end tag `</name`; holds the text right after the name. -/
  | endTag (after : List Char)
  /-- At the opening `<name` of a sibling; holds the text from its `<`. -/
  | sibling (start : List Char)
  deriving DecidableEq, Repr

/-- The text from which the walk goes on after a stop. -/
def Stop.rest : Stop → List Char
  | .endTag after => after
  | .sibling start => start

/-- The text after the first of `names` that starts `cs` and ends at a word boundary. -/
def nameAhead? (names : List (List Char)) (cs : List Char) : Option (List Char) :=
  names.findSome? fun n => (stripCaseless n cs).filter boundaryAhead

/-- A stop at the front of a text. The names begin with a letter, so a `/` after the
`<` can only be the slash of an end tag. -/
def stopAt? (names : List (List Char)) : List Char → Option Stop
  | '<' :: '/' :: cs => (nameAhead? names cs).map Stop.endTag
  | '<' :: cs => (nameAhead? names cs).map fun _ => Stop.sibling ('<' :: cs)
  | _ => none

/-- The first stop of a text, with the text before it. -/
def findStop? (names : List (List Char)) : List Char → Option (List Char × Stop)
  | [] => none
  | c :: cs =>
    match stopAt? names (c :: cs) with
    | some s => some ([], s)
    | none => (findStop? names cs).map fun (before, s) => (c :: before, s)

/-- A closing tag `</name>`, with blanks allowed before the `>`, at the front of a text:
the text after it. -/
def closingTagAt? (name : List Char) : List Char → Option (List Char)
  | '<' :: '/' :: cs =>
    match stripCaseless name cs with
    | some r =>
      match r.dropWhile isBlank with
      | '>' :: rest => some rest
      | _ => none
    | none => none
  | _ => none

/-- The text before the first closing tag `</name>` and the text after it. -/
def splitAtClosingTag? (name : List Char) : List Char → Option (List Char × List Char)
  | [] => none
  | c :: cs =>
    match closingTagAt? name (c :: cs) with
    | some rest => some ([], rest)
    | none => (splitAtClosingTag? name cs).map fun (before, rest) => (c :: before, rest)

theorem length_tagHead? {name cs r : List Char} (h : tagHead? name cs = some r) :
    r.length < cs.length := by
  unfold tagHead? at h
  split at h
  · rename_i cs
    simp only [Option.filter_eq_some_iff] at h
    have := length_stripCaseless h.1
    simp; omega
  · simp at h

theorem length_rest_openTagAt? {name cs : List Char} {t : OpenTag}
    (h : openTagAt? name cs = some t) : t.rest.length < cs.length := by
  unfold openTagAt? at h
  split at h
  · rename_i r hr
    have hlt := length_tagHead? hr
    split at h
    · rename_i rest hd
      simp only [Option.some.injEq] at h
      subst h
      have hle : (r.dropWhile (· != '>')).length ≤ r.length :=
        (List.dropWhile_suffix _).length_le
      rw [hd] at hle
      simp at hle ⊢
      omega
    · simp at h
  · simp at h

theorem length_rest_firstMatch {m : List Char → Option OpenTag}
    (hm : ∀ cs t, m cs = some t → t.rest.length < cs.length) :
    ∀ {cs : List Char} {t : OpenTag}, firstMatch m cs = some t → t.rest.length < cs.length := by
  intro cs
  induction cs with
  | nil => intro t h; exact hm _ _ h
  | cons c cs ih =>
    intro t h
    simp only [firstMatch] at h
    split at h
    · rename_i a ha
      simp only [Option.some.injEq] at h
      subst h
      exact hm _ _ ha
    · have := ih h; simp; omega

/-- The walk after an opening tag starts on a shorter text. -/
theorem length_rest_findOpenTag? {name cs : List Char} {t : OpenTag}
    (h : findOpenTag? name cs = some t) : t.rest.length < cs.length :=
  length_rest_firstMatch (fun _ _ => length_rest_openTagAt?) h

theorem length_rest_stopAt? {names : List (List Char)} {cs : List Char} {s : Stop}
    (h : stopAt? names cs = some s) : s.rest.length ≤ cs.length := by
  unfold stopAt? at h
  split at h
  · rename_i cs'
    obtain ⟨r, hr, rfl⟩ := Option.map_eq_some_iff.1 h
    obtain ⟨n, _, hn⟩ := List.exists_of_findSome?_eq_some hr
    simp only [Option.filter_eq_some_iff] at hn
    have := length_stripCaseless hn.1
    simp [Stop.rest]; omega
  · obtain ⟨r, _, rfl⟩ := Option.map_eq_some_iff.1 h
    simp [Stop.rest]
  · simp at h

/-- The walk after a stop starts on a text no longer than the one searched. -/
theorem length_rest_findStop? {names : List (List Char)} :
    ∀ {cs before : List Char} {s : Stop}, findStop? names cs = some (before, s) →
      s.rest.length ≤ cs.length := by
  intro cs
  induction cs with
  | nil => intro _ _ h; simp [findStop?] at h
  | cons c cs ih =>
    intro before s h
    simp only [findStop?] at h
    split at h
    · rename_i s' hs
      simp only [Option.some.injEq, Prod.mk.injEq] at h
      obtain ⟨-, rfl⟩ := h
      exact length_rest_stopAt? hs
    · obtain ⟨⟨b, s'⟩, hb, he⟩ := Option.map_eq_some_iff.1 h
      simp only [Prod.mk.injEq] at he
      obtain ⟨-, rfl⟩ := he
      have := ih hb; simp; omega

set_option linter.unusedVariables false in
/-- The content of every element opened by `<name …>`, in document order. `stops` names
the tags at which an element's content stops. -/
def elements (name : List Char) (stops : List (List Char)) (text : List Char) :
    List (List Char) :=
  match h : findOpenTag? name text with
  | none => []
  | some t =>
    if t.selfClosing then [] :: elements name stops t.rest
    else
      match h' : findStop? stops t.rest with
      | some (inner, .endTag after) => inner :: elements name stops after
      | some (inner, .sibling start) => trimEnd inner :: elements name stops start
      | none => trimEnd t.rest :: elements name stops t.rest
termination_by text.length
decreasing_by
  all_goals have h1 := length_rest_findOpenTag? h
  · exact h1
  · have h2 := length_rest_findStop? h'; simp [Stop.rest] at h2; omega
  · have h2 := length_rest_findStop? h'; simp [Stop.rest] at h2; omega
  · exact h1

end Transcribe.Markup
