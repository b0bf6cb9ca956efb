import Mathlib
import Transcribe.Naming
import Transcribe.Script.Document
/-!
# `Proofs.TestNames` — where a test's name and base URL come from

A recorded test gets its name from the caller, else from its title, else from a default, and
its base URL from the caller, else from its first link, else from a default
(`Script.read`). A title becomes a name character by character (`normalizeTitle`); the class
and test method are named after it (`TestNames.of`).

## What is proved

`normalizeTitle_maps_positions`: the name has as many characters as the title, and its
character at position `i` is `_` where the title's is not an ASCII letter or digit, the
title's in upper case where `i` starts a word (it is `0`, or the title's previous character
is a space, tab, carriage return, line feed, vertical tab or form feed), and the title's
otherwise. Hence naming is idempotent. The method name `test…` is always an identifier
`[A-Za-z_][A-Za-z0-9_]*`; the class name `…Test` is one exactly when the title does not start
with a digit: naming keeps every ASCII letter and digit, the first one too, so a title such
as `2fa login` names the class `2fa_LoginTest` (`digit_title_names_no_class`).

`testName_and_baseUrl_fall_back`: a document with a table is read. Its test name is the
first non-empty of the caller's name and the title's name, else the default. Its base URL is
the first non-empty of the caller's URL and the first link's `href`, else the default, but
for one case: a link whose `href` is empty gives the empty base URL, although a default is at
hand (`empty_link_href_overrides_default`), since only the caller's URL is checked for
emptiness, while the test name's whole chain is.

## How

`identifierChars` carries whether the next character starts a word; it asks this of the
character after upper-casing, which changes no break and no letter-or-digit
(`isTitleBreak_toUpper`, `isAlphanum_toUpper`), so each position depends on the title's
character there and the one before (`getElem?_identifierChars`). A name holds only letters,
digits and `_`, none of which starts a word, so naming it again only upper-cases its first
character, which is already upper case.
-/

namespace Transcribe

open Transcribe.Markup

/-! ## Characters -/

/-- A character that an identifier may hold after its first: an ASCII letter, digit or `_`. -/
def isIdentifierChar (c : Char) : Bool := c.isAlphanum || c == '_'

/-- A name of the form `[A-Za-z_][A-Za-z0-9_]*`. -/
def isIdentifier (s : String) : Bool :=
  match s.toList with
  | [] => false
  | c :: cs => (c.isAlpha || c == '_') && cs.all isIdentifierChar

theorem not_isDigit_of_isAlpha {c : Char} (h : c.isAlpha) : c.isDigit = false := by
  simp only [Char.isAlpha, Char.isUpper, Char.isLower, Bool.or_eq_true, Bool.and_eq_true,
    decide_eq_true_eq] at h
  simp only [Char.isDigit, Bool.and_eq_false_iff, decide_eq_false_iff_not]
  simp [UInt32.le_iff_toNat_le] at h ⊢
  omega

theorem isAlpha_eq_not_isDigit {c : Char} (h : c.isAlphanum) : c.isAlpha = !c.isDigit := by
  cases ha : c.isAlpha
  · simpa [Char.isAlphanum, ha] using h
  · simp [not_isDigit_of_isAlpha ha]

theorem isAlphanum_toUpper (c : Char) : c.toUpper.isAlphanum = c.isAlphanum := by
  by_cases h : c.isLower
  · have hc : c.isAlpha := by simp [Char.isAlpha, h]
    simp [Char.isAlphanum, hc]
  · rw [Char.toUpper_eq_of_not_isLower h]

/-- No identifier character starts a word. -/
theorem isTitleBreak_eq_false {c : Char} (h : isIdentifierChar c) : isTitleBreak c = false := by
  cases hb : isTitleBreak c
  · rfl
  · simp only [isTitleBreak, Bool.or_eq_true, beq_iff_eq] at hb
    rcases hb with ((((rfl | rfl) | rfl) | rfl) | rfl) | rfl <;> simp [isIdentifierChar] at h

theorem isTitleBreak_toUpper (c : Char) : isTitleBreak c.toUpper = isTitleBreak c := by
  by_cases h : c.isLower
  · -- a lower-case letter and its upper case both are letters
    have hc : isIdentifierChar c := by simp [isIdentifierChar, Char.isAlphanum, Char.isAlpha, h]
    have hu : isIdentifierChar c.toUpper := by
      simp [isIdentifierChar, Char.isAlphanum, Char.isAlpha, h]
    rw [isTitleBreak_eq_false hc, isTitleBreak_eq_false hu]
  · rw [Char.toUpper_eq_of_not_isLower h]

/-! ## Naming a title, position by position -/

/-- The character that a title's character `c` gives, knowing whether `c` starts a word. -/
def identifierChar (atWordStart : Bool) (c : Char) : Char :=
  let c := if atWordStart then c.toUpper else c
  if c.isAlphanum then c else '_'

theorem identifierChar_eq (b : Bool) (c : Char) :
    identifierChar b c = if !c.isAlphanum then '_' else if b then c.toUpper else c := by
  cases b <;> by_cases h : c.isAlphanum <;> simp [identifierChar, isAlphanum_toUpper, h]

theorem identifierChars_cons (b : Bool) (c : Char) (cs : List Char) :
    identifierChars b (c :: cs) = identifierChar b c :: identifierChars (isTitleBreak c) cs := by
  cases b <;> simp [identifierChars, identifierChar, isTitleBreak_toUpper]

/-- Position `i` of the name depends on the title's character there, and on the one before
it, or on the flag at the start. -/
theorem getElem?_identifierChars (b : Bool) (cs : List Char) (i : Nat) :
    (identifierChars b cs)[i]? =
      cs[i]?.map (identifierChar (if i = 0 then b else (cs[i - 1]?).any isTitleBreak)) := by
  induction cs generalizing b i with
  | nil => simp [identifierChars]
  | cons c cs ih =>
    rw [identifierChars_cons]
    cases i with
    | zero => simp
    | succ i =>
      rw [List.getElem?_cons_succ, ih, List.getElem?_cons_succ]
      cases i <;> simp

theorem normalizeTitle_getElem? (t : String) (i : Nat) :
    (normalizeTitle t).toList[i]? = t.toList[i]?.map fun c =>
      if !c.isAlphanum then '_'
      else if i = 0 ∨ (t.toList[i - 1]?).any isTitleBreak then c.toUpper else c := by
  rw [normalizeTitle, String.toList_ofList, getElem?_identifierChars]
  congr 1
  funext c
  rw [identifierChar_eq]
  by_cases hi : i = 0 <;> simp [hi]

theorem length_normalizeTitle (t : String) : (normalizeTitle t).length = t.length := by
  simp [normalizeTitle, length_identifierChars, String.length_toList]

/-! ## What a name holds -/

theorem isIdentifierChar_identifierChar (b : Bool) (c : Char) :
    isIdentifierChar (identifierChar b c) := by
  rw [identifierChar_eq]
  by_cases h : c.isAlphanum
  · cases b <;> simp [isIdentifierChar, h, isAlphanum_toUpper]
  · simp [isIdentifierChar, h]

theorem isIdentifierChar_of_mem_identifierChars {b : Bool} {cs : List Char} {d : Char}
    (h : d ∈ identifierChars b cs) : isIdentifierChar d := by
  induction cs generalizing b with
  | nil => simp [identifierChars] at h
  | cons c cs ih =>
    rw [identifierChars_cons, List.mem_cons] at h
    rcases h with rfl | h
    · exact isIdentifierChar_identifierChar b c
    · exact ih h

theorem all_isIdentifierChar_identifierChars (b : Bool) (cs : List Char) :
    (identifierChars b cs).all isIdentifierChar = true :=
  List.all_eq_true.2 fun _ hd => isIdentifierChar_of_mem_identifierChars hd

theorem identifierChar_false_of_isIdentifierChar {c : Char} (h : isIdentifierChar c) :
    identifierChar false c = c := by
  by_cases ha : c.isAlphanum
  · simp [identifierChar, ha]
  · have : c = '_' := by simpa [isIdentifierChar, ha] using h
    simp [identifierChar, this]

/-- Away from word starts, identifier characters are kept. -/
theorem identifierChars_false_of_all {cs : List Char} (h : ∀ c ∈ cs, isIdentifierChar c) :
    identifierChars false cs = cs := by
  induction cs with
  | nil => rfl
  | cons c cs ih =>
    have hc := h c List.mem_cons_self
    rw [identifierChars_cons, isTitleBreak_eq_false hc, identifierChar_false_of_isIdentifierChar hc,
      ih fun d hd => h d (List.mem_cons_of_mem c hd)]

theorem identifierChar_true_idem (c : Char) :
    identifierChar true (identifierChar true c) = identifierChar true c := by
  by_cases h : c.isAlphanum
  · simp [identifierChar_eq, h, isAlphanum_toUpper]
  · simp [identifierChar_eq, h]

theorem normalizeTitle_idempotent (t : String) :
    normalizeTitle (normalizeTitle t) = normalizeTitle t := by
  unfold normalizeTitle
  rw [String.toList_ofList]
  congr 1
  cases t.toList with
  | nil => rfl
  | cons c cs =>
    -- the first character is upper case already, and no later one starts a word
    rw [identifierChars_cons, identifierChars_cons, identifierChar_true_idem,
      isTitleBreak_eq_false (isIdentifierChar_identifierChar true c),
      identifierChars_false_of_all fun d hd => isIdentifierChar_of_mem_identifierChars hd]

/-- The method name `test…` of a title is always an identifier. -/
theorem isIdentifier_methodName (t : String) :
    isIdentifier (TestNames.of "" (normalizeTitle t)).methodName = true := by
  simp [TestNames.of, isIdentifier, normalizeTitle, isIdentifierChar,
    all_isIdentifierChar_identifierChars]

/-- The class name `…Test` of a title is an identifier exactly when the title does not start
with a digit, which naming keeps. -/
theorem isIdentifier_className (t : String) :
    isIdentifier (TestNames.of "" (normalizeTitle t)).className =
      !(t.toList.head?.any Char.isDigit) := by
  simp only [TestNames.of, normalizeTitle, String.empty_append]
  cases t.toList with
  | nil => simp [isIdentifier, isIdentifierChar, identifierChars]
  | cons c cs =>
    rw [identifierChars_cons]
    simp [isIdentifier, all_isIdentifierChar_identifierChars, isIdentifierChar]
    -- the first character decides: `_`, a letter put in upper case, or a digit kept
    rw [identifierChar_eq]
    by_cases h : c.isAlphanum
    · have hu : c.toUpper ≠ '_' := by
        intro he
        have := isAlphanum_toUpper c
        rw [he, h] at this
        exact absurd this (by decide)
      simp [h, hu, isAlpha_eq_not_isDigit h]
    · have hd : c.isDigit = false := by
        simp only [Char.isAlphanum, Bool.or_eq_true, not_or] at h
        simpa using h.2
      simp [h, hd]

/-- A title's name keeps its length; position by position it is `_` for a character other than
an ASCII letter or digit, the character in upper case at the start of a word, and the character
itself elsewhere. Naming is idempotent, the method name is always an identifier, and the class
name is one exactly when the title does not start with a digit. -/
theorem normalizeTitle_maps_positions (t : String) :
    (normalizeTitle t).length = t.length ∧
    (∀ i, (normalizeTitle t).toList[i]? = t.toList[i]?.map fun c =>
      if !c.isAlphanum then '_'
      else if i = 0 ∨ (t.toList[i - 1]?).any isTitleBreak then c.toUpper else c) ∧
    normalizeTitle (normalizeTitle t) = normalizeTitle t ∧
    isIdentifier (TestNames.of "" (normalizeTitle t)).methodName = true ∧
    isIdentifier (TestNames.of "" (normalizeTitle t)).className =
      !(t.toList.head?.any Char.isDigit) :=
  ⟨length_normalizeTitle t, normalizeTitle_getElem? t, normalizeTitle_idempotent t,
    isIdentifier_methodName t, isIdentifier_className t⟩

/-- A title that starts with a digit names a class that is no identifier. -/
theorem digit_title_names_no_class :
    "2fa login" ≠ "" ∧ normalizeTitle "2fa login" = "2fa_Login" ∧
      isIdentifier (TestNames.of "" (normalizeTitle "2fa login")).className = false := by
  refine ⟨by simp, by cbv, ?_⟩
  cbv

/-! ## Falling back to the next value -/

/-- The first of some values that is present and not empty. -/
def firstNonEmpty : List (Option String) → Option String
  | [] => none
  | some v :: vs => if v = "" then firstNonEmpty vs else some v
  | none :: vs => firstNonEmpty vs

theorem nonEmpty?_eq_firstNonEmpty (o : Option String) : nonEmpty? o = firstNonEmpty [o] := by
  rcases o with _ | v
  · rfl
  · by_cases hv : v = ""
    · subst hv
      rfl
    · simp [nonEmpty?, firstNonEmpty, hv]

/-- The first non-empty value is that of the head, else the first of the rest. -/
theorem firstNonEmpty_cons (o : Option String) (os : List (Option String)) :
    firstNonEmpty (o :: os) = (firstNonEmpty [o]).orElse fun _ => firstNonEmpty os := by
  rcases o with _ | v
  · rfl
  · by_cases hv : v = "" <;> simp [firstNonEmpty, hv]

theorem nonEmpty?_firstNonEmpty (os : List (Option String)) :
    nonEmpty? (firstNonEmpty os) = firstNonEmpty os := by
  induction os with
  | nil => rfl
  | cons o os ih =>
    rcases o with _ | v
    · exact ih
    · by_cases hv : v = ""
      · simpa [firstNonEmpty, hv] using ih
      · simp [firstNonEmpty, nonEmpty?, hv]

/-- The test name's chain: the caller's name if not empty, else the title's, if not empty. -/
theorem nonEmpty?_orElse (a b : Option String) :
    nonEmpty? ((nonEmpty? a).orElse fun _ => b) = firstNonEmpty [a, b] := by
  rw [nonEmpty?_eq_firstNonEmpty a, firstNonEmpty_cons a [b]]
  cases h : firstNonEmpty [a] with
  | none => simp [nonEmpty?_eq_firstNonEmpty]
  | some v =>
    have := nonEmpty?_firstNonEmpty [a]
    rw [h] at this
    simpa using this

/-- The base URL's chain: the caller's URL if not empty, else the first link's `href` when
there is one, even empty, else the default. -/
theorem getD_orElse_nonEmpty? (a b : Option String) (d : String) :
    ((nonEmpty? a).orElse fun _ => b).getD d =
      if firstNonEmpty [a] = none ∧ b = some "" then ""
      else (firstNonEmpty [a, b]).getD d := by
  rw [nonEmpty?_eq_firstNonEmpty a, firstNonEmpty_cons a [b]]
  cases h : firstNonEmpty [a] with
  | none =>
    rcases b with _ | w
    · rfl
    · by_cases hw : w = ""
      · simp [hw]
      · simp [firstNonEmpty, hw]
  | some v => simp

/-- A document with a table is read. Its test name is the first non-empty of the caller's name
and its title's name, else the default; its base URL is the first non-empty of the caller's URL
and its first link's `href`, else the default, except that an empty `href` is kept when the
caller gives no URL. -/
theorem testName_and_baseUrl_fall_back (settings : ReadSettings) (html : String)
    (h : (tableContent? html.toList).isSome) :
    ∃ s, Script.read settings html = .ok s ∧
      s.testName = (firstNonEmpty [settings.testName,
        (title? html.toList).map fun t => normalizeTitle (String.ofList t)]).getD
          settings.defaultTestName ∧
      s.baseUrl =
        if firstNonEmpty [settings.baseUrl] = none ∧ baseLink? html.toList = some "" then ""
        else (firstNonEmpty [settings.baseUrl, baseLink? html.toList]).getD
          settings.defaultBaseUrl := by
  obtain ⟨content, hc⟩ := Option.isSome_iff_exists.1 h
  simp only [Script.read, hc, Except.ok.injEq, exists_eq_left']
  exact ⟨by rw [nonEmpty?_orElse], by rw [getD_orElse_nonEmpty?]⟩

/-- A recorded document with a title, a base link and a table: the caller's empty name and
absent URL give way to the title and the link. -/
theorem recorded_document_names_and_link :
    (tableContent? "<title>user login</title><link href='/shop'><table></table>".toList).isSome ∧
    ∃ s, Script.read ⟨some "", none, "some", "http://example.com"⟩
        "<title>user login</title><link href='/shop'><table></table>" = .ok s ∧
      s.testName = (firstNonEmpty [some "",
        (title? "<title>user login</title><link href='/shop'><table></table>".toList).map
          fun t => normalizeTitle (String.ofList t)]).getD "some" ∧
      s.baseUrl =
        if firstNonEmpty [none] = none ∧
          baseLink? "<title>user login</title><link href='/shop'><table></table>".toList = some ""
        then ""
        else (firstNonEmpty [none,
          baseLink? "<title>user login</title><link href='/shop'><table></table>".toList]).getD
            "http://example.com" := by
  have h : (tableContent? "<title>user login</title><link href='/shop'><table></table>".toList).isSome := by
    cbv
  exact ⟨h, testName_and_baseUrl_fall_back _ _ h⟩

/-- An empty `href` on the first link gives an empty base URL, not the default. -/
theorem empty_link_href_overrides_default :
    ¬ ∃ s, Script.read ⟨none, none, "some", "http://example.com"⟩
        "<link href=\"\"><table><tr><td>open</td><td>/</td><td></td></tr></table>" = .ok s ∧
      s.baseUrl = (firstNonEmpty [none, baseLink?
        "<link href=\"\"><table><tr><td>open</td><td>/</td><td></td></tr></table>".toList]).getD
          "http://example.com" := by
  rintro ⟨s, hs, hb⟩
  have hread : Script.read ⟨none, none, "some", "http://example.com"⟩
      "<link href=\"\"><table><tr><td>open</td><td>/</td><td></td></tr></table>" =
        .ok ⟨"some", "", [⟨"open", some "/", none⟩]⟩ := by
    cbv
  have hlink : baseLink?
      "<link href=\"\"><table><tr><td>open</td><td>/</td><td></td></tr></table>".toList =
        some "" := by
    cbv
  rw [hread, Except.ok.injEq] at hs
  subst hs
  rw [hlink] at hb
  simp [firstNonEmpty] at hb

end Transcribe
