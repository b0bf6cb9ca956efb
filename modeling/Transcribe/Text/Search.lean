/-!
# `Text.Search` — leftmost matches and left-to-right substitution

Two ways of applying a *matcher*, a function that looks at the front of a text:

* `firstMatch m cs` tries `m` on every suffix of `cs`, longest first, and answers
  with the first success. A matcher that decides everything from the front of its
  argument makes this the leftmost match.
* `substitute m cs` walks `cs` from the left. Where `m` succeeds with a replacement
  and the rest of the text, the replacement is written and the walk goes on after
  the match, so replaced text is never looked at again; elsewhere one character is
  copied. A success that consumes nothing is treated as no match, which keeps the
  walk finite; none of the matchers of this library can succeed without consuming.
-/

namespace Transcribe.Text

/-- The answer of `m` at the first suffix of `cs` (longest first) where it succeeds. -/
def firstMatch {α : Type} (m : List Char → Option α) : List Char → Option α
  | [] => m []
  | c :: cs =>
    match m (c :: cs) with
    | some a => some a
    | none => firstMatch m cs

/-- A scan answers with a match at the front of the text. -/
theorem firstMatch_of_eq_some {α : Type} {m : List Char → Option α} {cs : List Char} {a : α}
    (h : m cs = some a) : firstMatch m cs = some a := by
  cases cs with
  | nil => exact h
  | cons c cs => simp [firstMatch, h]

/-- What a scan answers is the matcher's answer at some suffix of the text. -/
theorem firstMatch_eq_some {α : Type} {m : List Char → Option α} {a : α} :
    ∀ {cs : List Char}, firstMatch m cs = some a → ∃ s, s <:+ cs ∧ m s = some a
  | [], h => ⟨[], List.suffix_refl [], h⟩
  | c :: cs, h => by
    simp only [firstMatch] at h
    split at h
    case h_1 a' hm =>
      cases h
      exact ⟨c :: cs, List.suffix_refl _, hm⟩
    case h_2 =>
      obtain ⟨s, hs, hm⟩ := firstMatch_eq_some h
      exact ⟨s, hs.trans (List.suffix_cons c cs), hm⟩

/-- A scan skips the first `k` characters when no match starts among them. -/
theorem firstMatch_drop {α : Type} {m : List Char → Option α} {k : Nat} {cs : List Char}
    (h : ∀ j < k, m (cs.drop j) = none) : firstMatch m cs = firstMatch m (cs.drop k) := by
  induction cs generalizing k with
  | nil => simp
  | cons c cs ih =>
    cases k with
    | zero => rfl
    | succ k =>
      have hc : m (c :: cs) = none := h 0 (Nat.succ_pos k)
      rw [firstMatch, hc, List.drop_succ_cons]
      exact ih fun j hj => h (j + 1) (by omega)

/-- Left-to-right substitution of the matches of `m`, which answers with a replacement
and the text after the match. -/
def substitute (m : List Char → Option (List Char × List Char)) : List Char → List Char
  | [] => []
  | c :: cs =>
    match m (c :: cs) with
    | some (out, rest) =>
      if rest.length < cs.length + 1 then out ++ substitute m rest else c :: substitute m cs
    | none => c :: substitute m cs
termination_by cs => cs.length

/-- The matcher of a fixed word: replaces it by `rep`. -/
def literal (pat rep : List Char) (cs : List Char) : Option (List Char × List Char) :=
  if pat.isPrefixOf cs then some (rep, cs.drop pat.length) else none

/-- Replaces every occurrence of a non-empty word, left to right and without overlap. -/
def replaceAll (pat rep : String) (s : String) : String :=
  String.ofList (substitute (literal pat.toList rep.toList) s.toList)

theorem substitute_nil (m : List Char → Option (List Char × List Char)) : substitute m [] = [] := by
  rw [substitute]

/-- Where the matcher fails, one character is copied. -/
theorem substitute_cons_of_none {m : List Char → Option (List Char × List Char)} {c : Char}
    {cs : List Char} (h : m (c :: cs) = none) : substitute m (c :: cs) = c :: substitute m cs := by
  rw [substitute, h]

/-- Where the matcher succeeds and consumes, its replacement is written and the walk goes on
after the match. -/
theorem substitute_cons_of_some {m : List Char → Option (List Char × List Char)} {c : Char}
    {cs out rest : List Char} (h : m (c :: cs) = some (out, rest)) (hlt : rest.length < cs.length + 1) :
    substitute m (c :: cs) = out ++ substitute m rest := by
  rw [substitute, h]
  exact if_pos hlt

/-- Substitution with a matcher that never succeeds copies the text. -/
theorem substitute_none (cs : List Char) : substitute (fun _ => none) cs = cs := by
  induction cs with
  | nil => simp [substitute]
  | cons c cs ih => simp [substitute, ih]

example : replaceAll ".." "." "a...b" = "a..b" := by decide +kernel

end Transcribe.Text
