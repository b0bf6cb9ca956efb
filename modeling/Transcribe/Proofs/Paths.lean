import Mathlib.Data.String.Basic
import Transcribe.Files.Find
/-!
# `Proofs.Paths` — the order of paths, and joining a name to a directory

Two facts about paths as text that the batch conversion relies on.

**Order.** Paths are compared component by component (`pathLt`): components by kind
(root, current directory, parent, then names), names by their characters, and a path
before every longer path it starts. This is a strict total order on the component lists,
so sorting (`sortPaths`, a merge sort on "not after") returns its paths in order: no path
comes after one that precedes it (`sortPaths_pairwise`). The sort needs its comparison to
be total and transitive. Totality is asymmetry of `componentsLt`; transitivity of "not
after" is the comparison property of a strict weak order: if `zs` precedes `xs`, every
`ys` is after `zs` or before `xs` (`componentsLt_or_lt_of_lt`).

**Joining.** A piece of a path never holds a separator, so neither does a file name
(`slash_not_mem_of_fileName?`). The parent of a path is never empty and ends with a
separator only when it is the root (`parentDir_eq_root`). Joining a name without
separators to a directory writes the directory, one separator and the name
(`toList_join`); so a join determines its name, and, among parents, its directory too
(`join_eq_join_iff`, `join_parentDir_eq_iff`): the last separator of the text is the one
the join put there.
-/

namespace Transcribe.Files

namespace Component

theorem lt_asymm {a b : Component} (h : a.lt b = true) : b.lt a = false := by
  cases a <;> cases b
  case normal.normal x y => exact decide_eq_false (String.lt_asymm (of_decide_eq_true h))
  all_goals simp_all [Component.lt, Component.rank]

theorem lt_or_lt_of_ne {a b : Component} (h : a ≠ b) : a.lt b = true ∨ b.lt a = true := by
  cases a <;> cases b
  case normal.normal x y =>
    have hxy : x ≠ y := fun e => h (congrArg normal e)
    exact (lt_or_gt_of_ne hxy).imp decide_eq_true decide_eq_true
  all_goals simp_all [Component.lt, Component.rank]

/-- Components are compared by a strict weak order: whatever `b` is, it is after `a` or
before `c` when `a` is before `c`. -/
theorem lt_or_lt_of_lt {a c : Component} (b : Component) (h : a.lt c = true) :
    a.lt b = true ∨ b.lt c = true := by
  cases a <;> cases b <;> cases c
  case normal.normal.normal x y z =>
    exact ((lt_or_ge x y).imp_right fun hyx => lt_of_le_of_lt hyx (of_decide_eq_true h)).imp
      decide_eq_true decide_eq_true
  all_goals simp_all [Component.lt, Component.rank]

end Component

theorem componentsLt_asymm : ∀ {xs ys : List Component}, componentsLt xs ys = true →
    componentsLt ys xs = false
  | [], [], _ => rfl
  | [], _ :: _, _ => rfl
  | _ :: _, [], h => nomatch h
  | a :: as, b :: bs, h => by
    unfold componentsLt at h ⊢
    by_cases hab : a = b
    · subst hab
      rw [if_pos (beq_self_eq_true a)] at h ⊢
      exact componentsLt_asymm h
    · rw [if_neg (by simpa using hab)] at h
      rw [if_neg (by simpa using Ne.symm hab)]
      exact Component.lt_asymm h

/-- Lists of components are compared by a strict weak order too. -/
theorem componentsLt_or_lt_of_lt : ∀ {zs xs : List Component} (ys : List Component),
    componentsLt zs xs = true → componentsLt zs ys = true ∨ componentsLt ys xs = true
  | [], [], _, h => nomatch h
  | _ :: _, [], _, h => nomatch h
  | [], _ :: _, [], _ => .inr rfl
  | [], _ :: _, _ :: _, _ => .inl rfl
  | _ :: _, _ :: _, [], _ => .inr rfl
  | z :: zs, x :: xs, y :: ys, h => by
    have ne_beq : ∀ {a b : Component}, a ≠ b → ¬ (a == b) = true := fun hab => by simpa using hab
    unfold componentsLt at h ⊢
    -- the heads decide unless they are equal; `y` is placed against `z` and `x`
    by_cases hzx : z = x
    · subst hzx
      rw [if_pos (beq_self_eq_true z)] at h
      by_cases hzy : z = y
      · subst hzy
        rw [if_pos (beq_self_eq_true z), if_pos (beq_self_eq_true z)]
        exact componentsLt_or_lt_of_lt ys h
      · rw [if_neg (ne_beq hzy), if_neg (ne_beq (Ne.symm hzy))]
        exact Component.lt_or_lt_of_ne hzy
    · rw [if_neg (ne_beq hzx)] at h
      by_cases hzy : z = y
      · subst hzy
        rw [if_neg (ne_beq hzx)]
        exact .inr h
      · by_cases hyx : y = x
        · subst hyx
          rw [if_neg (ne_beq hzy)]
          exact .inl h
        · rw [if_neg (ne_beq hzy), if_neg (ne_beq hyx)]
          exact Component.lt_or_lt_of_lt y h

/-- Sorted paths are in order: none comes after a path that precedes it. -/
theorem sortPaths_pairwise (ps : List String) :
    (sortPaths ps).Pairwise fun a b => pathLt b a = false := by
  have trans : ∀ a b c : String, (!pathLt b a) = true → (!pathLt c b) = true →
      (!pathLt c a) = true := by
    intro a b c hba hcb
    simp only [Bool.not_eq_true'] at hba hcb ⊢
    cases hca : pathLt c a with
    | false => rfl
    | true =>
      rcases componentsLt_or_lt_of_lt (components b) hca with h | h
      · exact absurd (hcb.symm.trans h) Bool.false_ne_true
      · exact absurd (hba.symm.trans h) Bool.false_ne_true
  have total : ∀ a b : String, ((!pathLt b a) || !pathLt a b) = true := by
    intro a b
    cases h : pathLt a b with
    | false => simp
    | true => simp [show pathLt b a = false from componentsLt_asymm h]
  simpa [sortPaths] using List.pairwise_mergeSort trans total ps

/-! ## Pieces, names and parents -/

theorem not_mem_of_mem_splitOnP {α : Type} {p : α → Bool} :
    ∀ {xs l : List α}, l ∈ xs.splitOnP p → ∀ x ∈ l, p x = false
  | [], l, h => by
    rw [List.splitOnP_nil, List.mem_singleton] at h
    subst h
    intro x hx
    cases hx
  | y :: ys, l, h => by
    obtain ⟨hd, tl, hsplit⟩ := List.exists_cons_of_ne_nil (List.splitOnP_ne_nil p ys)
    have hhd : hd ∈ ys.splitOnP p := by rw [hsplit]; exact List.mem_cons_self
    rw [List.splitOnP_cons_eq_if_modifyHead] at h
    split at h
    · rcases List.mem_cons.1 h with rfl | h
      · intro x hx
        cases hx
      · exact not_mem_of_mem_splitOnP h
    · rename_i hy
      rw [hsplit, List.modifyHead_cons] at h
      rcases List.mem_cons.1 h with rfl | h
      · intro x hx
        rcases List.mem_cons.1 hx with rfl | hx
        · simpa using hy
        · exact not_mem_of_mem_splitOnP hhd x hx
      · exact not_mem_of_mem_splitOnP (by rw [hsplit]; exact List.mem_cons_of_mem _ h)

theorem slash_not_mem_of_mem_pieces {s x : String} (h : x ∈ pieces s) : '/' ∉ x.toList := by
  obtain ⟨l, hl, rfl⟩ := List.mem_map.1 h
  rw [String.toList_ofList]
  rw [List.splitOn_eq_splitOnP] at hl
  intro hm
  have := not_mem_of_mem_splitOnP hl '/' hm
  simp at this

theorem slash_not_mem_of_normal_mem {p n : String} (h : Component.normal n ∈ components p) :
    '/' ∉ n.toList := by
  unfold components at h
  simp only [List.mem_append] at h
  rcases h with (h | h) | h
  · split at h <;> simp at h
  · split at h <;> simp at h
  · unfold bodyComponents at h
    obtain ⟨x, hx, hxn⟩ := List.mem_filterMap.1 h
    split at hxn
    · cases hxn
    · split at hxn
      · cases hxn
      · cases hxn
        exact slash_not_mem_of_mem_pieces hx

theorem slash_not_mem_of_fileName? {p n : String} (h : fileName? p = some n) : '/' ∉ n.toList := by
  unfold fileName? at h
  split at h
  · cases h
    exact slash_not_mem_of_normal_mem (List.mem_of_getLast? ‹_›)
  · cases h

theorem toList_parentDir_ne_nil (p : String) : (parentDir p).toList ≠ [] := by
  unfold parentDir
  split
  · split
    · decide
    · rename_i h
      simpa using h
  · decide

theorem mem_of_mem_trimPieces {xs : List String} {x : String} (h : x ∈ trimPieces xs) : x ∈ xs :=
  List.mem_reverse.1 ((List.dropWhile_sublist _).subset (List.mem_reverse.1 h))

theorem ne_empty_of_getLast?_trimPieces {xs : List String} {x : String}
    (h : (trimPieces xs).getLast? = some x) : x ≠ "" := by
  unfold trimPieces at h
  rw [List.getLast?_reverse] at h
  have hx := List.head?_dropWhile_not (fun s : String => s.isEmpty || s == ".") xs.reverse
  rw [h] at hx
  rintro rfl
  simp at hx

theorem exists_intercalate_eq_append {α : Type} (sep : List α) :
    ∀ {L : List (List α)} {x : List α}, L.getLast? = some x → ∃ pre, sep.intercalate L = pre ++ x
  | [], _, h => nomatch h
  | [_], _, h => ⟨[], by simp at h; simp [h]⟩
  | a :: b :: l, x, h => by
    obtain ⟨pre, hpre⟩ := @exists_intercalate_eq_append α sep (b :: l) x (by simpa using h)
    exact ⟨a ++ sep ++ pre, by rw [List.intercalate_cons_cons, hpre]; simp⟩

/-- Text written by intercalating pieces ends as its last piece does, when that piece is not
empty. -/
theorem getLast?_append_intercalate (pre : List Char) {L : List String} {x : String}
    (hlast : L.getLast? = some x) (hx : x.toList ≠ []) :
    (pre ++ "/".toList.intercalate (L.map String.toList)).getLast? = x.toList.getLast? := by
  obtain ⟨pre', hpre⟩ := exists_intercalate_eq_append "/".toList
    (show (L.map String.toList).getLast? = some x.toList by simp [hlast])
  rw [hpre, ← List.append_assoc, List.getLast?_append_of_ne_nil _ hx]

theorem parentDir_eq_root {p : String} (h : (parentDir p).toList.getLast? = some '/') :
    parentDir p = "/" := by
  unfold parentDir at h ⊢
  cases hq : parent? p with
  | none => simp [hq] at h
  | some q =>
    simp only [hq] at h ⊢
    by_cases hqe : q.isEmpty = true
    · rw [if_pos hqe] at h
      simp at h
    rw [if_neg hqe] at h ⊢
    unfold parent? at hq
    split at hq
    · cases hq
    · cases hq
    · dsimp only at hq
      split at hq
      · cases hq
        simp at hqe
      · cases hq
        rw [String.toList_append, String.toList_intercalate] at h
        generalize hL : trimPieces (trimPieces
          (pieces (String.ofList (List.drop (headLength p) p.toList)))).dropLast = L at h ⊢
        by_cases hLn : L = []
        · -- the parent is the root or the current directory, one character
          subst hLn
          have hlen : (List.take (headLength p) p.toList).length ≤ 1 := by
            rw [List.length_take]
            unfold headLength
            split <;> omega
          simp only [String.toList_ofList, List.map_nil, List.intercalate_nil, List.append_nil] at h
          apply String.toList_inj.1
          simp only [String.toList_append, String.toList_ofList, String.intercalate_nil, String.toList_empty, List.append_nil]
          generalize List.take (headLength p) p.toList = cs at h hlen ⊢
          match cs, h with
          | [c], h => simp at h; simp [h]
        · -- otherwise it ends with its last piece, which has no separator
          exfalso
          obtain ⟨x, hlast⟩ := Option.ne_none_iff_exists'.1 (mt List.getLast?_eq_none_iff.1 hLn)
          have hx : x ∈ L := List.mem_of_getLast? hlast
          subst hL
          have hslash := slash_not_mem_of_mem_pieces
            (mem_of_mem_trimPieces ((List.dropLast_sublist _).subset (mem_of_mem_trimPieces hx)))
          have hne : x.toList ≠ [] := by simpa using ne_empty_of_getLast?_trimPieces hlast
          rw [getLast?_append_intercalate _ hlast hne] at h
          exact hslash (List.mem_of_getLast? h)

theorem endsWith_slash_iff (d : String) : d.endsWith "/" = true ↔ d.toList.getLast? = some '/' := by
  rw [String.endsWith_eq_endsWith_toSlice, String.Slice.endsWith_string_iff, String.copy_toSlice]
  constructor
  · rintro ⟨t, ht⟩
    exact List.getLast?_eq_some_iff.2 ⟨t, ht.symm⟩
  · intro h
    obtain ⟨t, ht⟩ := List.getLast?_eq_some_iff.1 h
    exact ⟨t, ht.symm⟩

theorem isAbsolute_eq_false {n : String} (h : '/' ∉ n.toList) : isAbsolute n = false := by
  unfold isAbsolute
  cases hs : n.startsWith "/" with
  | false => rfl
  | true => exact absurd ((String.startsWith_string_iff.1 hs).subset (List.mem_singleton_self '/')) h

/-- A directory as joining writes it before a name: ending with one separator. -/
def withSeparator (d : String) : List Char :=
  if d.toList.getLast? = some '/' then d.toList else d.toList ++ ['/']

theorem getLast?_withSeparator (d : String) : (withSeparator d).getLast? = some '/' := by
  unfold withSeparator
  split
  · assumption
  · simp

theorem toList_join {d n : String} (hd : d ≠ "") (hn : '/' ∉ n.toList) :
    (join d n).toList = withSeparator d ++ n.toList := by
  have hempty : d.isEmpty = false := by simpa using hd
  unfold join withSeparator
  rw [isAbsolute_eq_false hn, hempty]
  by_cases hs : d.toList.getLast? = some '/'
  · simp [(endsWith_slash_iff d).2 hs, hs]
  · have he : d.endsWith "/" = false := Bool.eq_false_iff.2 fun h => hs ((endsWith_slash_iff d).1 h)
    simp [he, hs]

theorem append_eq_append_of_separator {A₁ A₂ n₁ n₂ : List Char} (hA₁ : A₁.getLast? = some '/')
    (hA₂ : A₂.getLast? = some '/') (hn₁ : '/' ∉ n₁) (hn₂ : '/' ∉ n₂) (h : A₁ ++ n₁ = A₂ ++ n₂) :
    A₁ = A₂ ∧ n₁ = n₂ := by
  rcases List.append_eq_append_iff.1 h with ⟨a', hA, hn⟩ | ⟨c', hA, hn⟩
  · cases a' with
    | nil => simp_all
    | cons a as =>
      rw [hA, List.getLast?_append_of_ne_nil _ (List.cons_ne_nil _ _)] at hA₂
      exact absurd (hn ▸ List.mem_append_left _ (List.mem_of_getLast? hA₂)) hn₁
  · cases c' with
    | nil => simp_all
    | cons c cs =>
      rw [hA, List.getLast?_append_of_ne_nil _ (List.cons_ne_nil _ _)] at hA₁
      exact absurd (hn ▸ List.mem_append_left _ (List.mem_of_getLast? hA₁)) hn₂

theorem join_eq_join_iff {d n₁ n₂ : String} (h₁ : '/' ∉ n₁.toList) (h₂ : '/' ∉ n₂.toList) :
    join d n₁ = join d n₂ ↔ n₁ = n₂ := by
  constructor
  · intro h
    unfold join at h
    rw [isAbsolute_eq_false h₁, isAbsolute_eq_false h₂] at h
    apply String.toList_inj.1
    have h' := congrArg String.toList h
    by_cases hc : (d.isEmpty || d.endsWith "/") = true
    · rw [if_neg Bool.false_ne_true, if_neg Bool.false_ne_true, if_pos hc, if_pos hc] at h'
      simpa using h'
    · rw [if_neg Bool.false_ne_true, if_neg Bool.false_ne_true, if_neg hc, if_neg hc] at h'
      simpa using h'
  · rintro rfl
    rfl

theorem withSeparator_parentDir_inj {f₁ f₂ : String}
    (h : withSeparator (parentDir f₁) = withSeparator (parentDir f₂)) : parentDir f₁ = parentDir f₂ := by
  unfold withSeparator at h
  by_cases h₁ : (parentDir f₁).toList.getLast? = some '/' <;>
    by_cases h₂ : (parentDir f₂).toList.getLast? = some '/'
  · rw [parentDir_eq_root h₁, parentDir_eq_root h₂]
  · rw [if_pos h₁, if_neg h₂, parentDir_eq_root h₁] at h
    exact absurd (List.append_cancel_right (h.symm : _ = [] ++ ['/'])) (toList_parentDir_ne_nil f₂)
  · rw [if_neg h₁, if_pos h₂, parentDir_eq_root h₂] at h
    exact absurd (List.append_cancel_right (h : _ = [] ++ ['/'])) (toList_parentDir_ne_nil f₁)
  · rw [if_neg h₁, if_neg h₂] at h
    exact String.toList_inj.1 (List.append_cancel_right h)

theorem join_parentDir_eq_iff {f₁ f₂ n₁ n₂ : String} (h₁ : '/' ∉ n₁.toList) (h₂ : '/' ∉ n₂.toList) :
    join (parentDir f₁) n₁ = join (parentDir f₂) n₂ ↔ parentDir f₁ = parentDir f₂ ∧ n₁ = n₂ := by
  constructor
  · intro h
    have h' := congrArg String.toList h
    rw [toList_join (fun e => toList_parentDir_ne_nil f₁ (by rw [e]; rfl)) h₁,
      toList_join (fun e => toList_parentDir_ne_nil f₂ (by rw [e]; rfl)) h₂] at h'
    obtain ⟨hd, hn⟩ := append_eq_append_of_separator (getLast?_withSeparator _)
      (getLast?_withSeparator _) h₁ h₂ h'
    exact ⟨withSeparator_parentDir_inj hd, String.toList_inj.1 hn⟩
  · rintro ⟨hd, rfl⟩
    rw [hd]

end Transcribe.Files
