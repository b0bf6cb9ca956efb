import Transcribe.Translate.WebDriver
/-!
# `Proofs.Arguments` — what the WebDriver rules read from a step's arguments

Three readers decide whether a WebDriver step can be translated. This module says what
each of them accepts, in terms of the text alone.

* `Locator.resolve` refuses a target only with `unknownSelector` of that very target
  (`Locator.resolve_eq_error_iff`).
* `optionArgument? key` finds nothing exactly when `key` never stands in the option with
  a character other than a line feed after it (`optionArgument?_eq_none_iff`).
* `splitAttribute?` finds the split of a `storeAttribute` target with the shortest
  element part (`splitAttribute?_eq_some_iff`), and nothing exactly when the target has
  no split at all (`splitAttribute?_eq_none_iff`). A split is a non-empty element part
  without a line feed, then `/@` or `@`, then a non-empty attribute name without blanks
  that runs to the end (`AttributeSplit`).

These are the leftmost-first readings of the patterns `label=(.+)`, `value=(.+)` and
`^(.+?)/?@(\S+)$`, where `.` is any character but a line feed and `\S` any character
that is not blank. The walk of `splitAttributeFrom` takes one character into the element
part at a time; `attributeSplit_cons_iff` says what one such step does to the set of
splits, `shortestAttributeSplit_cons_of_tail` and `shortestAttributeSplit_cons_of_no_tail`
what it does to the shortest one, and the two characterisations are inductions over them.
-/

namespace Transcribe

open Transcribe.Text Transcribe.Translate.WebDriver

/-! ## Locators -/

/-- A target that names an element. -/
def Resolves (selector : String) : Prop := ∃ l, Locator.resolve selector = .ok l

theorem Locator.resolve_eq_error_iff (selector : String) (e : TargetError) :
    Locator.resolve selector = .error e ↔ ¬ Resolves selector ∧ e = .unknownSelector selector := by
  unfold Resolves
  cases hr : Locator.resolve selector with
  | ok l => simp
  | error e' =>
      simp only [Except.error.injEq, reduceCtorEq, exists_false, not_false_eq_true, true_and]
      -- every refusal of `resolve` names the selector it refuses
      have he' : e' = .unknownSelector selector := by
        unfold Locator.resolve at hr
        split at hr
        · cases hr
        · split at hr
          · split at hr
            · cases hr
            · cases hr
            · exact (Except.error.inj hr).symm
          · exact (Except.error.inj hr).symm
      subst he'
      exact eq_comm

theorem find_eq_error_iff (selector receiver : String) (e : TargetError) :
    find selector receiver = .error e ↔ ¬ Resolves selector ∧ e = .unknownSelector selector := by
  rw [← Locator.resolve_eq_error_iff]
  unfold find
  cases Locator.resolve selector <;> simp [Except.map]

/-! ## Options of `select` -/

/-- `key` stands in `option` with a character other than a line feed right after it. -/
def HasOption (key option : String) : Prop :=
  ∃ pre x post, option.toList = pre ++ key.toList ++ x :: post ∧ x ≠ '\n'

theorem Text.firstMatch_eq_none_iff {α : Type} (m : List Char → Option α) :
    ∀ cs : List Char, firstMatch m cs = none ↔ ∀ s, s <:+ cs → m s = none
  | [] => by simp [firstMatch]
  | c :: cs => by
      simp only [firstMatch, List.suffix_cons_iff]
      cases hm : m (c :: cs) with
      | some a =>
          simp only [reduceCtorEq, false_iff]
          intro h
          have hnone := h (c :: cs) (.inl rfl)
          rw [hm] at hnone
          cases hnone
      | none =>
          rw [firstMatch_eq_none_iff m cs]
          constructor
          · rintro h s (rfl | hs)
            · exact hm
            · exact h s hs
          · exact fun h s hs => h s (.inr hs)

theorem optionArgument?_eq_none_iff (key option : String) :
    optionArgument? key option = none ↔ ¬ HasOption key option := by
  unfold optionArgument? HasOption
  rw [Text.firstMatch_eq_none_iff]
  constructor
  · rintro h ⟨pre, x, post, hopt, hx⟩
    -- the matcher succeeds on the suffix that starts with this occurrence of `key`
    have hs : key.toList ++ x :: post <:+ option.toList := ⟨pre, by rw [hopt, List.append_assoc]⟩
    have hm := h _ hs
    simp [hx, ← String.length_toList] at hm
  · intro h s hs
    by_cases hp : key.toList.isPrefixOf s
    · obtain ⟨t, rfl⟩ := List.isPrefixOf_iff_prefix.mp hp
      cases t with
      | nil => simp [← String.length_toList]
      | cons x post =>
          by_cases hx : x = '\n'
          · simp [hx, ← String.length_toList]
          · obtain ⟨pre, hpre⟩ := hs
            exact absurd ⟨pre, x, post, by rw [← hpre, List.append_assoc], hx⟩ h
    · simp [hp]

theorem hasOption_of_optionArgument?_eq_some {key option arg : String}
    (h : optionArgument? key option = some arg) : HasOption key option :=
  Classical.not_not.mp fun hno => by
    rw [← optionArgument?_eq_none_iff, h] at hno
    cases hno

/-! ## Targets of `storeAttribute` -/

/-- The end of a `storeAttribute` target after its element part: `/@` or `@`, then the
attribute name `a`, non-empty and without blanks. -/
def IsAttributeTail (s a : List Char) : Prop :=
  a ≠ [] ∧ (∀ x ∈ a, isBlank x = false) ∧ (s = '/' :: '@' :: a ∨ s = '@' :: a)

/-- A `storeAttribute` target read as the element part `e` and the attribute name `a`. -/
def AttributeSplit (t e a : List Char) : Prop :=
  e ≠ [] ∧ '\n' ∉ e ∧ ∃ s, t = e ++ s ∧ IsAttributeTail s a

/-- The split with the shortest element part, which the lazy `(.+?)` captures. -/
def ShortestAttributeSplit (t e a : List Char) : Prop :=
  AttributeSplit t e a ∧ ∀ e' a', AttributeSplit t e' a' → e.length ≤ e'.length

theorem IsAttributeTail.unique {s a a' : List Char} (h : IsAttributeTail s a)
    (h' : IsAttributeTail s a') : a = a' := by
  obtain ⟨-, -, rfl | rfl⟩ := h <;> obtain ⟨-, -, h | h⟩ := h' <;> simp_all

/-- The check of an attribute name: non-empty, without blanks. -/
theorem attributeName_eq_some_iff (s a : List Char) :
    (if (s != [] && s.all fun c => !isBlank c) then some s else none) = some a ↔
      s = a ∧ a ≠ [] ∧ ∀ x ∈ a, isBlank x = false := by
  by_cases h : (s != [] && s.all fun c => !isBlank c) = true
  · simp only [Bool.and_eq_true, bne_iff_ne, ne_eq, List.all_eq_true, Bool.not_eq_eq_eq_not,
      Bool.not_true] at h
    rw [if_pos (by simpa [List.all_eq_true] using h), Option.some.injEq]
    constructor
    · rintro rfl
      exact ⟨rfl, h⟩
    · rintro ⟨rfl, -⟩
      rfl
  · rw [if_neg h]
    simp only [reduceCtorEq, false_iff, not_and]
    rintro rfl ha hb
    apply h
    simp only [Bool.and_eq_true, bne_iff_ne, ne_eq, List.all_eq_true, Bool.not_eq_eq_eq_not,
      Bool.not_true]
    exact ⟨ha, hb⟩

theorem attributeTail?_eq_some_iff (s a : List Char) :
    attributeTail? s = some a ↔ IsAttributeTail s a := by
  have hne : ('/' : Char) ≠ '@' := by decide
  unfold attributeTail? IsAttributeTail
  split
  · rename_i s'
    rw [attributeName_eq_some_iff]
    simp only [List.cons.injEq, hne, false_and, or_false, true_and]
    constructor
    · rintro ⟨rfl, ha, hb⟩
      exact ⟨ha, hb, rfl⟩
    · rintro ⟨ha, hb, rfl⟩
      exact ⟨rfl, ha, hb⟩
  · rename_i s'
    rw [attributeName_eq_some_iff]
    simp only [List.cons.injEq, hne.symm, false_and, false_or, true_and]
    constructor
    · rintro ⟨rfl, ha, hb⟩
      exact ⟨ha, hb, rfl⟩
    · rintro ⟨ha, hb, rfl⟩
      exact ⟨rfl, ha, hb⟩
  · rename_i h1 h2
    simp only [reduceCtorEq, false_iff, not_and]
    rintro - - (rfl | rfl)
    · exact h1 a rfl
    · exact h2 a rfl

/-- One step of the walk: a split of `c :: cs` either ends its element part at `c` or
extends a split of `cs`, and `c` is no line feed. -/
theorem attributeSplit_cons_iff (c : Char) (cs e a : List Char) :
    AttributeSplit (c :: cs) e a ↔
      c ≠ '\n' ∧ ((e = [c] ∧ IsAttributeTail cs a) ∨ ∃ e', e = c :: e' ∧ AttributeSplit cs e' a) := by
  constructor
  · rintro ⟨he, hn, s, ht, htail⟩
    obtain ⟨c', e', rfl⟩ := List.exists_cons_of_ne_nil he
    simp only [List.cons_append, List.cons.injEq] at ht
    obtain ⟨rfl, rfl⟩ := ht
    refine ⟨fun h => hn (h ▸ List.mem_cons_self), ?_⟩
    cases e' with
    | nil => exact .inl ⟨rfl, by simpa using htail⟩
    | cons d e' =>
        refine .inr ⟨d :: e', rfl, by simp, fun h => hn (List.mem_cons_of_mem _ h), s, rfl, htail⟩
  · rintro ⟨hc, ⟨rfl, htail⟩ | ⟨e', rfl, he', hn', s, rfl, htail⟩⟩
    · exact ⟨by simp, by simpa [eq_comm] using hc, cs, rfl, htail⟩
    · refine ⟨by simp, ?_, s, rfl, htail⟩
      simp only [List.mem_cons, not_or]
      exact ⟨fun h => hc h.symm, hn'⟩

/-- With an attribute name right after the first character, the shortest split ends its
element part there. -/
theorem shortestAttributeSplit_cons_of_tail {c : Char} {cs a₀ : List Char} (hc : c ≠ '\n')
    (htail : IsAttributeTail cs a₀) (e a : List Char) :
    ShortestAttributeSplit (c :: cs) e a ↔ e = [c] ∧ a = a₀ := by
  have hfirst := (attributeSplit_cons_iff c cs [c] a₀).2 ⟨hc, .inl ⟨rfl, htail⟩⟩
  constructor
  · rintro ⟨hs, hmin⟩
    have hle := hmin [c] a₀ hfirst
    rcases ((attributeSplit_cons_iff _ _ _ _).1 hs).2 with ⟨rfl, htail₁⟩ | ⟨e₁, rfl, hs₁⟩
    · exact ⟨rfl, (htail.unique htail₁).symm⟩
    · -- a split past the first character is longer than the one at it
      have := List.length_pos_iff.mpr hs₁.1
      simp only [List.length_cons, List.length_nil] at hle
      omega
  · rintro ⟨rfl, rfl⟩
    exact ⟨hfirst, fun e₁ a₁ hs => List.length_pos_iff.mpr hs.1⟩

/-- Without an attribute name right after the first character, the shortest split of
`c :: cs` is `c` in front of the shortest split of `cs`. -/
theorem shortestAttributeSplit_cons_of_no_tail {c : Char} {cs : List Char} (hc : c ≠ '\n')
    (hno : ∀ a, ¬ IsAttributeTail cs a) (e a : List Char) :
    ShortestAttributeSplit (c :: cs) e a ↔
      ∃ e₁, e = c :: e₁ ∧ ShortestAttributeSplit cs e₁ a := by
  constructor
  · rintro ⟨hs, hmin⟩
    rcases ((attributeSplit_cons_iff _ _ _ _).1 hs).2 with ⟨-, htail⟩ | ⟨e₁, rfl, hs₁⟩
    · exact absurd htail (hno a)
    · refine ⟨e₁, rfl, hs₁, fun e₂ a₂ hs₂ => ?_⟩
      have := hmin (c :: e₂) a₂ ((attributeSplit_cons_iff _ _ _ _).2 ⟨hc, .inr ⟨e₂, rfl, hs₂⟩⟩)
      simpa using this
  · rintro ⟨e₁, rfl, hs₁, hmin⟩
    refine ⟨(attributeSplit_cons_iff _ _ _ _).2 ⟨hc, .inr ⟨e₁, rfl, hs₁⟩⟩, fun e₂ a₂ hs₂ => ?_⟩
    rcases ((attributeSplit_cons_iff _ _ _ _).1 hs₂).2 with ⟨-, htail⟩ | ⟨e₃, rfl, hs₃⟩
    · exact absurd htail (hno a₂)
    · simpa using hmin e₃ a₂ hs₃

theorem splitAttributeFrom_acc (acc : List Char) :
    ∀ cs, splitAttributeFrom acc cs =
      (splitAttributeFrom [] cs).map fun (e, a) => (acc.reverse ++ e, a)
  | [] => rfl
  | c :: cs => by
      simp only [splitAttributeFrom]
      split
      · rfl
      · split
        · simp
        · rw [splitAttributeFrom_acc (c :: acc) cs, splitAttributeFrom_acc [c] cs,
            Option.map_map]
          congr 1
          funext ⟨e, a⟩
          simp

/-- The walk after its first character is the walk over the rest with that character put
in front of the element part. -/
theorem splitAttributeFrom_cons (c : Char) (cs : List Char) :
    splitAttributeFrom [] (c :: cs) =
      if c == '\n' then none
      else match attributeTail? cs with
        | some a => some ([c], a)
        | none => (splitAttributeFrom [] cs).map fun (e, a) => (c :: e, a) := by
  rw [splitAttributeFrom, splitAttributeFrom_acc]
  rfl

theorem splitAttributeFrom_eq_none_iff :
    ∀ cs : List Char, splitAttributeFrom [] cs = none ↔ ∀ e a, ¬ AttributeSplit cs e a
  | [] => by
      simp only [splitAttributeFrom, true_iff]
      rintro e a ⟨he, -, s, h, -⟩
      exact he (List.append_eq_nil_iff.mp h.symm).1
  | c :: cs => by
      simp only [splitAttributeFrom_cons, attributeSplit_cons_iff]
      by_cases hc : c = '\n'
      · simp [hc]
      · have hc' : (c == '\n') = false := by simpa using hc
        simp only [hc', Bool.false_eq_true, if_false, ne_eq, hc, not_false_eq_true, true_and]
        cases ht : attributeTail? cs with
        | some a =>
            simp only [reduceCtorEq, false_iff]
            intro h
            exact h [c] a (.inl ⟨rfl, (attributeTail?_eq_some_iff cs a).1 ht⟩)
        | none =>
            -- no attribute name starts right after `c`: only the splits of `cs` are left
            have hno : ∀ a, ¬ IsAttributeTail cs a := fun a h => by
              rw [← attributeTail?_eq_some_iff, ht] at h
              cases h
            rw [Option.map_eq_none_iff, splitAttributeFrom_eq_none_iff cs]
            constructor
            · rintro h e a (⟨-, htail⟩ | ⟨e₁, -, hs⟩)
              · exact hno a htail
              · exact h e₁ a hs
            · intro h e a hs
              exact h (c :: e) a (.inr ⟨e, rfl, hs⟩)

theorem splitAttributeFrom_eq_some_iff :
    ∀ cs e a : List Char, splitAttributeFrom [] cs = some (e, a) ↔ ShortestAttributeSplit cs e a
  | [], e, a => by
      simp only [splitAttributeFrom, reduceCtorEq, false_iff]
      rintro ⟨⟨he, -, s, h, -⟩, -⟩
      exact he (List.append_eq_nil_iff.mp h.symm).1
  | c :: cs, e, a => by
      rw [splitAttributeFrom_cons]
      by_cases hc : c = '\n'
      · subst hc
        simp only [beq_self_eq_true, if_true, reduceCtorEq, false_iff]
        rintro ⟨h, -⟩
        exact ((attributeSplit_cons_iff _ _ _ _).1 h).1 rfl
      · have hc' : (c == '\n') = false := by simpa using hc
        simp only [hc', Bool.false_eq_true, if_false]
        cases ht : attributeTail? cs with
        | some a₀ =>
            rw [shortestAttributeSplit_cons_of_tail hc ((attributeTail?_eq_some_iff cs a₀).1 ht)]
            simp only [Option.some.injEq, Prod.mk.injEq, @eq_comm _ [c], @eq_comm _ a₀]
        | none =>
            have hno : ∀ a, ¬ IsAttributeTail cs a := fun a h => by
              rw [← attributeTail?_eq_some_iff, ht] at h
              cases h
            rw [shortestAttributeSplit_cons_of_no_tail hc hno, Option.map_eq_some_iff]
            constructor
            · rintro ⟨⟨e₁, a₁⟩, h, he⟩
              simp only [Prod.mk.injEq] at he
              obtain ⟨rfl, rfl⟩ := he
              exact ⟨e₁, rfl, (splitAttributeFrom_eq_some_iff cs e₁ a₁).1 h⟩
            · rintro ⟨e₁, rfl, hs₁⟩
              exact ⟨(e₁, a), (splitAttributeFrom_eq_some_iff cs e₁ a).2 hs₁, rfl⟩

/-- The shortest split is one: it is the answer of the walk. -/
theorem ShortestAttributeSplit.unique {t e a e' a' : List Char} (h : ShortestAttributeSplit t e a)
    (h' : ShortestAttributeSplit t e' a') : e = e' ∧ a = a' := by
  have hw := (splitAttributeFrom_eq_some_iff t e a).2 h
  rw [(splitAttributeFrom_eq_some_iff t e' a').2 h', Option.some.injEq, Prod.mk.injEq] at hw
  exact ⟨hw.1.symm, hw.2.symm⟩

theorem splitAttribute?_eq_none_iff (target : String) :
    splitAttribute? target = none ↔ ∀ e a, ¬ AttributeSplit target.toList e a := by
  unfold splitAttribute?
  rw [Option.map_eq_none_iff]
  exact splitAttributeFrom_eq_none_iff target.toList

theorem splitAttribute?_eq_some_iff (target element attr : String) :
    splitAttribute? target = some (element, attr) ↔
      ∃ e a, ShortestAttributeSplit target.toList e a ∧
        element = String.ofList e ∧ attr = String.ofList a := by
  unfold splitAttribute?
  rw [Option.map_eq_some_iff]
  constructor
  · rintro ⟨⟨e, a⟩, h, he⟩
    simp only [Prod.mk.injEq] at he
    exact ⟨e, a, (splitAttributeFrom_eq_some_iff _ e a).1 h, he.1.symm, he.2.symm⟩
  · rintro ⟨e, a, h, rfl, rfl⟩
    exact ⟨(e, a), (splitAttributeFrom_eq_some_iff _ e a).2 h, rfl⟩

end Transcribe
