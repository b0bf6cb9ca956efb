import Transcribe.Proofs.StepTemplates
import Transcribe.Proofs.Conversion
/-!
# `Proofs.RecordedText` — recorded text does not change the shape of a step's code

## What is proved, for every variant, receiver and timing

Take a configuration whose receiver is a PHP variable, and two steps of one form (one
command name, the same arguments present, under WebDriver the same locator strategy and,
for `select`, the same kind of option) whose recorded texts are plain: none of `"`, `'`,
`\`, `$`, `?` or a line break, a command name that is a PHP name, and a name for the
variable of `storeAttribute`. If both steps are translated or both are refused, the
lines each becomes under `translateStep`, joined, lex into two token lists that pair off
one to one: the tokens have one kind, and one text outside the bodies of literals and
comments and outside the variable a `storeAttribute` names. In each list the brackets
`()`, `[]` and `{}` nest.

## What it is not

* Recorded text is written into double-quoted literals, single-quoted patterns and
  attribute names, and line comments as it is, without escapes. A target that ends in a
  backslash escapes the closing quote of its literal; a quote, a `$`, a `?` or a line break
  closes a literal or a comment early or opens an interpolation. The plain texts are those
  that none of this can happen to.
* `select` picks its option by label or by value with two different methods, so two
  `select` steps agree only when both name a label or both a value.
* The receiver is written as it is: it must be code that reads as one variable.

## How

`joinLines_translate` turns each step's lines into its rule's template filled with the
step's texts, and `Template.lex_alike` compares two fillings of one checked template.
What is left here is to show that the texts fit their holes (`stepEnv_fits`), that the
shared holes are filled alike (`stepEnv_shared`), and that two steps of one form have
one template (`stepTemplate_eq`); the marker lines are one comment each
(`lex_skippedStepLine`). `Proofs.GeneratedFile` carries the comparison over to whole files.
-/

namespace Transcribe

open Transcribe.Php Transcribe.Text Transcribe.Translate

/-! ## Characters -/

namespace Php

/-- A character that a line comment keeps: neither a line break nor `?`. -/
def staysInComment (c : Char) : Bool := !(isLineBreak c || c == '?')

theorem staysInComment_iff {c : Char} :
    staysInComment c = true ↔ isLineBreak c = false ∧ c ≠ '?' := by
  simp [staysInComment]

theorem staysInComment_of_isPlain {c : Char} (h : isPlain c = true) : staysInComment c = true := by
  simp only [isPlain, Bool.not_eq_eq_eq_not, Bool.not_true, Bool.or_eq_false_iff,
    beq_eq_false_iff_ne] at h
  exact staysInComment_iff.2 ⟨h.2, h.1.2⟩

/-- Name characters are plain: letters, digits, `_` and the characters beyond ASCII. -/
theorem isPlain_of_isNameChar {c : Char} (h : isNameChar c = true) : isPlain c = true := by
  simp only [isPlain, isLineBreak, Bool.not_eq_eq_eq_not, Bool.not_true, Bool.or_eq_false_iff,
    beq_eq_false_iff_ne, ne_eq]
  refine ⟨⟨⟨⟨⟨?_, ?_⟩, ?_⟩, ?_⟩, ?_⟩, ?_, ?_⟩ <;>
  · rintro rfl
    exact absurd h (by decide)

theorem isNameChar_of_isDigit {c : Char} (h : c.isDigit = true) : isNameChar c = true := by
  simp [isNameChar, Char.isAlphanum, h]

/-- The decimal digits of a number are digits, and there is one at least. -/
theorem digits_fits (n : Nat) : HoleKind.digits.Fits (toString n).toList := by
  refine ⟨?_, fun c hc => ?_⟩
  · simp [Nat.toList_repr, Nat.toDigits_ne_nil]
  · simp only [toString, Nat.toList_repr] at hc
    exact Nat.isDigit_of_mem_toDigits (by decide) (by decide) hc

end Php

/-! ## Texts derived from a step's texts

The locator's value, the option of a `select` and the two parts of a `storeAttribute`
target are cut from the recorded texts; the css rule adds only `.`. -/

theorem optionArgument?_subset {key option arg : String}
    (h : WebDriver.optionArgument? key option = some arg) : arg.toList ⊆ option.toList := by
  obtain ⟨s, hs, hm⟩ := Text.firstMatch_eq_some h
  split at hm
  · split at hm
    · cases hm
    · cases hm
      -- the argument is read from the suffix, after the key
      rw [String.toList_ofList]
      exact fun x hx => hs.subset (List.drop_subset _ _ ((List.takeWhile_prefix _).subset hx))
  · cases hm

theorem selectedOption_subset (v : String) : (selectedOption v).toList ⊆ v.toList := by
  unfold selectedOption
  split
  case h_1 label hl => exact optionArgument?_subset hl
  case h_2 =>
    cases hv : WebDriver.optionArgument? "value=" v with
    | some arg => exact optionArgument?_subset hv
    | none => simp

theorem splitAttribute?_subset {target element attr : String}
    (h : WebDriver.splitAttribute? target = some (element, attr)) :
    element.toList ⊆ target.toList ∧ attr.toList ⊆ target.toList := by
  obtain ⟨e, a, ⟨⟨-, -, s, ht, -, -, hs⟩, -⟩, rfl, rfl⟩ := (splitAttribute?_eq_some_iff _ _ _).1 h
  rw [String.toList_ofList, String.toList_ofList, ht]
  refine ⟨List.subset_append_left e s, fun x hx => List.mem_append_right e ?_⟩
  rcases hs with rfl | rfl <;> simp [hx]

theorem lookupTarget_subset (c : Command) : (lookupTarget c).toList ⊆ c.targetText.toList := by
  unfold lookupTarget
  split
  · cases h : WebDriver.splitAttribute? c.targetText with
    | some p => simpa [h] using (splitAttribute?_subset h).1
    | none => simp
  · exact List.Subset.refl _

/-- Substitution keeps a property of characters that the matches keep. -/
theorem forall_mem_substitute {P : Char → Prop} {m : List Char → Option (List Char × List Char)}
    (hm : ∀ cs out rest, m cs = some (out, rest) → (∀ x ∈ cs, P x) → ∀ x ∈ out ++ rest, P x)
    (cs : List Char) (hcs : ∀ x ∈ cs, P x) : ∀ x ∈ substitute m cs, P x := by
  fun_induction substitute m cs with
  | case1 => simp
  | case2 c cs out rest hmatch _ ih =>
    have hall := hm _ _ _ hmatch hcs
    intro x hx
    rcases List.mem_append.1 hx with hx | hx
    · exact hall x (List.mem_append_left _ hx)
    · exact ih (fun y hy => hall y (List.mem_append_right _ hy)) x hx
  | case3 c cs out rest _ _ ih | case4 c cs _ ih =>
    intro x hx
    rcases List.mem_cons.1 hx with rfl | hx
    · exact hcs x List.mem_cons_self
    · exact ih (fun y hy => hcs y (List.mem_cons_of_mem c hy)) x hx

theorem forall_mem_replaceAll {P : Char → Prop} {pat rep s : String} (hrep : ∀ x ∈ rep.toList, P x)
    (hs : ∀ x ∈ s.toList, P x) : ∀ x ∈ (replaceAll pat rep s).toList, P x := by
  unfold replaceAll
  rw [String.toList_ofList]
  refine forall_mem_substitute (fun cs out rest hmatch hcs x hx => ?_) _ hs
  unfold literal at hmatch
  split at hmatch
  · cases hmatch
    rcases List.mem_append.1 hx with hx | hx
    · exact hrep x hx
    · exact hcs x (List.drop_subset _ _ hx)
  · cases hmatch

theorem prefixed?_subset {cs p r : List Char} (h : prefixed? cs = some (p, r)) : r ⊆ cs := by
  unfold prefixed? at h
  split at h
  case h_1 p' rest _ hd =>
    split at h
    · cases h
    · cases h
      -- the rest is cut from the text after the prefix and its `=`
      intro x hx
      have hrest : rest ⊆ cs := fun y hy =>
        (List.dropWhile_suffix isLowerAscii).subset (by rw [hd]; exact List.mem_cons_of_mem _ hy)
      exact hrest ((List.takeWhile_prefix _).subset hx)
  case h_2 => cases h

/-- A locator's value is cut from its selector, with `.` the only character it may add. -/
theorem Locator.forall_mem_value {P : Char → Prop} {selector : String} {l : Locator}
    (h : Locator.resolve selector = .ok l) (hdot : P '.') (hs : ∀ x ∈ selector.toList, P x) :
    ∀ x ∈ l.value.toList, P x := by
  unfold Locator.resolve at h
  split at h
  · cases h
    exact hs
  · split at h
    case h_1 p r hp =>
      have hr : ∀ x ∈ r, P x := fun x hx => hs x (prefixed?_subset hp hx)
      split at h
      · cases h
        exact forall_mem_replaceAll (by simpa using hdot) (by simpa using hr)
      · cases h
        simpa using hr
      · cases h
    case h_2 => cases h

theorem Strategy.method_isName (s : Strategy) : IsName s.method.toList := by
  cases s <;> decide

/-! ## Where the locator's method and the store's variable stand

Both are holes of WebDriver rules only: the method of the rules that look an element up
and of the store's, the variable of the store's alone. -/

theorem lookup_mem_webDriverTemplate {b : Bool} {ρ : WebDriver.Rule}
    (h : Slot.hole Hole.lookup ∈ (webDriverTemplate b ρ).slots) :
    ρ.looksUpTarget = true ∨ ρ = .storeAttribute := by
  revert h
  cases ρ <;> cases b <;> decide

theorem store_mem_webDriverTemplate {b : Bool} {ρ : WebDriver.Rule}
    (h : Slot.hole Hole.store ∈ (webDriverTemplate b ρ).slots) : ρ = .storeAttribute := by
  revert h
  cases ρ <;> cases b <;> decide

theorem derived_not_mem_legacyTemplate {h : Hole} (hh : h = .lookup ∨ h = .store)
    (ρ : Legacy.Rule) : Slot.hole h ∉ (legacyTemplate ρ).slots := by
  rcases hh with rfl | rfl <;> cases ρ <;> decide

theorem derived_not_mem_callTemplate {h : Hole} (hh : h = .lookup ∨ h = .store)
    (target value : Bool) : Slot.hole h ∉ Template.slots [callOf (.hole .command) target value] := by
  rcases hh with rfl | rfl <;> cases target <;> cases value <;> decide

theorem webDriverRule_of_derived_mem {t : Translator} {c : Command} {h : Hole}
    (hh : h = .lookup ∨ h = .store) (hm : Slot.hole h ∈ (stepTemplate t c).slots) :
    t.variant = .webDriver ∧ ∃ ρ, WebDriver.Rule.ofName? c.name = some ρ ∧
      Slot.hole h ∈ (webDriverTemplate (optionByLabel c) ρ).slots := by
  unfold stepTemplate at hm
  split at hm
  · exfalso
    split at hm
    · exact derived_not_mem_legacyTemplate hh _ hm
    · exact derived_not_mem_callTemplate hh _ _ hm
  · rename_i hv
    split at hm
    · rename_i ρ hρ
      exact ⟨hv, ρ, hρ, hm⟩
    · exact absurd hm (derived_not_mem_callTemplate hh _ _)

theorem resolve_of_lookupLocator? {c : Command} {l : Locator} (h : lookupLocator? c = some l) :
    Locator.resolve (lookupTarget c) = .ok l := by
  unfold lookupLocator? at h
  cases hr : Locator.resolve (lookupTarget c) <;> simp_all [Except.toOption]

/-- A step whose code looks an element up and that is translated names an element: its
target, or for a store the element part of its target. -/
theorem lookupLocator?_of_translate {t : Translator} {c : Command} {ls : List String}
    (h : t.translate c = .ok ls) (hm : Slot.hole Hole.lookup ∈ (stepTemplate t c).slots) :
    ∃ l, lookupLocator? c = some l := by
  obtain ⟨hv, ρ, hρ, hm⟩ := webDriverRule_of_derived_mem (.inl rfl) hm
  -- a translated step is refused for no reason
  have hno : ∀ err, ¬ Refused c err := by
    intro err hr
    have he := (Translator.translate_eq_error_iff t c err).2 ⟨hv, hr⟩
    rw [h] at he
    cases he
  rcases lookup_mem_webDriverTemplate hm with hlook | rfl
  · have hres : Resolves c.targetText := Classical.not_not.mp fun hres =>
      hno _ (.unknownTarget ((mem_lookupCommands_iff hρ).2 hlook) hres)
    have hname : c.name ≠ "storeAttribute" := by
      intro hn
      rw [(@WebDriver.Rule.name_eq_iff _ _ hρ .storeAttribute _ rfl).1 hn] at hlook
      cases hlook
    obtain ⟨l, hl⟩ := hres
    exact ⟨l, by simp [lookupLocator?, lookupTarget, hname, hl, Except.toOption]⟩
  · have hname : c.name = "storeAttribute" := (WebDriver.Rule.name_eq_iff hρ rfl).2 rfl
    cases hs : WebDriver.splitAttribute? c.targetText with
    | none => exact absurd (.missingAttribute hname ((splitAttribute?_eq_none_iff _).1 hs)) (hno _)
    | some p =>
      obtain ⟨element, attr⟩ := p
      obtain ⟨e, a, hshort, rfl, rfl⟩ := (splitAttribute?_eq_some_iff _ _ _).1 hs
      have hres : Resolves (String.ofList e) := Classical.not_not.mp fun hres =>
        hno _ (.unknownElement hname hshort hres)
      obtain ⟨l, hl⟩ := hres
      exact ⟨l, by simp [lookupLocator?, lookupTarget, hname, hs, hl, Except.toOption]⟩

theorem store_mem_stepTemplate {t : Translator} {c : Command}
    (hm : Slot.hole Hole.store ∈ (stepTemplate t c).slots) : c.name = "storeAttribute" := by
  obtain ⟨-, ρ, hρ, hm⟩ := webDriverRule_of_derived_mem (.inr rfl) hm
  have hstore := store_mem_webDriverTemplate hm
  subst hstore
  exact (WebDriver.Rule.name_eq_iff hρ rfl).2 rfl

/-! ## Steps of one form -/

/-- Recorded texts that the generated code holds as they are: a target and a value
without quotes, backslashes, `$`, `?` and line breaks, a command name that is a PHP name,
and for `storeAttribute` a value that names a variable. -/
structure Command.Plain (c : Command) : Prop where
  name : IsName c.name.toList
  target : ∀ x ∈ c.targetText.toList, isPlain x = true
  value : ∀ x ∈ c.valueText.toList, isPlain x = true
  store : c.name = "storeAttribute" → IsName c.valueText.toList

/-- A plain target holds no `?`. -/
theorem Command.Plain.question_not_mem {c : Command} (hp : c.Plain) : '?' ∉ c.targetText.toList :=
  fun hq => absurd (hp.target _ hq) (by decide)

/-- Two steps of one form under a translator: one command name, the same arguments
present, and under WebDriver one locator strategy where both name an element and one kind
of option for `select`. -/
structure Command.SameForm (t : Translator) (c₁ c₂ : Command) : Prop where
  name : c₁.name = c₂.name
  target : c₁.target.isSome = c₂.target.isSome
  value : c₁.value.isSome = c₂.value.isSome
  strategy : t.variant = .webDriver → ∀ l₁ l₂, lookupLocator? c₁ = some l₁ →
    lookupLocator? c₂ = some l₂ → l₁.strategy = l₂.strategy
  option : t.variant = .webDriver → c₁.name = "select" → optionByLabel c₁ = optionByLabel c₂

/-- The variable that a `storeAttribute` step names, with its `$`. -/
def Command.storedVariable? (c : Command) : Option (List Char) :=
  if c.name = "storeAttribute" then some ('$' :: c.valueText.toList) else none

/-- A translated step with plain texts fills every hole of its code with a text of the
hole's kind. -/
theorem stepEnv_fits {t : Translator} {c : Command} {ls : List String}
    (hr : IsVariable t.receiver.toList) (hp : c.Plain) (h : t.translate c = .ok ls) :
    (stepTemplate t c).Fits Hole.kind (stepEnv t c) := by
  intro hole hm
  cases hole with
  | receiver => exact hr
  | command => exact hp.name
  | target => exact hp.target
  | value => exact hp.value
  | lookup =>
    obtain ⟨l, hl⟩ := lookupLocator?_of_translate h hm
    simp only [Hole.kind, HoleKind.Fits, stepEnv, hl, Option.map_some, Option.getD_some]
    exact l.strategy.method_isName
  | locator =>
    intro x hx
    cases hl : lookupLocator? c with
    | none => simp [stepEnv, hl] at hx
    | some l =>
      simp only [stepEnv, hl, Option.map_some, Option.getD_some] at hx
      exact Locator.forall_mem_value (resolve_of_lookupLocator? hl) (by decide)
        (fun y hy => hp.target y (lookupTarget_subset c hy)) x hx
  | option => exact fun x hx => hp.value x (selectedOption_subset _ hx)
  | «attribute» =>
    intro x hx
    cases hs : WebDriver.splitAttribute? c.targetText with
    | none => simp [stepEnv, hs] at hx
    | some p =>
      simp only [stepEnv, hs, Option.map_some, Option.getD_some] at hx
      exact hp.target x ((splitAttribute?_subset hs).2 hx)
  | store => exact hp.store (store_mem_stepTemplate hm)
  | rounds => exact digits_fits t.timing.waitLoopIterations.toNat
  | interval => exact digits_fits t.timing.waitLoopIntervalSecs.toNat
  | waitMs => exact digits_fits t.timing.waitUntilTimeoutMs.toNat
  | pageLoad =>
    exact fun x hx => isPlain_of_isNameChar (isNameChar_of_isDigit
      ((digits_fits t.timing.pageLoadTimeoutMs.toNat).2 x hx))

/-- Only `select` chooses its code by the kind of its option. -/
theorem webDriverTemplate_of_ne_select {ρ : WebDriver.Rule} (h : ρ ≠ .select) (b b' : Bool) :
    webDriverTemplate b ρ = webDriverTemplate b' ρ := by
  cases ρ
  case select => exact absurd rfl h
  all_goals rfl

theorem stepTemplate_eq {t : Translator} {c₁ c₂ : Command} (hform : c₁.SameForm t c₂) :
    stepTemplate t c₁ = stepTemplate t c₂ := by
  unfold stepTemplate
  rw [hform.name, hform.target, hform.value]
  cases hv : t.variant with
  | legacy => rfl
  | webDriver =>
    dsimp only
    cases hρ : WebDriver.Rule.ofName? c₂.name with
    | none => rfl
    | some ρ =>
      dsimp only
      by_cases hsel : ρ = .select
      · subst hsel
        rw [hform.option hv (hform.name ▸ (WebDriver.Rule.name_eq_iff hρ rfl).2 rfl)]
      · exact webDriverTemplate_of_ne_select hsel _ _

/-- Two translated steps of one form fill the shared holes of their code alike: the
receiver and timing are the translator's, the command name is one, and the locator's
method is that of the one strategy. -/
theorem stepEnv_shared {t : Translator} {c₁ c₂ : Command} {ls₁ ls₂ : List String}
    (hform : c₁.SameForm t c₂) (h₁ : t.translate c₁ = .ok ls₁) (h₂ : t.translate c₂ = .ok ls₂) :
    ∀ h, Slot.hole h ∈ (stepTemplate t c₁).slots → Hole.shared h = true →
      stepEnv t c₁ h = stepEnv t c₂ h := by
  intro hole hm hs
  cases hole
  case command => simp [stepEnv, hform.name]
  case lookup =>
    have hv := (webDriverRule_of_derived_mem (.inl rfl) hm).1
    obtain ⟨l₁, hl₁⟩ := lookupLocator?_of_translate h₁ hm
    obtain ⟨l₂, hl₂⟩ := lookupLocator?_of_translate h₂ (stepTemplate_eq hform ▸ hm)
    simp [stepEnv, hl₁, hl₂, hform.strategy hv l₁ l₂ hl₁ hl₂]
  case receiver | rounds | interval | pageLoad | waitMs => rfl
  all_goals exact absurd hs (by decide)

theorem Token.Alike.of_none {v₁ v₂ : Option (List Char)} {a b : Token Char}
    (h : Token.Alike none none a b) : Token.Alike v₁ v₂ a b := by
  obtain ⟨hk, hb | ht | ⟨-, hv, -⟩⟩ := h
  · exact ⟨hk, .inl hb⟩
  · exact ⟨hk, .inr (.inl ht)⟩
  · cases hv

/-- The free hole of a step's code, filled, is the variable the step stores. -/
theorem stepFree_map {t : Translator} {c₁ c₂ : Command} (hn : c₁.name = c₂.name) {a b : Token Char}
    (h : Token.Alike ((stepFree t c₁).map fun h => '$' :: stepEnv t c₁ h)
      ((stepFree t c₁).map fun h => '$' :: stepEnv t c₂ h) a b) :
    Token.Alike c₁.storedVariable? c₂.storedVariable? a b := by
  unfold stepFree at h
  split at h
  case isTrue hs =>
    simpa [Command.storedVariable?, hs.2, ← hn, stepEnv] using h
  case isFalse => exact Token.Alike.of_none h

/-- Two translated steps of one form with plain texts lex alike. -/
theorem translate_lex_alike {t : Translator} {c₁ c₂ : Command} {ls₁ ls₂ : List String}
    (hr : IsVariable t.receiver.toList) (hp₁ : c₁.Plain) (hp₂ : c₂.Plain)
    (hform : c₁.SameForm t c₂) (h₁ : t.translate c₁ = .ok ls₁) (h₂ : t.translate c₂ = .ok ls₂) :
    ∃ ts₁ ts₂, lex (joinLines ls₁) = some ts₁ ∧ lex (joinLines ls₂) = some ts₂ ∧
      List.Forall₂ (Token.Alike c₁.storedVariable? c₂.storedVariable?) ts₁ ts₂ ∧
      Balanced ts₁ ∧ Balanced ts₂ := by
  have hf₂ := stepEnv_fits hr hp₂ h₂
  rw [← stepTemplate_eq hform] at hf₂
  rw [joinLines_translate h₁ hp₁.question_not_mem, joinLines_translate h₂ hp₂.question_not_mem,
    ← stepTemplate_eq hform]
  obtain ⟨ts₁, ts₂, hl₁, hl₂, hall, hb₁, hb₂⟩ := Template.lex_alike (stepTemplate_check t c₁)
    (stepEnv_fits hr hp₁ h₁) hf₂ (stepEnv_shared hform h₁ h₂)
  exact ⟨ts₁, ts₂, hl₁, hl₂, hall.imp fun _ _ => stepFree_map hform.name, hb₁, hb₂⟩

/-! ## Marker lines -/

namespace Php

/-- A text that a line comment keeps whole. -/
def CommentText (s : String) : Prop := ∀ x ∈ s.toList, staysInComment x = true

instance : DecidablePred CommentText := fun s =>
  decidable_of_iff (s.toList.all staysInComment = true) List.all_eq_true

theorem CommentText.append {s₁ s₂ : String} (h₁ : CommentText s₁) (h₂ : CommentText s₂) :
    CommentText (s₁ ++ s₂) := by
  intro x hx
  rw [String.toList_append] at hx
  rcases List.mem_append.1 hx with hx | hx
  · exact h₁ x hx
  · exact h₂ x hx

theorem CommentText.of_subset {s₁ s₂ : String} (h : s₁.toList ⊆ s₂.toList) (h₂ : CommentText s₂) :
    CommentText s₁ :=
  fun x hx => h₂ x (h hx)

theorem commentText_of_plain {s : String} (h : ∀ x ∈ s.toList, isPlain x = true) : CommentText s :=
  fun x hx => staysInComment_of_isPlain (h x hx)

theorem isNameChar_of_isName {cs : List Char} (h : IsName cs) : ∀ x ∈ cs, isNameChar x = true := by
  obtain _ | ⟨d, ds⟩ := cs
  · exact h.elim
  · intro x hx
    rcases List.mem_cons.1 hx with rfl | hx
    · exact isNameChar_of_isNameStart h.1
    · exact h.2 x hx

end Php

section Markers

variable {c : Command}

/-- The step as messages quote it stays in a line comment. -/
theorem commentText_display (hp : c.Plain) : CommentText c.display := by
  have hn : CommentText c.name := fun x hx =>
    staysInComment_of_isPlain (isPlain_of_isNameChar (isNameChar_of_isName hp.name x hx))
  have ht := commentText_of_plain hp.target
  have hv := commentText_of_plain hp.value
  obtain ⟨name, target, value⟩ := c
  -- the name, the arguments present and the punctuation around them
  cases target <;> cases value
  · exact hn.append (by decide)
  · exact ((hn.append (by decide)).append hv).append (by decide)
  · exact ((hn.append (by decide)).append ht).append (by decide)
  · exact ((((hn.append (by decide)).append ht).append (by decide)).append hv).append (by decide)

/-- The reason a step is refused stays in a line comment: it quotes the target, the value
or the element part of the target. -/
theorem commentText_message (hp : c.Plain) {err : TargetError} (hr : Refused c err) :
    CommentText err.message := by
  have ht := commentText_of_plain hp.target
  have hv := commentText_of_plain hp.value
  cases hr with
  | unknownTarget => exact ((show CommentText "Unknown selector '" by decide).append ht).append (by decide)
  | unknownOption =>
    exact ((show CommentText "Unknown option selector '" by decide).append hv).append (by decide)
  | missingAttribute =>
    exact ((show CommentText "Attribute locator '" by decide).append ht).append (by decide)
  | unknownElement _ hshort =>
    -- the element part is the front of the target
    obtain ⟨⟨-, -, s, hts, -⟩, -⟩ := hshort
    have he : CommentText (String.ofList _) := ht.of_subset (by
      rw [String.toList_ofList, hts]
      exact List.subset_append_left _ s)
    exact ((show CommentText "Unknown selector '" by decide).append he).append (by decide)

/-- The marker line of a refused step with plain texts is `//` and a text that a line comment
keeps whole. -/
theorem skippedStepLine_toList (hp : c.Plain) {err : TargetError} (hr : Refused c err) :
    ∃ body, (skippedStepLine c err).toList = '/' :: '/' :: body ∧
      ∀ x ∈ body, isLineBreak x = false ∧ x ≠ '?' := by
  have hhead : "// selenium2php: cannot convert ".toList =
      '/' :: '/' :: " selenium2php: cannot convert ".toList := by
    rw [toList_eq_of_eq_ofList rfl, toList_eq_of_eq_ofList rfl]
  have hlead : CommentText " selenium2php: cannot convert " := by decide
  have hbody := ((hlead.append (commentText_display hp)).append (show CommentText ": " by decide)).append
    (commentText_message hp hr)
  have hline : (skippedStepLine c err).toList =
      '/' :: '/' :: (" selenium2php: cannot convert " ++ c.display ++ ": " ++ err.message).toList := by
    -- unfolded, not rewritten: closing the rewritten goal by reflexivity reads the literals
    unfold skippedStepLine
    rw [String.toList_append, String.toList_append, String.toList_append, hhead,
      String.toList_append, String.toList_append, String.toList_append]
    simp only [List.cons_append]
  exact ⟨_, hline, fun x hx => staysInComment_iff.1 (hbody x hx)⟩

/-- The marker line of a refused step with plain texts is one line comment. -/
theorem lex_skippedStepLine (hp : c.Plain) {err : TargetError} (hr : Refused c err) :
    ∃ body, lex (skippedStepLine c err).toList = some [⟨.comment, body⟩] := by
  obtain ⟨body, hline, hbody⟩ := skippedStepLine_toList hp hr
  rw [hline]
  exact ⟨body, lex_lineComment hbody⟩

end Markers

/-- Two refused steps with plain texts have marker lines that are one comment each. -/
theorem markers_lex_alike {c₁ c₂ : Command} {err₁ err₂ : TargetError} (hp₁ : c₁.Plain)
    (hp₂ : c₂.Plain) (hr₁ : Refused c₁ err₁) (hr₂ : Refused c₂ err₂) (v₁ v₂ : Option (List Char)) :
    ∃ ts₁ ts₂, lex (joinLines [skippedStepLine c₁ err₁]) = some ts₁ ∧
      lex (joinLines [skippedStepLine c₂ err₂]) = some ts₂ ∧
      List.Forall₂ (Token.Alike v₁ v₂) ts₁ ts₂ ∧ Balanced ts₁ ∧ Balanced ts₂ := by
  obtain ⟨b₁, hb₁⟩ := lex_skippedStepLine hp₁ hr₁
  obtain ⟨b₂, hb₂⟩ := lex_skippedStepLine hp₂ hr₂
  have hjoin : ∀ s, joinLines [s] = s.toList := fun s => by simp [joinLines]
  rw [hjoin, hjoin]
  exact ⟨_, _, hb₁, hb₂, .cons ⟨rfl, .inl rfl⟩ .nil, rfl, rfl⟩

/-! ## Steps under a configuration -/

/-- A step's lines under a configuration are its translation, or the marker line of its
refusal. -/
theorem translateStep_cases {config : Config} {c : Command} {ls : List String}
    (h : translateStep config c = .ok ls) :
    (Translator.ofConfig config).translate c = .ok ls ∨
      ∃ err, (Translator.ofConfig config).translate c = .error err ∧
        ls = [skippedStepLine c err] := by
  unfold translateStep at h
  cases e : (Translator.ofConfig config).translate c with
  | ok lines =>
    rw [e] at h
    exact .inl (congrArg Except.ok (Except.ok.inj h))
  | error err =>
    rw [e] at h
    dsimp only at h
    split at h
    · exact .inr ⟨err, rfl, (Except.ok.inj h).symm⟩
    · cases h

/-- Two steps that are both translated or both refused become two translations, or the marker
lines of two refusals. -/
theorem translateStep_pair_cases {config : Config} {c₁ c₂ : Command}
    (hok : ((Translator.ofConfig config).translate c₁).isOk =
      ((Translator.ofConfig config).translate c₂).isOk)
    {ls₁ ls₂ : List String} (h₁ : translateStep config c₁ = .ok ls₁)
    (h₂ : translateStep config c₂ = .ok ls₂) :
    ((Translator.ofConfig config).translate c₁ = .ok ls₁ ∧
      (Translator.ofConfig config).translate c₂ = .ok ls₂) ∨
    ∃ err₁ err₂, Refused c₁ err₁ ∧ Refused c₂ err₂ ∧ ls₁ = [skippedStepLine c₁ err₁] ∧
      ls₂ = [skippedStepLine c₂ err₂] := by
  have refused : ∀ {c err}, (Translator.ofConfig config).translate c = .error err → Refused c err :=
    fun e => ((Translator.translate_eq_error_iff _ _ _).1 e).2
  rcases translateStep_cases h₁ with e₁ | ⟨err₁, e₁, rfl⟩ <;>
    rcases translateStep_cases h₂ with e₂ | ⟨err₂, e₂, rfl⟩
  case inl.inl => exact .inl ⟨e₁, e₂⟩
  case inr.inr => exact .inr ⟨err₁, err₂, refused e₁, refused e₂, rfl, rfl⟩
  -- one translated and one refused is excluded
  all_goals rw [e₁, e₂] at hok; cases hok

/-- Two steps of one form with plain texts, under a configuration whose receiver is a
variable, that are both translated or both refused become lines that lex alike: token for
token of one kind and, outside literal and comment bodies and a stored variable, of one
text, with brackets that nest. -/
theorem plain_steps_lex_alike {config : Config} {c₁ c₂ : Command}
    (hr : IsVariable config.receiver.toList) (hp₁ : c₁.Plain) (hp₂ : c₂.Plain)
    (hform : c₁.SameForm (Translator.ofConfig config) c₂)
    (hok : ((Translator.ofConfig config).translate c₁).isOk =
      ((Translator.ofConfig config).translate c₂).isOk)
    {ls₁ ls₂ : List String} (h₁ : translateStep config c₁ = .ok ls₁)
    (h₂ : translateStep config c₂ = .ok ls₂) :
    ∃ ts₁ ts₂, lex (joinLines ls₁) = some ts₁ ∧ lex (joinLines ls₂) = some ts₂ ∧
      List.Forall₂ (Token.Alike c₁.storedVariable? c₂.storedVariable?) ts₁ ts₂ ∧
      Balanced ts₁ ∧ Balanced ts₂ := by
  rcases translateStep_pair_cases hok h₁ h₂ with ⟨e₁, e₂⟩ | ⟨err₁, err₂, hr₁, hr₂, rfl, rfl⟩
  · exact translate_lex_alike hr hp₁ hp₂ hform e₁ e₂
  · exact markers_lex_alike hp₁ hp₂ hr₁ hr₂ _ _

end Transcribe
