import Transcribe.Translate.Translator
import Transcribe.Proofs.Arguments
/-!
# `Proofs.Refusal` — a step is refused exactly when one of its arguments names nothing

## What is proved, for every translator and every step

    t.translate c = .error err ↔ t.variant = .webDriver ∧ Refused c err

where `Refused` reads the reason off the step alone, by command name:

| command | refused when | with |
| :-- | :-- | :-- |
| one of the thirteen of `lookupCommands` | the target names no element | `unknownSelector` of the target |
| `select` | the target names an element, and neither `label=` nor `value=` has text after it | `unknownOptionSelector` of the value |
| `storeAttribute` | the target has no `…/@name` or `…@name` split | `missingAttribute` of the target |
| `storeAttribute` | the element part of the shortest split names no element | `unknownSelector` of that part |

So the remote-control translation never refuses a step, an unknown option never hides an
unknown element (the element is looked up first), and a missing attribute never hides an
unknown element part (the split comes first). Besides, every translation that succeeds
has at least one line, and a command without a rule of its own becomes the one direct
call in either variant.

## How

The name table is said once (`Rule.ofName?_eq_some_iff`); each rule's refusals are
said once (`Rule.lines_eq_error_iff`), in terms of the argument readers of
`Proofs.Arguments`, the two rules that read more than their target having lemmas of their
own (`Rule.select_lines_eq_error_iff`, `Rule.storeAttribute_lines_eq_error_iff`);
`refused_iff` matches the two, name by name.
-/

namespace Transcribe

open Transcribe.Text Transcribe.Php Transcribe.Translate

/-! ## Bind in `Except` -/

section Bind

variable {ε α β : Type}

theorem Except.bind_eq_error_iff (x : Except ε α) (f : α → Except ε β) (e : ε) :
    x >>= f = .error e ↔ x = .error e ∨ ∃ a, x = .ok a ∧ f a = .error e := by
  cases x <;> simp [bind, Except.bind]

theorem Except.bind_eq_ok_iff (x : Except ε α) (f : α → Except ε β) (b : β) :
    x >>= f = .ok b ↔ ∃ a, x = .ok a ∧ f a = .ok b := by
  cases x <;> simp [bind, Except.bind]

end Bind

namespace Translate.WebDriver

/-! ## The WebDriver name table -/

/-- The command names of each rule. -/
def Rule.names : Rule → List String
  | .openUrl => ["open"]
  | .typeText => ["type"]
  | .sendKeys => ["sendKeys"]
  | .click => ["click", "clickAndWait"]
  | .select => ["select"]
  | .assertText => ["assertText"]
  | .assertNotText => ["assertNotText"]
  | .assertElementPresent => ["assertElementPresent"]
  | .assertElementNotPresent => ["assertElementNotPresent"]
  | .waitForElementPresent => ["waitForElementPresent"]
  | .waitForElementNotPresent => ["waitForElementNotPresent"]
  | .waitForTextPresent => ["waitForTextPresent"]
  | .waitForTextNotPresent => ["waitForTextNotPresent"]
  | .waitForText => ["waitForText"]
  | .waitForNotText => ["waitForNotText"]
  | .assertAlert => ["assertConfirmation", "verifyConfirmation", "assertAlert"]
  | .assertTextPresent => ["assertTextPresent"]
  | .assertTextNotPresent => ["assertTextNotPresent"]
  | .storeAttribute => ["storeAttribute"]
  | .runScript => ["runScript"]

theorem Rule.ofName?_eq_some_iff (n : String) (r : Rule) : Rule.ofName? n = some r ↔ n ∈ r.names := by
  constructor
  · intro h
    unfold Rule.ofName? at h
    split at h <;> cases h <;> simp [Rule.names]
  · intro h
    cases r <;> simp only [Rule.names, List.mem_cons, List.not_mem_nil, or_false] at h <;>
      rcases h with rfl | rfl | rfl <;> rfl

/-- A rule with one name is the rule of that name and of no other. -/
theorem Rule.name_eq_iff {n : String} {r : Rule} (h : Rule.ofName? n = some r) {r' : Rule}
    {m : String} (hm : r'.names = [m]) : n = m ↔ r = r' := by
  constructor
  · rintro rfl
    have h' : Rule.ofName? n = some r' := by simp [Rule.ofName?_eq_some_iff, hm]
    rw [h] at h'
    exact Option.some.inj h'
  · rintro rfl
    simpa [Rule.ofName?_eq_some_iff, hm] using h

/-- The rules that look their target up before anything else. -/
def Rule.looksUpTarget : Rule → Bool
  | .typeText | .sendKeys | .click | .select | .assertText | .assertNotText
  | .assertElementPresent | .assertElementNotPresent | .waitForElementPresent
  | .waitForElementNotPresent | .waitForText | .waitForNotText => true
  | _ => false

end Translate.WebDriver

open Translate.WebDriver

/-- The commands whose WebDriver rule looks their target up. -/
def lookupCommands : List String :=
  ["type", "sendKeys", "click", "clickAndWait", "select", "assertText", "assertNotText",
   "assertElementPresent", "assertElementNotPresent", "waitForElementPresent",
   "waitForElementNotPresent", "waitForText", "waitForNotText"]

theorem mem_lookupCommands_iff {n : String} {r : Rule} (h : Rule.ofName? n = some r) :
    n ∈ lookupCommands ↔ r.looksUpTarget = true := by
  rw [Rule.ofName?_eq_some_iff] at h
  cases r <;> simp only [Rule.names, List.mem_cons, List.not_mem_nil, or_false] at h <;>
    rcases h with rfl | rfl | rfl <;> decide

namespace Translate.WebDriver

theorem exists_find_eq_ok_iff (selector receiver : String) :
    (∃ line, find selector receiver = .ok line) ↔ Resolves selector := by
  unfold find Resolves
  cases Locator.resolve selector <;> simp [Except.map]

/-! ## What each rule refuses -/

/-- The refusals of one WebDriver rule, read off the step. -/
def Rule.Refuses (r : Rule) (c : Command) (err : TargetError) : Prop :=
  (r.looksUpTarget = true ∧ ¬ Resolves c.targetText ∧ err = .unknownSelector c.targetText) ∨
  (r = .select ∧ Resolves c.targetText ∧ ¬ HasOption "label=" c.valueText ∧
    ¬ HasOption "value=" c.valueText ∧ err = .unknownOptionSelector c.valueText) ∨
  (r = .storeAttribute ∧ (∀ e a, ¬ AttributeSplit c.targetText.toList e a) ∧
    err = .missingAttribute c.targetText) ∨
  (r = .storeAttribute ∧ ∃ e a, ShortestAttributeSplit c.targetText.toList e a ∧
    ¬ Resolves (String.ofList e) ∧ err = .unknownSelector (String.ofList e))

section Rules

variable (receiver : String) (timing : Timing) (c : Command) (err : TargetError)

/-- `select` is refused when its target names no element, and else when its value has
neither `label=` nor `value=` with text after it. -/
theorem Rule.select_lines_eq_error_iff :
    Rule.select.lines receiver timing c = .error err ↔ Rule.select.Refuses c err := by
  simp only [Rule.lines, Rule.Refuses, Rule.looksUpTarget, Except.bind_eq_error_iff,
    find_eq_error_iff]
  -- the option is read only once the element is found
  cases hl : optionArgument? "label=" c.valueText with
  | some label => simp [hasOption_of_optionArgument?_eq_some hl, pure, Except.pure]
  | none =>
      have hlabel := (optionArgument?_eq_none_iff _ _).1 hl
      cases hv : optionArgument? "value=" c.valueText with
      | some v => simp [hasOption_of_optionArgument?_eq_some hv, pure, Except.pure]
      | none =>
          have hvalue := (optionArgument?_eq_none_iff _ _).1 hv
          simp only [hlabel, hvalue, throw, throwThe, MonadExceptOf.throw, Except.error.injEq,
            exists_and_right, exists_find_eq_ok_iff, not_false_eq_true, true_and, reduceCtorEq,
            false_and, or_false]
          rw [@eq_comm _ (TargetError.unknownOptionSelector _)]

/-- `storeAttribute` is refused when its target has no attribute split, and else when the
element part of the shortest split names no element. -/
theorem Rule.storeAttribute_lines_eq_error_iff :
    Rule.storeAttribute.lines receiver timing c = .error err ↔
      Rule.storeAttribute.Refuses c err := by
  simp only [Rule.lines, Rule.Refuses, Rule.looksUpTarget, Bool.false_eq_true, false_and,
    reduceCtorEq, false_or, true_and]
  -- the target is split first; only a split's element part is looked up
  cases hs : splitAttribute? c.targetText with
  | none =>
      have hno := (splitAttribute?_eq_none_iff _).1 hs
      simp only [throw, throwThe, MonadExceptOf.throw, bind, Except.bind, Except.error.injEq]
      constructor
      · rintro rfl
        exact .inl ⟨hno, rfl⟩
      · rintro (⟨-, rfl⟩ | ⟨e, a, hshort, -⟩)
        · rfl
        · exact absurd hshort.1 (hno e a)
  | some p =>
      obtain ⟨element, attr⟩ := p
      obtain ⟨e, a, hshort, rfl, rfl⟩ := (splitAttribute?_eq_some_iff _ _ _).1 hs
      simp only [pure, Except.pure, bind, Except.bind]
      have hsplit : ¬ ∀ e a, ¬ AttributeSplit c.targetText.toList e a := fun h => h e a hshort.1
      cases hf : find (String.ofList e) receiver with
      | error e' =>
          obtain ⟨hres, rfl⟩ := (find_eq_error_iff _ _ _).1 hf
          simp only [Except.error.injEq]
          constructor
          · rintro rfl
            exact .inr ⟨e, a, hshort, hres, rfl⟩
          · rintro (⟨hno, -⟩ | ⟨e₁, a₁, hshort₁, -, rfl⟩)
            · exact absurd hno hsplit
            · obtain ⟨rfl, rfl⟩ := hshort.unique hshort₁
              rfl
      | ok line =>
          have hres : Resolves (String.ofList e) := (exists_find_eq_ok_iff _ _).1 ⟨line, hf⟩
          simp only [reduceCtorEq, false_iff, not_or]
          refine ⟨fun ⟨hno, _⟩ => hsplit hno, ?_⟩
          rintro ⟨e₁, a₁, hshort₁, hres₁, -⟩
          obtain ⟨rfl, rfl⟩ := hshort.unique hshort₁
          exact hres₁ hres

theorem Rule.lines_eq_error_iff (r : Rule) :
    r.lines receiver timing c = .error err ↔ r.Refuses c err := by
  cases r
  case select => exact Rule.select_lines_eq_error_iff receiver timing c err
  case storeAttribute => exact Rule.storeAttribute_lines_eq_error_iff receiver timing c err
  -- every other rule refuses only a target that names no element, and looks it up first
  all_goals simp [Rule.lines, Rule.Refuses, Rule.looksUpTarget, Except.bind_eq_error_iff,
    find_eq_error_iff, pure, Except.pure]

end Rules

/-! ## What each rule gives -/

theorem Rule.lines_ne_nil (r : Rule) (receiver : String) (timing : Timing) (c : Command)
    {lines : List String} (h : r.lines receiver timing c = .ok lines) : lines ≠ [] := by
  rintro rfl
  cases r
  case select =>
    simp only [Rule.lines, Except.bind_eq_ok_iff] at h
    obtain ⟨lookup, -, h⟩ := h
    split at h
    · cases h
    · split at h
      · cases h
      · cases h
  case storeAttribute =>
    simp only [Rule.lines] at h
    split at h
    · simp [Except.bind_eq_ok_iff, pure, Except.pure] at h
    · cases h
  all_goals simp [Rule.lines, Except.bind_eq_ok_iff, waitUntil, pure, Except.pure] at h

end Translate.WebDriver

theorem Translate.Legacy.Rule.lines_ne_nil (r : Legacy.Rule) (receiver : String) (timing : Timing)
    (c : Command) : r.lines receiver timing c ≠ [] := by
  cases r <;> simp [Legacy.Rule.lines, Legacy.waitLoop]

/-! ## Refusals by command name -/

/-- Why the WebDriver translation refuses a step, read off the step alone. -/
inductive Refused : Command → TargetError → Prop
  /-- A command that looks its target up, with a target that names no element. -/
  | unknownTarget {c : Command} : c.name ∈ lookupCommands → ¬ Resolves c.targetText →
      Refused c (.unknownSelector c.targetText)
  /-- A `select` whose element is there and whose option is neither `label=` nor `value=`. -/
  | unknownOption {c : Command} : c.name = "select" → Resolves c.targetText →
      ¬ HasOption "label=" c.valueText → ¬ HasOption "value=" c.valueText →
      Refused c (.unknownOptionSelector c.valueText)
  /-- A `storeAttribute` whose target has no `@attribute` at its end. -/
  | missingAttribute {c : Command} : c.name = "storeAttribute" →
      (∀ e a, ¬ AttributeSplit c.targetText.toList e a) →
      Refused c (.missingAttribute c.targetText)
  /-- A `storeAttribute` whose element part names no element. -/
  | unknownElement {c : Command} {e a : List Char} : c.name = "storeAttribute" →
      ShortestAttributeSplit c.targetText.toList e a → ¬ Resolves (String.ofList e) →
      Refused c (.unknownSelector (String.ofList e))

theorem lookupCommands_rule {n : String} (h : n ∈ lookupCommands) :
    ∃ r, Rule.ofName? n = some r ∧ r.looksUpTarget = true := by
  simp only [lookupCommands, List.mem_cons, List.not_mem_nil, or_false] at h
  rcases h with rfl | rfl | rfl | rfl | rfl | rfl | rfl | rfl | rfl | rfl | rfl | rfl | rfl <;>
    exact ⟨_, rfl, rfl⟩

theorem refused_iff (c : Command) (err : TargetError) :
    Refused c err ↔ ∃ r, Rule.ofName? c.name = some r ∧ r.Refuses c err := by
  constructor
  · intro h
    cases h with
    | unknownTarget hmem hres =>
        obtain ⟨r, hr, hlook⟩ := lookupCommands_rule hmem
        exact ⟨r, hr, .inl ⟨hlook, hres, rfl⟩⟩
    | unknownOption hsel hres hl hv =>
        rw [hsel]
        exact ⟨.select, rfl, .inr (.inl ⟨rfl, hres, hl, hv, rfl⟩)⟩
    | missingAttribute hstore hno =>
        rw [hstore]
        exact ⟨.storeAttribute, rfl, .inr (.inr (.inl ⟨rfl, hno, rfl⟩))⟩
    | unknownElement hstore hshort hres =>
        rw [hstore]
        exact ⟨.storeAttribute, rfl, .inr (.inr (.inr ⟨rfl, _, _, hshort, hres, rfl⟩))⟩
  · rintro ⟨r, hr, ⟨hlook, hres, rfl⟩ | ⟨rfl, hres, hl, hv, rfl⟩ | ⟨rfl, hno, rfl⟩ |
      ⟨rfl, e, a, hshort, hres, rfl⟩⟩
    · exact .unknownTarget ((mem_lookupCommands_iff hr).2 hlook) hres
    · exact .unknownOption ((Rule.name_eq_iff hr rfl).2 rfl) hres hl hv
    · exact .missingAttribute ((Rule.name_eq_iff hr rfl).2 rfl) hno
    · exact .unknownElement ((Rule.name_eq_iff hr rfl).2 rfl) hshort hres

/-! ## Translation refuses exactly the refused steps -/

theorem Translator.translate_eq_error_iff (t : Translator) (c : Command) (err : TargetError) :
    t.translate c = .error err ↔ t.variant = .webDriver ∧ Refused c err := by
  unfold Translator.translate
  cases t.variant with
  | legacy => simp
  | webDriver =>
      simp only [WebDriver.translate, true_and, refused_iff]
      cases hr : Rule.ofName? c.name with
      | none => simp
      | some r =>
          simp only [Option.some.injEq, exists_eq_left']
          exact Rule.lines_eq_error_iff t.receiver t.timing c err r

theorem Translator.translate_ne_nil (t : Translator) (c : Command) {lines : List String}
    (h : t.translate c = .ok lines) : lines ≠ [] := by
  obtain ⟨_ | _, receiver, timing⟩ := t
  · simp only [Translator.translate, Legacy.translate, Except.ok.injEq] at h
    subst h
    split
    · exact Legacy.Rule.lines_ne_nil _ _ _ _
    · simp
  · simp only [Translator.translate, WebDriver.translate] at h
    split at h
    · exact Rule.lines_ne_nil _ _ _ _ h
    · cases h
      simp

/-- A command without a rule of its own is the one direct call, in either variant. -/
theorem Translator.translate_of_handles_eq_false (t : Translator) (c : Command)
    (h : t.handles c.name = false) :
    t.translate c = .ok [call t.receiver c.name c.target c.value] := by
  obtain ⟨_ | _, receiver, timing⟩ := t
  · simp only [Translator.handles, Option.isSome_eq_false_iff, Option.isNone_iff_eq_none] at h
    simp [Translator.translate, Legacy.translate, h]
  · simp only [Translator.handles, Option.isSome_eq_false_iff, Option.isNone_iff_eq_none] at h
    simp [Translator.translate, WebDriver.translate, h]

/-- Translation fails exactly on a step one of whose arguments names nothing, with the
error of the first check that fails, and only under WebDriver; a translation that succeeds
has a line; a command without a rule of its own is the one direct call. -/
theorem translation_refuses_exactly (t : Translator) (c : Command) :
    (∀ err, t.translate c = .error err ↔ t.variant = .webDriver ∧ Refused c err) ∧
    (∀ lines, t.translate c = .ok lines → lines ≠ []) ∧
    (t.handles c.name = false → t.translate c = .ok [call t.receiver c.name c.target c.value]) :=
  ⟨Translator.translate_eq_error_iff t c, fun _ h => Translator.translate_ne_nil t c h,
   Translator.translate_of_handles_eq_false t c⟩

/-- `mouseOver` has no rule under WebDriver and becomes the direct call. -/
theorem mouseOver_is_direct_call :
    (⟨.webDriver, "$this", {}⟩ : Translator).handles "mouseOver" = false ∧
    (⟨.webDriver, "$this", {}⟩ : Translator).translate ⟨"mouseOver", some "t", some "v"⟩ =
      .ok ["$this->mouseOver(\"t\", \"v\");"] := by
  refine ⟨by decide, ?_⟩
  rw [(translation_refuses_exactly ⟨.webDriver, "$this", {}⟩ ⟨"mouseOver", some "t", some "v"⟩).2.2
    (by decide)]
  rfl

end Transcribe
