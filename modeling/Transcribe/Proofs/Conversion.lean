import Mathlib.Data.List.Forall2
import Transcribe.Convert
/-!
# `Proofs.Conversion` — steps are translated one at a time, in order, and the first failure wins

## What is proved, for every configuration and every list of steps

* With `continueOnError`, `translateSteps` always succeeds, with one entry per step: the
  step's own lines, or the single `skippedStepLine` of the step and its error
  (`translateSteps_of_continue`).
* Without it, `translateSteps` succeeds exactly when every step translates, with the
  steps' own lines (`translateSteps_eq_ok_iff`), and fails exactly with the error of the
  first step that does not translate, every step before it translating
  (`translateSteps_eq_error_iff`).
* Translating a concatenation is translating the two parts one after the other, so the
  error of the first part wins (`translateSteps_append`).
* `convertDocument` gives a file exactly when reading, translating and (with a template)
  reading the template all succeed (`convertDocument_ok_iff`); otherwise its error is
  that of the first of these stages that fails (`convertDocument_eq_error_iff`).

## How

Everything about steps is a fact about `List.mapM` in `Except`, stated once:
a traversal succeeds when every element succeeds (`mapM_eq_ok_iff`) and fails with the
error of the first element that fails (`mapM_eq_error_iff`). The step function's own
contribution is one lemma per mode (`translateStep_of_continue`,
`translateStep_of_abort`).
-/

namespace Transcribe

/-! ## Traversal in `Except` -/

section Traversal

variable {α β ε : Type} (f : α → Except ε β)

theorem mapM_eq_ok_iff :
    ∀ (xs : List α) (ys : List β), xs.mapM f = .ok ys ↔ List.Forall₂ (fun x y => f x = .ok y) xs ys
  | [], ys => by cases ys <;> simp [pure, Except.pure]
  | x :: xs, ys => by
      have ih := mapM_eq_ok_iff xs
      rw [List.mapM_cons]
      cases hx : f x with
      | error e => cases ys <;> simp [bind, Except.bind, hx]
      | ok y =>
          cases hxs : xs.mapM f with
          | error e =>
              -- the tail has no successful traversal, so no list is related to it
              have hno : ∀ zs, ¬ List.Forall₂ (fun x y => f x = .ok y) xs zs := by
                intro zs h
                rw [← ih, hxs] at h
                cases h
              cases ys <;> simp [bind, Except.bind, hno]
          | ok zs =>
              cases ys with
              | nil => simp [bind, Except.bind, pure, Except.pure]
              | cons y' ys =>
                  simp only [bind, Except.bind, pure, Except.pure, Except.ok.injEq,
                    List.cons.injEq, List.forall₂_cons, hx, ← ih, hxs]

/-- The first element of `y :: ys` that fails is `y`, or the first of `ys` to fail after
a `y` that succeeds. -/
theorem exists_first_error_cons (y : α) (ys : List α) (e : ε) :
    (∃ pre x post, y :: ys = pre ++ x :: post ∧ (∀ z ∈ pre, ∃ b, f z = .ok b) ∧
        f x = .error e) ↔
      f y = .error e ∨ ((∃ b, f y = .ok b) ∧
        ∃ pre x post, ys = pre ++ x :: post ∧ (∀ z ∈ pre, ∃ b, f z = .ok b) ∧
          f x = .error e) := by
  constructor
  · rintro ⟨_ | ⟨z, pre⟩, x, post, h, hpre, hx⟩
    · obtain ⟨rfl, rfl⟩ := List.cons.inj h
      exact .inl hx
    · obtain ⟨rfl, rfl⟩ := List.cons.inj h
      exact .inr ⟨hpre _ List.mem_cons_self, pre, x, post, rfl,
        fun w hw => hpre w (List.mem_cons_of_mem _ hw), hx⟩
  · rintro (hy | ⟨hy, pre, x, post, rfl, hpre, hx⟩)
    · exact ⟨[], y, ys, rfl, nofun, hy⟩
    · refine ⟨y :: pre, x, post, rfl, ?_, hx⟩
      intro z hz
      rcases List.mem_cons.mp hz with rfl | hz
      · exact hy
      · exact hpre z hz

theorem mapM_eq_error_iff (xs : List α) (e : ε) :
    xs.mapM f = .error e ↔
      ∃ pre x post, xs = pre ++ x :: post ∧ (∀ y ∈ pre, ∃ b, f y = .ok b) ∧ f x = .error e := by
  induction xs with
  | nil =>
      simp only [List.mapM_nil, pure, Except.pure, reduceCtorEq, false_iff, not_exists, not_and]
      intro pre x post h
      cases pre <;> cases h
  | cons y ys ih =>
      rw [List.mapM_cons, exists_first_error_cons, ← ih]
      -- the head is traversed first: its error wins, and else the tail's does
      cases f y with
      | error e' => simp [bind, Except.bind]
      | ok b => cases ys.mapM f <;> simp [bind, Except.bind, pure, Except.pure]

end Traversal

/-! ## One step in each mode -/

section Steps

variable (config : Config)

/-- The lines that stand for a step when steps that cannot be translated are skipped. -/
def markedLines (c : Command) : List String :=
  match (Translator.ofConfig config).translate c with
  | .ok lines => lines
  | .error e => [skippedStepLine c e]

theorem translateStep_of_continue (h : config.continueOnError = true) (c : Command) :
    translateStep config c = .ok (markedLines config c) := by
  unfold translateStep markedLines
  cases (Translator.ofConfig config).translate c <;> simp [h]

theorem translateStep_of_abort (h : config.continueOnError = false) (c : Command) :
    translateStep config c = ((Translator.ofConfig config).translate c).mapError .target := by
  unfold translateStep
  cases (Translator.ofConfig config).translate c <;> simp [h, Except.mapError]

theorem translateStep_eq_ok_of_abort (h : config.continueOnError = false) (c : Command)
    (lines : List String) :
    translateStep config c = .ok lines ↔ (Translator.ofConfig config).translate c = .ok lines := by
  rw [translateStep_of_abort config h]
  cases (Translator.ofConfig config).translate c <;> simp [Except.mapError]

theorem translateStep_eq_error_of_abort (h : config.continueOnError = false) (c : Command)
    (err : ConvertError) :
    translateStep config c = .error err ↔
      ∃ e, (Translator.ofConfig config).translate c = .error e ∧ err = .target e := by
  rw [translateStep_of_abort config h]
  cases (Translator.ofConfig config).translate c <;> simp [Except.mapError, eq_comm]

end Steps

/-! ## A script's steps -/

section Script

variable (config : Config)

theorem translateSteps_of_continue (h : config.continueOnError = true) (cs : List Command) :
    translateSteps config cs = .ok (cs.map (markedLines config)) := by
  unfold translateSteps
  induction cs with
  | nil => rfl
  | cons c cs ih =>
      rw [List.mapM_cons, translateStep_of_continue config h, ih]
      rfl

theorem translateSteps_eq_ok_iff (h : config.continueOnError = false) (cs : List Command)
    (steps : List (List String)) :
    translateSteps config cs = .ok steps ↔
      List.Forall₂ (fun c lines => (Translator.ofConfig config).translate c = .ok lines) cs steps := by
  unfold translateSteps
  rw [mapM_eq_ok_iff]
  simp only [translateStep_eq_ok_of_abort config h]

theorem translateSteps_eq_error_iff (h : config.continueOnError = false) (cs : List Command)
    (err : ConvertError) :
    translateSteps config cs = .error err ↔
      ∃ pre c post e, cs = pre ++ c :: post ∧
        (∀ d ∈ pre, ∃ lines, (Translator.ofConfig config).translate d = .ok lines) ∧
        (Translator.ofConfig config).translate c = .error e ∧ err = .target e := by
  unfold translateSteps
  rw [mapM_eq_error_iff]
  simp only [translateStep_eq_ok_of_abort config h, translateStep_eq_error_of_abort config h]
  constructor
  · rintro ⟨pre, c, post, rfl, hpre, e, hc, rfl⟩
    exact ⟨pre, c, post, e, rfl, hpre, hc, rfl⟩
  · rintro ⟨pre, c, post, e, rfl, hpre, hc, rfl⟩
    exact ⟨pre, c, post, rfl, hpre, e, hc, rfl⟩

/-- The steps of a concatenation are those of its parts; the first part's error wins. -/
theorem translateSteps_append (cs ds : List Command) :
    translateSteps config (cs ++ ds) =
      match translateSteps config cs, translateSteps config ds with
      | .error e, _ => .error e
      | .ok _, .error e => .error e
      | .ok first, .ok second => .ok (first ++ second) := by
  unfold translateSteps
  rw [List.mapM_append]
  cases cs.mapM (translateStep config) <;> cases ds.mapM (translateStep config) <;> rfl

end Script

/-! ## The stages of a conversion -/

section Stages

variable (config : Config) (stamp : Stamp) (read : String → FileText)

/-- A configured template can be read as text. -/
def TemplateReadable : Prop :=
  ∀ path, config.template = some path → ∃ text, read path = .text text

/-- Reading the template at `path` fails with `err`. -/
def TemplateFailure (path : String) (err : ConvertError) : Prop :=
  (read path = .missing ∧ err = .templateNotFound path) ∨
    ∃ f, read path = .unreadable f ∧ err = .templateUnreadable path f

theorem assembleFile_ok_iff (script : Script) (steps : List (List String)) :
    (∃ out, assembleFile config stamp read script steps = .ok out) ↔ TemplateReadable config read := by
  unfold assembleFile TemplateReadable
  cases ht : config.template with
  | none => simp
  | some path =>
      simp only [Option.some.injEq, forall_eq']
      cases read path <;> simp

theorem assembleFile_eq_error_iff (script : Script) (steps : List (List String))
    (err : ConvertError) :
    assembleFile config stamp read script steps = .error err ↔
      ∃ path, config.template = some path ∧ TemplateFailure read path err := by
  unfold assembleFile TemplateFailure
  cases ht : config.template with
  | none => simp
  | some path =>
      simp only [Option.some.injEq, exists_eq_left']
      cases read path <;> simp [eq_comm]

theorem parseDocument_eq_ok_iff (html : String) (testName : Option String) (script : Script) :
    parseDocument config html testName = .ok script ↔
      Script.read (readSettings config testName) html = .ok script := by
  unfold parseDocument
  cases Script.read (readSettings config testName) html <;> simp [Except.mapError]

theorem parseDocument_eq_error_iff (html : String) (testName : Option String)
    (err : ConvertError) :
    parseDocument config html testName = .error err ↔
      ∃ e, Script.read (readSettings config testName) html = .error e ∧ err = .read e := by
  unfold parseDocument
  cases hr : Script.read (readSettings config testName) html with
  | error e =>
      simp only [Except.mapError, Except.error.injEq]
      -- a document can fail to be read for one reason only
      constructor
      · rintro rfl
        exact ⟨e, by simp, rfl⟩
      · rintro ⟨e', -, rfl⟩
        cases e
        cases e'
        rfl
  | ok script => simp [Except.mapError]

theorem convertDocument_ok_iff (html : String) (testName : Option String) :
    (∃ out, convertDocument config stamp read html testName = .ok out) ↔
      ∃ script, Script.read (readSettings config testName) html = .ok script ∧
        (∃ steps, translateSteps config script.commands = .ok steps) ∧
        TemplateReadable config read := by
  unfold convertDocument
  cases hp : parseDocument config html testName with
  | error e =>
      have : ∀ script, Script.read (readSettings config testName) html ≠ .ok script := by
        intro script hs
        rw [← parseDocument_eq_ok_iff] at hs
        rw [hp] at hs
        cases hs
      simp [bind, Except.bind, this]
  | ok script =>
      rw [parseDocument_eq_ok_iff] at hp
      cases ht : translateSteps config script.commands with
      | error e => simp [bind, Except.bind, hp, ht]
      | ok steps =>
          simp only [bind, Except.bind, hp, ht, Except.ok.injEq, exists_eq_left', exists_eq',
            true_and]
          exact assembleFile_ok_iff config stamp read script steps

theorem convertDocument_eq_error_iff (html : String) (testName : Option String)
    (err : ConvertError) :
    convertDocument config stamp read html testName = .error err ↔
      (∃ e, Script.read (readSettings config testName) html = .error e ∧ err = .read e) ∨
      (∃ script, Script.read (readSettings config testName) html = .ok script ∧
        translateSteps config script.commands = .error err) ∨
      (∃ script steps path, Script.read (readSettings config testName) html = .ok script ∧
        translateSteps config script.commands = .ok steps ∧ config.template = some path ∧
        TemplateFailure read path err) := by
  unfold convertDocument
  cases hp : parseDocument config html testName with
  | error e =>
      -- reading failed: its error is the answer, and no later stage runs
      obtain ⟨e', hr, rfl⟩ := (parseDocument_eq_error_iff config html testName e).1 hp
      simp only [bind, Except.bind, hr, Except.error.injEq, reduceCtorEq, false_and,
        exists_false, or_false]
      cases e'
      constructor
      · rintro rfl
        exact ⟨.noTable, trivial, rfl⟩
      · rintro ⟨⟨⟩, -, rfl⟩
        rfl
  | ok script =>
      rw [parseDocument_eq_ok_iff] at hp
      cases ht : translateSteps config script.commands with
      | error e => simp [bind, Except.bind, hp, ht]
      | ok steps => simp [bind, Except.bind, hp, ht, assembleFile_eq_error_iff]

end Stages

/-! ## Steps are independent and in order -/

/-- Steps are translated one at a time and in order. With `continueOnError` each step
gives its own lines or its marker line; without it a script succeeds exactly when every
step does, and fails with the error of its first failing step. A concatenation is
translated as its two parts in sequence, and a conversion fails at its first failing
stage: reading, then translating, then the template. -/
theorem steps_translated_in_order (config : Config) (cs ds : List Command) (stamp : Stamp)
    (read : String → FileText) (html : String) (testName : Option String) :
    (config.continueOnError = true →
      translateSteps config cs = .ok (cs.map (markedLines config))) ∧
    (config.continueOnError = false →
      (∀ steps, translateSteps config cs = .ok steps ↔
        List.Forall₂ (fun c lines => (Translator.ofConfig config).translate c = .ok lines)
          cs steps) ∧
      (∀ err, translateSteps config cs = .error err ↔
        ∃ pre c post e, cs = pre ++ c :: post ∧
          (∀ d ∈ pre, ∃ lines, (Translator.ofConfig config).translate d = .ok lines) ∧
          (Translator.ofConfig config).translate c = .error e ∧ err = .target e)) ∧
    translateSteps config (cs ++ ds) =
      (match translateSteps config cs, translateSteps config ds with
       | .error e, _ => .error e
       | .ok _, .error e => .error e
       | .ok first, .ok second => .ok (first ++ second)) ∧
    ((∃ out, convertDocument config stamp read html testName = .ok out) ↔
      ∃ script, Script.read (readSettings config testName) html = .ok script ∧
        (∃ steps, translateSteps config script.commands = .ok steps) ∧
        TemplateReadable config read) ∧
    (∀ err, convertDocument config stamp read html testName = .error err ↔
      (∃ e, Script.read (readSettings config testName) html = .error e ∧ err = .read e) ∨
      (∃ script, Script.read (readSettings config testName) html = .ok script ∧
        translateSteps config script.commands = .error err) ∨
      (∃ script steps path, Script.read (readSettings config testName) html = .ok script ∧
        translateSteps config script.commands = .ok steps ∧ config.template = some path ∧
        TemplateFailure read path err)) :=
  ⟨fun h => translateSteps_of_continue config h cs,
   fun h => ⟨translateSteps_eq_ok_iff config h cs, translateSteps_eq_error_iff config h cs⟩,
   translateSteps_append config cs ds,
   convertDocument_ok_iff config stamp read html testName,
   convertDocument_eq_error_iff config stamp read html testName⟩

/-- The WebDriver conversion of a three-step recording, one of whose targets is no
selector, skipping what it cannot translate. -/
theorem skipped_step_is_marked :
    ({ variant := .webDriver, continueOnError := true } : Config).continueOnError = true ∧
    translateSteps { variant := .webDriver, continueOnError := true }
        [⟨"open", some "/", none⟩, ⟨"click", some "foo", none⟩, ⟨"click", some "id=go", none⟩] =
      .ok [["$this->url(\"/\");"],
        ["// selenium2php: cannot convert click('foo'): Unknown selector 'foo'"],
        ["$input = $this->byId(\"go\");", "$input->click();"]] := by
  refine ⟨rfl, ?_⟩
  rw [(steps_translated_in_order { variant := .webDriver, continueOnError := true }
    [⟨"open", some "/", none⟩, ⟨"click", some "foo", none⟩, ⟨"click", some "id=go", none⟩] []
    ⟨2024, 1, 2, 3, 4, 5⟩ (fun _ => .missing) "" none).1 rfl]
  decide

end Transcribe
