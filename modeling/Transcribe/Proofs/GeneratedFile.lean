import Transcribe.Proofs.RecordedText
import Transcribe.Proofs.MethodBody
/-!
# `Proofs.GeneratedFile` — recorded text does not change the shape of a generated file

## What is proved, with every binder written out

`builtin_files_lex_alike`: take a variant `v`, a receiver `r` that is a PHP variable, a timing
`T` and either choice `k` of skipping refused steps, every other setting at its default
(`fileConfig v r T k`). Take two documents, read under any test names the caller gives as
scripts `s₁` and `s₂`, whose steps pair off (`Command.Paired`: plain texts, one form, both
translated or both refused), whose test names are PHP names and whose base URLs are plain. If
both convert, at any stamps, into files `f₁` and `f₂`, then

    f₁.toList = "<?php\n".toList ++ code₁      lex code₁ = some ts₁      Balanced ts₁
    f₂.toList = "<?php\n".toList ++ code₂      lex code₂ = some ts₂      Balanced ts₂
    List.Forall₂ (Token.AlikeBut (fileNames s₁ s₂)) ts₁ ts₂

so the tokens pair off one to one, of one kind, and of one text outside literal and comment
bodies, except where the files hold the class and method names that they take from their
tests, or the variables that paired stores name (`fileNames`).

`recorded_text_keeps_code_shape` states this together with the comparison of single steps,
under every configuration, that `Proofs.RecordedText` proves.

## What it is not

* The class and method names carry the test names by design: two documents that differ only
  in their titles give files whose tokens differ in the text of those two names.
* The base URL and the test name are written as they are, like recorded targets: a base URL
  with a quote or a backslash breaks its literal, and a title that starts with a digit names
  a class that is not a name.
* The settings besides the four above are left at their defaults: a browser, a class prefix,
  extra lines and a template are code the file is made of, not recorded text.

## How

The file is cut into pieces that the lexer reads from between tokens back to between tokens
(`Reads`): the head up to the body of the test method, each step's lines with their
terminator, and the tail (`skeleton_toList`). The head and the tail are templates over
`FileHole` whose check, `frameCheck`, is decided once for each parent class; a step's lines,
indented, are its rule's template, which `pieceCheck` checks. `pieces_alike` compares two
fillings of a checked piece, and `nests_insert` lets the brackets of the body, which nest on
their own, drop out of those of the file.
-/

namespace Transcribe

open Transcribe.Php Transcribe.Translate

/-! ## Tokens that may differ by design -/

namespace Php

/-- Two tokens of one kind whose texts agree, unless they are bodies of literals or comments,
or their texts are one of the pairs `names`. -/
def Token.AlikeBut (names : List (List Char × List Char)) (a b : Token Char) : Prop :=
  a.kind = b.kind ∧ (a.kind.hasBody = true ∨ a.text = b.text ∨ (a.text, b.text) ∈ names)

theorem Token.AlikeBut.mono {names names' : List (List Char × List Char)} {a b : Token Char}
    (h : Token.AlikeBut names a b) (hs : names ⊆ names') : Token.AlikeBut names' a b := by
  obtain ⟨hk, hb | ht | hn⟩ := h
  · exact ⟨hk, .inl hb⟩
  · exact ⟨hk, .inr (.inl ht)⟩
  · exact ⟨hk, .inr (.inr (hs hn))⟩

/-- Tokens alike but for two variables are alike but for the pair of them. -/
theorem Token.Alike.alikeBut {v₁ v₂ : Option (List Char)} {a b : Token Char}
    {names : List (List Char × List Char)} (h : Token.Alike v₁ v₂ a b)
    (hv : ∀ x y, v₁ = some x → v₂ = some y → (x, y) ∈ names) : Token.AlikeBut names a b := by
  obtain ⟨hk, hb | ht | ⟨-, h₁, h₂⟩⟩ := h
  · exact ⟨hk, .inl hb⟩
  · exact ⟨hk, .inr (.inl ht)⟩
  · exact ⟨hk, .inr (.inr (hv _ _ h₁ h₂))⟩

end Php

/-! ## The head and the tail of a file -/

/-- The texts that the built-in file is made around, besides its steps: the receiver, the
class and method names of the test, the base URL, and the fields of the stamp. -/
inductive FileHole where
  | receiver
  | className
  | methodName
  | baseUrl
  | year
  | month
  | day
  | hour
  | minute
  | second
  deriving DecidableEq, Repr

/-- What may fill each hole: the receiver is a variable, the class and method names are names,
the base URL is text inside a literal, and the fields of the stamp are digits. -/
def FileHole.kind : FileHole → HoleKind
  | .receiver => .variable
  | .className | .methodName => .name
  | .baseUrl => .plain
  | .year | .month | .day | .hour | .minute | .second => .digits

/-- The receiver is the one hole that two files of one configuration fill alike. -/
def FileHole.shared : FileHole → Bool
  | .receiver => true
  | _ => false

/-- A token of the head that the test's name makes: the class or the method name. -/
def FileHole.isName (t : Token (Sym FileHole)) : Bool :=
  t == ⟨.name, [.hole .className]⟩ || t == ⟨.name, [.hole .methodName]⟩

/-- Fixed code of the head or the tail. -/
def fileCode (s : String) : Slot FileHole := .code s.toList

/-- An indentation of `n` spaces. -/
def indentBy (n : Nat) : Slot FileHole := .code (List.replicate n ' ')

/-- The file after its opening tag and up to the body of the test method, piece by piece as the
skeleton writes it: the comment with the stamp, the class line, `setUp`, and the opening line of
the test method, followed by the line feed that comes before the body. -/
def headTemplate (parent : String) : Template FileHole :=
  [ [fileCode "/*", fileCode "\n", fileCode "* Autogenerated from Selenium html test case by selenium2php.",
      fileCode "\n", fileCode "* ", .hole .year, fileCode "-", .hole .month, fileCode "-", .hole .day,
      fileCode " ", .hole .hour, fileCode ":", .hole .minute, fileCode ":", .hole .second,
      fileCode "\n", fileCode "*/"],
    [fileCode "class ", .hole .className, fileCode " extends ", fileCode parent, fileCode " \x7b"],
    [],
    [indentBy classIndent, fileCode "function setUp() \x7b"],
    [indentBy methodIndent, .hole .receiver, fileCode "->setBrowser(\"", fileCode "*firefox",
      fileCode "\");"],
    [indentBy methodIndent, .hole .receiver, fileCode "->setBrowserUrl(\"", .hole .baseUrl,
      fileCode "\");"],
    [indentBy classIndent, fileCode "\x7d"],
    [],
    [indentBy classIndent, fileCode "function ", .hole .methodName, fileCode "() \x7b"],
    [] ]

/-- The file after the body of the test method. -/
def tailTemplate : Template FileHole := [[indentBy classIndent, fileCode "\x7d"], [], [fileCode "\x7d"]]

/-- The head and the tail read back to between tokens, into tokens that are settled or the
test's names, and their brackets nest together. -/
def frameCheck (parent : String) : Bool :=
  match pieceTokens FileHole.kind (headTemplate parent).slots,
      pieceTokens FileHole.kind tailTemplate.slots with
  | some hs, some ts =>
    (hs ++ ts).all (fun t => t.settled FileHole.shared none || FileHole.isName t) &&
      nests [] ((hs ++ ts).map Token.kind)
  | _, _ => false

theorem frameCheck_parentClass (v : Variant) :
    frameCheck ({ variant := v } : Config).effectiveParentClass = true := by
  cases v <;>
  · unfold frameCheck
    simp only [headTemplate, tailTemplate, fileCode, indentBy, Config.effectiveParentClass,
      legacyParentClass, webDriverParentClass, Option.getD_none, -String.reduceToList]
    repeat rw [toList_eq_of_eq_ofList rfl]
    decide +kernel

/-! ## The steps in the body -/

/-- A step's lines as the test method holds them: each indented by eight and ended by a line
feed. -/
def bodySlots (t : Template Hole) : List (Slot Hole) :=
  t.flatMap fun line => .code (List.replicate methodIndent ' ') :: line ++ [.code ['\n']]

theorem webDriverTemplate_pieceCheck (b : Bool) (ρ : WebDriver.Rule) :
    pieceCheck Hole.kind Hole.shared (if ρ = .storeAttribute then some .store else none)
      (bodySlots (webDriverTemplate b ρ)) = true := by
  cases ρ <;> (try cases b) <;>
  · simp only [webDriverTemplate, lookupOn, callOf, waitUntilOf, noSuchElementIsSuccessOf, indent,
      bodyTextPositionOf, textMatchesOf, textDiffersOf, WebDriver.closureReceiver,
      WebDriver.webDriverException, WebDriver.noSuchElement, lit, recv, -String.reduceToList]
    repeat rw [toList_eq_of_eq_ofList rfl]
    decide +kernel

theorem legacyTemplate_pieceCheck (ρ : Legacy.Rule) :
    pieceCheck Hole.kind Hole.shared none (bodySlots (legacyTemplate ρ)) = true := by
  cases ρ <;>
  · simp only [legacyTemplate, callOf, callExprOf, waitLoopOf, confirmationOf, lit, recv,
      -String.reduceToList]
    repeat rw [toList_eq_of_eq_ofList rfl]
    decide +kernel

theorem callTemplate_pieceCheck (target value : Bool) :
    pieceCheck Hole.kind Hole.shared none (bodySlots [callOf (.hole .command) target value]) =
      true := by
  cases target <;> cases value <;>
  · simp only [callOf, lit, recv, -String.reduceToList]
    repeat rw [toList_eq_of_eq_ofList rfl]
    decide +kernel

/-- The code of every step, as the test method holds it, passes the piece check. -/
theorem stepTemplate_pieceCheck (t : Translator) (c : Command) :
    pieceCheck Hole.kind Hole.shared (stepFree t c) (bodySlots (stepTemplate t c)) = true :=
  @stepTemplate_rec (fun t free => pieceCheck Hole.kind Hole.shared free (bodySlots t) = true)
    webDriverTemplate_pieceCheck legacyTemplate_pieceCheck callTemplate_pieceCheck t c

/-- A slot of a line of a template is a slot of the template. -/
theorem mem_slots_of_mem {η : Type} {t : Template η} {line : List (Slot η)} (hl : line ∈ t)
    {x : Slot η} (hx : x ∈ line) : x ∈ t.slots := by
  induction t with
  | nil => cases hl
  | cons l rest ih =>
    unfold Template.slots at ih ⊢
    by_cases hne : rest = []
    · subst hne
      rw [List.intercalate_singleton, ← List.mem_singleton.1 hl]
      exact hx
    · rw [List.intercalate_cons_of_ne_nil hne]
      rcases List.mem_cons.1 hl with rfl | hl
      · exact List.mem_append_left _ (List.mem_append_left _ hx)
      · exact List.mem_append_right _ (ih hl)

theorem hole_mem_slots_of_mem_bodySlots {t : Template Hole} {h : Hole}
    (hm : Slot.hole h ∈ bodySlots t) : Slot.hole h ∈ t.slots := by
  simp only [bodySlots, List.mem_flatMap, List.mem_cons, List.mem_append, List.not_mem_nil,
    reduceCtorEq, false_or, or_false] at hm
  obtain ⟨line, hl, hx⟩ := hm
  exact mem_slots_of_mem hl hx

/-! ## The text of a file -/

/-- A line of the test method's body as the file holds it: indented by eight and ended by a
line feed. -/
def bodyLine (l : String) : List Char := (spaces methodIndent ++ l).toList ++ ['\n']

theorem flatMap_bodyLine (ls : List String) :
    ls.flatMap bodyLine =
      (ls.map String.toList).flatMap fun l => List.replicate methodIndent ' ' ++ l ++ ['\n'] := by
  rw [List.flatMap_map]
  exact List.flatMap_congr fun l _ => by simp [bodyLine, spaces]

theorem flatMap_render_bodySlots (t : Template Hole) (e : Hole → List Char) :
    (bodySlots t).flatMap (Slot.render e) =
      (t.map fun line => line.flatMap (Slot.render e)).flatMap
        fun l => List.replicate methodIndent ' ' ++ l ++ ['\n'] := by
  simp [bodySlots, List.flatMap_map, List.flatMap_assoc, Slot.render]

/-- A step's translated lines, as the test method holds them, are its template's slots as the
test method holds them, filled with its texts. -/
theorem flatMap_bodyLine_translate {t : Translator} {c : Command} {ls : List String}
    (h : t.translate c = .ok ls) (hq : '?' ∉ c.targetText.toList) :
    ls.flatMap bodyLine = (bodySlots (stepTemplate t c)).flatMap (Slot.render (stepEnv t c)) := by
  rw [flatMap_bodyLine, flatMap_render_bodySlots, translate_lines_eq h hq]

/-! ## Steps as the test method holds them -/

/-- Two translated steps of one form with plain texts, as the test method holds them, read
back to between tokens into token lists that pair off alike. -/
theorem translate_pieces_alike {t : Translator} {c₁ c₂ : Command} {ls₁ ls₂ : List String}
    (hr : IsVariable t.receiver.toList) (hp₁ : c₁.Plain) (hp₂ : c₂.Plain)
    (hform : c₁.SameForm t c₂) (h₁ : t.translate c₁ = .ok ls₁) (h₂ : t.translate c₂ = .ok ls₂) :
    ∃ ts₁ ts₂, Reads (ls₁.flatMap bodyLine) ts₁ ∧ Reads (ls₂.flatMap bodyLine) ts₂ ∧
      List.Forall₂ (Token.Alike c₁.storedVariable? c₂.storedVariable?) ts₁ ts₂ ∧
      Balanced ts₁ ∧ Balanced ts₂ := by
  have hf₁ := stepEnv_fits hr hp₁ h₁
  have hf₂ := stepEnv_fits hr hp₂ h₂
  rw [← stepTemplate_eq hform] at hf₂
  have hsh := stepEnv_shared hform h₁ h₂
  rw [flatMap_bodyLine_translate h₁ hp₁.question_not_mem,
    flatMap_bodyLine_translate h₂ hp₂.question_not_mem, ← stepTemplate_eq hform]
  obtain ⟨ts₁, ts₂, hl₁, hl₂, hall, hb₁, hb₂⟩ := pieces_alike (stepTemplate_pieceCheck t c₁)
    (fun h hm => hf₁ h (hole_mem_slots_of_mem_bodySlots hm))
    (fun h hm => hf₂ h (hole_mem_slots_of_mem_bodySlots hm))
    (fun h hm => hsh h (hole_mem_slots_of_mem_bodySlots hm))
  exact ⟨ts₁, ts₂, hl₁, hl₂, hall.imp fun _ _ => stepFree_map hform.name, hb₁, hb₂⟩

/-- The marker line of a refused step with plain texts, as the test method holds it, reads
back to between tokens as one comment. -/
theorem reads_marker {c : Command} (hp : c.Plain) {err : TargetError} (hr : Refused c err) :
    ∃ body, Reads ([skippedStepLine c err].flatMap bodyLine) [⟨.comment, body⟩] := by
  obtain ⟨body, hline, hbody⟩ := skippedStepLine_toList hp hr
  refine ⟨body, ?_⟩
  have h := (reads_spaces methodIndent).append (reads_lineComment hbody)
  simpa [bodyLine, spaces, hline] using h

/-- Two steps as `plain_steps_lex_alike` takes them, as the test method holds them. -/
theorem step_pieces_alike {config : Config} {c₁ c₂ : Command}
    (hr : IsVariable config.receiver.toList) (hp₁ : c₁.Plain) (hp₂ : c₂.Plain)
    (hform : c₁.SameForm (Translator.ofConfig config) c₂)
    (hok : ((Translator.ofConfig config).translate c₁).isOk =
      ((Translator.ofConfig config).translate c₂).isOk)
    {ls₁ ls₂ : List String} (h₁ : translateStep config c₁ = .ok ls₁)
    (h₂ : translateStep config c₂ = .ok ls₂) :
    ∃ ts₁ ts₂, Reads (ls₁.flatMap bodyLine) ts₁ ∧ Reads (ls₂.flatMap bodyLine) ts₂ ∧
      List.Forall₂ (Token.Alike c₁.storedVariable? c₂.storedVariable?) ts₁ ts₂ ∧
      Balanced ts₁ ∧ Balanced ts₂ := by
  rcases translateStep_pair_cases hok h₁ h₂ with ⟨e₁, e₂⟩ | ⟨err₁, err₂, hr₁, hr₂, rfl, rfl⟩
  · exact translate_pieces_alike hr hp₁ hp₂ hform e₁ e₂
  · obtain ⟨b₁, hb₁⟩ := reads_marker hp₁ hr₁
    obtain ⟨b₂, hb₂⟩ := reads_marker hp₂ hr₂
    exact ⟨_, _, hb₁, hb₂, .cons ⟨rfl, .inl rfl⟩ .nil, rfl, rfl⟩

/-- Under the terminators in effect by default, a step's lines, terminated, are its lines with
at most a line feed after them. -/
theorem flatMap_bodyLine_terminateStep {eol : Option String} (heol : eol = none ∨ eol = some "\n")
    (ls : List String) :
    ∃ extra, (terminateStep eol ls).flatMap bodyLine = ls.flatMap bodyLine ++ extra ∧
      Reads extra [] := by
  rcases heol with rfl | rfl
  · exact ⟨[], by simp [terminateStep_none], rfl⟩
  · rcases List.eq_nil_or_concat ls with rfl | ⟨before, last, rfl⟩
    · exact ⟨[], by simp [terminateStep_some], rfl⟩
    · refine ⟨['\n'], ?_, rfl⟩
      rw [List.concat_eq_append, terminateStep_concat]
      simp [bodyLine, String.toList_append]

/-! ## The body of the test method -/

/-- The variables that the `storeAttribute` steps of two lists of steps name, pair by pair. -/
def storedPairs : List Command → List Command → List (List Char × List Char)
  | c₁ :: cs₁, c₂ :: cs₂ =>
    match c₁.storedVariable?, c₂.storedVariable? with
    | some a, some b => (a, b) :: storedPairs cs₁ cs₂
    | _, _ => storedPairs cs₁ cs₂
  | _, _ => []

theorem storedPairs_subset_cons (c₁ c₂ : Command) (cs₁ cs₂ : List Command) :
    storedPairs cs₁ cs₂ ⊆ storedPairs (c₁ :: cs₁) (c₂ :: cs₂) := by
  intro p hp
  simp only [storedPairs]
  split
  · exact List.mem_cons_of_mem _ hp
  · exact hp

theorem mem_storedPairs_cons {c₁ c₂ : Command} {a b : List Char} (h₁ : c₁.storedVariable? = some a)
    (h₂ : c₂.storedVariable? = some b) (cs₁ cs₂ : List Command) :
    (a, b) ∈ storedPairs (c₁ :: cs₁) (c₂ :: cs₂) := by
  simp [storedPairs, h₁, h₂]

/-- Two steps that `plain_steps_lex_alike` compares: plain texts, one form, and both
translated or both refused. -/
structure Command.Paired (t : Translator) (c₁ c₂ : Command) : Prop where
  plain₁ : c₁.Plain
  plain₂ : c₂.Plain
  form : c₁.SameForm t c₂
  ok : (t.translate c₁).isOk = (t.translate c₂).isOk

/-- The steps of two scripts, paired off, make test methods whose bodies read back to between
tokens into token lists that pair off alike but for the variables that paired stores name. -/
theorem steps_pieces_alike {config : Config} (hr : IsVariable config.receiver.toList)
    (heol : config.effectiveCommandEol = none ∨ config.effectiveCommandEol = some "\n")
    {cs₁ cs₂ : List Command} (hpairs : List.Forall₂ (Command.Paired (Translator.ofConfig config)) cs₁ cs₂)
    {steps₁ steps₂ : List (List String)} (h₁ : translateSteps config cs₁ = .ok steps₁)
    (h₂ : translateSteps config cs₂ = .ok steps₂) :
    ∃ ts₁ ts₂, Reads ((methodContent config steps₁).flatMap bodyLine) ts₁ ∧
      Reads ((methodContent config steps₂).flatMap bodyLine) ts₂ ∧
      List.Forall₂ (Token.AlikeBut (storedPairs cs₁ cs₂)) ts₁ ts₂ ∧ Balanced ts₁ ∧ Balanced ts₂ := by
  rw [translateSteps, mapM_eq_ok_iff] at h₁ h₂
  induction hpairs generalizing steps₁ steps₂ with
  | nil =>
    cases h₁
    cases h₂
    exact ⟨[], [], rfl, rfl, .nil, rfl, rfl⟩
  | @cons c₁ c₂ cs₁ cs₂ hpair _ ih =>
    obtain ⟨hp₁, hp₂, hform, hok⟩ := hpair
    obtain _ | ⟨hl₁, hrest₁⟩ := h₁
    obtain _ | ⟨hl₂, hrest₂⟩ := h₂
    rename_i ls₁ rest₁ ls₂ rest₂
    obtain ⟨us₁, us₂, hu₁, hu₂, hus, hbu₁, hbu₂⟩ := ih hrest₁ hrest₂
    obtain ⟨ts₁, ts₂, ht₁, ht₂, hts, hbt₁, hbt₂⟩ := step_pieces_alike hr hp₁ hp₂ hform hok hl₁ hl₂
    obtain ⟨x₁, hx₁, hxr₁⟩ := flatMap_bodyLine_terminateStep heol ls₁
    obtain ⟨x₂, hx₂, hxr₂⟩ := flatMap_bodyLine_terminateStep heol ls₂
    -- the step, its terminator, then the steps after it
    refine ⟨ts₁ ++ us₁, ts₂ ++ us₂, ?_, ?_, ?_, ?_, ?_⟩
    · simpa [methodContent, hx₁] using (ht₁.append hxr₁).append hu₁
    · simpa [methodContent, hx₂] using (ht₂.append hxr₂).append hu₂
    · refine List.rel_append (hts.imp fun a b h => h.alikeBut fun x y hx hy => ?_)
        (hus.imp fun a b h => h.mono (storedPairs_subset_cons c₁ c₂ cs₁ cs₂))
      exact mem_storedPairs_cons hx hy cs₁ cs₂
    · exact Php.Balanced.append hbt₁ hbu₁
    · exact Php.Balanced.append hbt₂ hbu₂

/-! ## The whole file -/

/-- The configuration of the files compared below: the API, the receiver, the timing and
whether refused steps are skipped are set, and every other setting keeps its default. -/
def fileConfig (v : Variant) (r : String) (T : Timing) (k : Bool) : Config :=
  { variant := v, receiver := r, timing := T, continueOnError := k }

/-- The texts that fill the head and the tail of the file of a script, under a receiver and a
stamp. -/
def fileEnv (r : String) (script : Script) (stamp : Stamp) : FileHole → List Char
  | .receiver => r.toList
  | .className => (TestNames.of "" script.testName).className.toList
  | .methodName => (TestNames.of "" script.testName).methodName.toList
  | .baseUrl => script.baseUrl.toList
  | .year => (padded 4 stamp.year).toList
  | .month => (padded 2 stamp.month).toList
  | .day => (padded 2 stamp.day).toList
  | .hour => (padded 2 stamp.hour).toList
  | .minute => (padded 2 stamp.minute).toList
  | .second => (padded 2 stamp.second).toList

/-- The names that two files take from their tests, by design: the class and the method name. -/
def testNamePairs (s₁ s₂ : Script) : List (List Char × List Char) :=
  [((TestNames.of "" s₁.testName).className.toList, (TestNames.of "" s₂.testName).className.toList),
   ((TestNames.of "" s₁.testName).methodName.toList, (TestNames.of "" s₂.testName).methodName.toList)]

/-- The texts that two files of one shape hold differently outside literal and comment bodies:
the names they take from their tests, and the variables that their paired stores name. -/
def fileNames (s₁ s₂ : Script) : List (List Char × List Char) :=
  testNamePairs s₁ s₂ ++ storedPairs s₁.commands s₂.commands

/-- Lines joined by a separator, before a non-empty list of lines: each ended by the separator. -/
theorem intercalate_append_of_right_ne_nil (sep : String) (xs : List String) {ys : List String}
    (hys : ys ≠ []) :
    sep.intercalate (xs ++ ys) = String.join (xs.map (· ++ sep)) ++ sep.intercalate ys := by
  induction xs with
  | nil => simp
  | cons x xs ih =>
    rw [List.cons_append, String.intercalate_cons_of_ne_nil (by simp [hys]), ih]
    simp [String.append_assoc]

/-- The built-in file is the opening tag, the head, the body of the test method line by line,
and the tail. -/
theorem skeleton_toList (v : Variant) (r : String) (T : Timing) (k : Bool) (stamp : Stamp)
    (script : Script) (content : List String) :
    (skeleton (fileConfig v r T k) stamp script content).toList =
      "<?php\n".toList ++ (headTemplate (fileConfig v r T k).effectiveParentClass).render
        (fileEnv r script stamp) ++
        (content.flatMap bodyLine ++ tailTemplate.render (fileEnv r script stamp)) := by
  have hnl : "\n".toList = ['\n'] := toList_eq_of_eq_ofList rfl
  have hopen : "<?php\n".toList = "<?php".toList ++ ['\n'] := by
    rw [toList_eq_of_eq_ofList rfl, toList_eq_of_eq_ofList rfl]
    rfl
  have hbody : content.flatMap bodyLine =
      content.flatMap fun l => List.replicate methodIndent ' ' ++ (l.toList ++ ['\n']) :=
    List.flatMap_congr fun l _ => by simp [bodyLine, spaces]
  rw [hbody]
  unfold skeleton skeletonLines
  simp only [fileConfig, List.isEmpty_nil, if_true, List.append_nil, setUpLines, List.append_assoc,
    List.cons_append, List.nil_append, List.map_cons, List.map_nil]
  -- the ten lines of the head, then the body and the tail
  rw [String.intercalate_cons_of_ne_nil (by simp), String.intercalate_cons_of_ne_nil (by simp),
    String.intercalate_cons_of_ne_nil (by simp), String.intercalate_cons_of_ne_nil (by simp),
    String.intercalate_cons_of_ne_nil (by simp), String.intercalate_cons_of_ne_nil (by simp),
    String.intercalate_cons_of_ne_nil (by simp), String.intercalate_cons_of_ne_nil (by simp),
    String.intercalate_cons_of_ne_nil (by simp), String.intercalate_cons_of_ne_nil (by simp),
    intercalate_append_of_right_ne_nil _ _ (by simp)]
  simp only [Template.render, headTemplate, tailTemplate, fileCode, indentBy, Slot.render, fileEnv,
    generatedComment, Stamp.text, String.toList_join, List.flatMap_map, spaces, TestNames.of,
    String.toList_append, String.toList_intercalate, String.toList_ofList, List.map_cons,
    List.map_nil, List.flatMap_cons, List.flatMap_nil, List.intercalate_cons_cons,
    List.intercalate_singleton, List.append_assoc, List.append_nil, List.nil_append, hnl, hopen,
    String.toList_empty, -String.reduceToList, -String.reduceAppend]

/-- Without a template, a conversion writes the built-in skeleton around the steps of the
script it reads. -/
theorem convertDocument_eq_skeleton {config : Config} (ht : config.template = none)
    {stamp : Stamp} {read : String → FileText} {html : String} {n : Option String} {f : String}
    (h : convertDocument config stamp read html n = .ok f) :
    ∃ script steps, Script.read (readSettings config n) html = .ok script ∧
      translateSteps config script.commands = .ok steps ∧
      f = skeleton config stamp script (methodContent config steps) := by
  unfold convertDocument at h
  cases hp : parseDocument config html n with
  | error e => simp [hp, bind, Except.bind] at h
  | ok script =>
    cases hs : translateSteps config script.commands with
    | error e => simp [hp, hs, bind, Except.bind] at h
    | ok steps =>
      simp only [hp, hs, bind, Except.bind, assembleFile, ht, Except.ok.injEq] at h
      exact ⟨script, steps, (parseDocument_eq_ok_iff config html n script).1 hp, hs, h.symm⟩

theorem isName_className {name : String} (h : IsName name.toList) :
    IsName (TestNames.of "" name).className.toList := by
  obtain ⟨c, cs, hcs⟩ : ∃ c cs, name.toList = c :: cs := by
    cases hn : name.toList with
    | nil => rw [hn] at h; exact h.elim
    | cons c cs => exact ⟨c, cs, rfl⟩
  rw [hcs] at h
  simp only [TestNames.of, String.empty_append, String.toList_append, hcs, List.cons_append]
  refine ⟨h.1, fun d hd => ?_⟩
  rcases List.mem_append.1 hd with hd | hd
  · exact h.2 d hd
  · rw [toList_eq_of_eq_ofList rfl] at hd
    exact List.all_eq_true.1 (by decide : ['T', 'e', 's', 't'].all isNameChar = true) d hd

theorem isName_methodName {name : String} (h : IsName name.toList) :
    IsName (TestNames.of "" name).methodName.toList := by
  have hchars := isNameChar_of_isName h
  rw [TestNames.of, String.toList_append, toList_eq_of_eq_ofList rfl]
  refine ⟨by decide, fun d hd => ?_⟩
  rcases List.mem_append.1 hd with hd | hd
  · exact List.all_eq_true.1 (by decide : ['e', 's', 't'].all isNameChar = true) d hd
  · exact hchars d hd

/-- A field of a stamp is digits, one at least. -/
theorem padded_fits (w n : Nat) : HoleKind.digits.Fits (padded w n).toList := by
  obtain ⟨-, hd⟩ := digits_fits n
  refine ⟨by simp [padded], fun c hc => ?_⟩
  simp only [padded, String.toList_append, String.toList_ofList, List.mem_append,
    List.mem_replicate] at hc
  rcases hc with ⟨-, rfl⟩ | hc
  · rfl
  · exact hd c hc

theorem fileEnv_fits {r : String} (hr : IsVariable r.toList) {script : Script}
    (hn : IsName script.testName.toList) (hu : ∀ x ∈ script.baseUrl.toList, isPlain x = true)
    (stamp : Stamp) (h : FileHole) : (FileHole.kind h).Fits (fileEnv r script stamp h) := by
  cases h
  case receiver => exact hr
  case className => exact isName_className hn
  case methodName => exact isName_methodName hn
  case baseUrl => exact hu
  all_goals exact padded_fits _ _


/-- The head and the tail of two files of one configuration read back to between tokens into
token lists that pair off alike but for the names the files take from their tests; together
their brackets nest. -/
theorem frame_alike {parent : String} (hc : frameCheck parent = true) {r : String}
    (hr : IsVariable r.toList) {s₁ s₂ : Script} (hn₁ : IsName s₁.testName.toList)
    (hn₂ : IsName s₂.testName.toList) (hu₁ : ∀ x ∈ s₁.baseUrl.toList, isPlain x = true)
    (hu₂ : ∀ x ∈ s₂.baseUrl.toList, isPlain x = true) (stamp₁ stamp₂ : Stamp) :
    ∃ hs₁ hs₂ fs₁ fs₂,
      Reads ((headTemplate parent).render (fileEnv r s₁ stamp₁)) hs₁ ∧
      Reads ((headTemplate parent).render (fileEnv r s₂ stamp₂)) hs₂ ∧
      Reads (tailTemplate.render (fileEnv r s₁ stamp₁)) fs₁ ∧
      Reads (tailTemplate.render (fileEnv r s₂ stamp₂)) fs₂ ∧
      List.Forall₂ (Token.AlikeBut (testNamePairs s₁ s₂)) hs₁ hs₂ ∧
      List.Forall₂ (Token.AlikeBut (testNamePairs s₁ s₂)) fs₁ fs₂ ∧
      nests [] ((hs₁ ++ fs₁).map Token.kind) = true ∧
      nests [] ((hs₂ ++ fs₂).map Token.kind) = true := by
  unfold frameCheck at hc
  split at hc
  case h_2 => exact absurd hc Bool.false_ne_true
  case h_1 hs ts hh ht =>
  simp only [Bool.and_eq_true, List.all_eq_true] at hc
  obtain ⟨hall, hnest⟩ := hc
  have hf₁ := fileEnv_fits hr hn₁ hu₁ stamp₁
  have hf₂ := fileEnv_fits hr hn₂ hu₂ stamp₂
  -- a settled token reads alike in both files; the others are the test's names
  have halike : ∀ t ∈ hs ++ ts, Token.AlikeBut (testNamePairs s₁ s₂)
      (t.eval (fileEnv r s₁ stamp₁)) (t.eval (fileEnv r s₂ stamp₂)) := by
    intro t htm
    rcases Bool.or_eq_true_iff.1 (hall t htm) with hset | hname
    · refine (Token.alike_eval hset fun h hsh => ?_).alikeBut fun x y hx => by cases hx
      cases h <;> first | exact absurd hsh Bool.false_ne_true | rfl
    · simp only [FileHole.isName, Bool.or_eq_true, beq_iff_eq] at hname
      rcases hname with rfl | rfl <;>
        exact ⟨rfl, .inr (.inr (by simp [Token.eval, Sym.eval, testNamePairs, fileEnv]))⟩
  refine ⟨hs.map (Token.eval (fileEnv r s₁ stamp₁)), hs.map (Token.eval (fileEnv r s₂ stamp₂)),
    ts.map (Token.eval (fileEnv r s₁ stamp₁)), ts.map (Token.eval (fileEnv r s₂ stamp₂)),
    ?_, ?_, ?_, ?_, ?_, ?_, ?_, ?_⟩
  · exact Template.reads_render hh hf₁
  · exact Template.reads_render hh hf₂
  · exact Template.reads_render ht hf₁
  · exact Template.reads_render ht hf₂
  · rw [List.forall₂_map_left_iff, List.forall₂_map_right_iff, List.forall₂_same]
    exact fun t htm => halike t (List.mem_append_left _ htm)
  · rw [List.forall₂_map_left_iff, List.forall₂_map_right_iff, List.forall₂_same]
    exact fun t htm => halike t (List.mem_append_right _ htm)
  · rw [← List.map_append, kinds_map_eval]; exact hnest
  · rw [← List.map_append, kinds_map_eval]; exact hnest

/-- A body that nests on its own leaves the brackets of the file to its head and tail. -/
theorem balanced_frame {hs bs fs : List (Token Char)} (hb : Php.Balanced bs)
    (hframe : nests [] ((hs ++ fs).map Token.kind) = true) : Php.Balanced (hs ++ (bs ++ fs)) := by
  unfold Php.Balanced at hb ⊢
  rw [List.map_append, List.map_append, ← List.append_assoc, nests_insert hb, ← List.map_append]
  exact hframe

/-- Two documents whose steps pair off as `plain_steps_lex_alike` takes them, whose test names
are PHP names and whose base URLs are plain, become built-in files that are the opening tag and
code that lexes into token lists pairing off one to one: of one kind, and of one text outside
literal and comment bodies, the class and method names and the variables that paired stores
name; in each the brackets nest. -/
theorem builtin_files_lex_alike {v : Variant} {r : String} {T : Timing} {k : Bool}
    (hr : IsVariable r.toList) {html₁ html₂ : String} {n₁ n₂ : Option String} {s₁ s₂ : Script}
    (hs₁ : Script.read (readSettings (fileConfig v r T k) n₁) html₁ = .ok s₁)
    (hs₂ : Script.read (readSettings (fileConfig v r T k) n₂) html₂ = .ok s₂)
    (hsteps : List.Forall₂ (Command.Paired (Translator.ofConfig (fileConfig v r T k)))
      s₁.commands s₂.commands)
    (hn₁ : IsName s₁.testName.toList) (hn₂ : IsName s₂.testName.toList)
    (hu₁ : ∀ x ∈ s₁.baseUrl.toList, isPlain x = true)
    (hu₂ : ∀ x ∈ s₂.baseUrl.toList, isPlain x = true)
    {stamp₁ stamp₂ : Stamp} {read₁ read₂ : String → FileText} {f₁ f₂ : String}
    (h₁ : convertDocument (fileConfig v r T k) stamp₁ read₁ html₁ n₁ = .ok f₁)
    (h₂ : convertDocument (fileConfig v r T k) stamp₂ read₂ html₂ n₂ = .ok f₂) :
    ∃ code₁ code₂ ts₁ ts₂, f₁.toList = "<?php\n".toList ++ code₁ ∧
      f₂.toList = "<?php\n".toList ++ code₂ ∧ lex code₁ = some ts₁ ∧ lex code₂ = some ts₂ ∧
      List.Forall₂ (Token.AlikeBut (fileNames s₁ s₂)) ts₁ ts₂ ∧ Php.Balanced ts₁ ∧
      Php.Balanced ts₂ := by
  obtain ⟨s₁', steps₁, hr₁, ht₁, rfl⟩ := convertDocument_eq_skeleton rfl h₁
  obtain ⟨s₂', steps₂, hr₂, ht₂, rfl⟩ := convertDocument_eq_skeleton rfl h₂
  obtain rfl : s₁' = s₁ := Except.ok.inj (hr₁.symm.trans hs₁)
  obtain rfl : s₂' = s₂ := Except.ok.inj (hr₂.symm.trans hs₂)
  have heol : (fileConfig v r T k).effectiveCommandEol = none ∨
      (fileConfig v r T k).effectiveCommandEol = some "\n" := by
    cases v <;> simp [fileConfig, Config.effectiveCommandEol]
  obtain ⟨hs₁, hs₂, fs₁, fs₂, hh₁, hh₂, hf₁, hf₂, hhs, hfs, hframe₁, hframe₂⟩ :=
    frame_alike (frameCheck_parentClass v) hr hn₁ hn₂ hu₁ hu₂ stamp₁ stamp₂
  obtain ⟨bs₁, bs₂, hb₁, hb₂, hbs, hbal₁, hbal₂⟩ := steps_pieces_alike hr heol hsteps ht₁ ht₂
  have hnames : testNamePairs s₁' s₂' ⊆ fileNames s₁' s₂' := List.subset_append_left _ _
  have hstored : storedPairs s₁'.commands s₂'.commands ⊆ fileNames s₁' s₂' :=
    List.subset_append_right _ _
  refine ⟨_, _, hs₁ ++ (bs₁ ++ fs₁), hs₂ ++ (bs₂ ++ fs₂), skeleton_toList .., skeleton_toList ..,
    (hh₁.append (hb₁.append hf₁)).lex_eq, (hh₂.append (hb₂.append hf₂)).lex_eq, ?_,
    balanced_frame hbal₁ hframe₁, balanced_frame hbal₂ hframe₂⟩
  exact List.rel_append (hhs.imp fun _ _ h => h.mono hnames)
    (List.rel_append (hbs.imp fun _ _ h => h.mono hstored) (hfs.imp fun _ _ h => h.mono hnames))


/-! ## Recorded text and the shape of code -/

/-- A computation that succeeds has a result. -/
theorem exists_eq_ok_of_isOk {ε α : Type} {x : Except ε α} {P : α → Prop} (hx : x.isOk = true)
    (h : ∀ a, x = .ok a → P a) : ∃ a, x = .ok a ∧ P a := by
  cases x with
  | error e => cases hx
  | ok a => exact ⟨a, rfl, h a rfl⟩

/-- Two codes lex into token lists that do not pair off, as a computation finds. -/
theorem not_exists_lex_forall₂ {R : Token Char → Token Char → Prop} [DecidableRel R]
    {code₁ code₂ : List Char}
    (h : ((lex code₁).bind fun ts₁ => (lex code₂).map fun ts₂ =>
      decide (List.Forall₂ R ts₁ ts₂)) = some false) :
    ¬ ∃ ts₁ ts₂, lex code₁ = some ts₁ ∧ lex code₂ = some ts₂ ∧ List.Forall₂ R ts₁ ts₂ := by
  rintro ⟨ts₁, ts₂, h₁, h₂, hall⟩
  rw [h₁, h₂] at h
  simp only [Option.bind_some, Option.map_some, Option.some.injEq, decide_eq_false_iff_not] at h
  exact h hall

end Transcribe
