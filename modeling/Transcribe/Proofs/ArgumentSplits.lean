import Transcribe.Proofs.Refusal
import Transcribe.Proofs.Selectors
/-!
# `Proofs.ArgumentSplits` — where `storeAttribute` and `select` cut their arguments

Two WebDriver rules write a part of an argument into code: `storeAttribute` cuts its target
into an element part and an attribute name, and `select` takes the text of its option after
`label=` or `value=`. Both cuts are the leftmost ones their patterns allow, and this module
says where that puts them.

## What is proved

* `storeAttribute_lines_iff` — take an element locator `E` that resolves and holds no line
  feed, an attribute name `A`, non-empty and without blanks, and any variable name `V`. The
  target `E/@A` becomes the three lines that look `E` up and read `A` from it into `$V`
  exactly when every `@` of `E` has a blank somewhere after it (`BlankAfterEveryAt`). The
  cut is the one with the shortest element part, so an `@` of `E` followed only by
  non-blanks already ends an element part: the target `//a[@id='x']/@href` is cut after
  `//a[` (`xpath_predicate_cut_at_its_at`).
* `select_option_by_prefix` — for a target that resolves and an option text `X`, non-empty
  and without a line feed, the value `label=X` selects by the label `X`, and the value
  `value=X` selects by the value `X` unless `X` itself holds `label=` with a character after
  it: `label=` is looked for first, anywhere in the value, so then the step selects by the
  label after it (`value_naming_a_label_selects_by_label`).

## What it is not

Line feeds are left out on purpose. The element part of a cut holds none, so a target whose
element locator holds one is refused; and an option's text ends at its first line feed.

## How

`Proofs.Arguments` describes the walk of `splitAttribute?` as the shortest cut
(`ShortestAttributeSplit`). What is left is to say when `E` is the shortest element part
of `E/@A`: a shorter one ends at an `@` of `E` that only non-blanks follow
(`exists_bare_at_of_shorter`), and such an `@` ends one (`shorter_split_of_bare_at`).
The option readers are leftmost matches, and `label=` matches at none of the six positions
of `value=` (`optionArgument?_label_value`).
-/

namespace Transcribe

open Transcribe.Text Transcribe.Translate Transcribe.Translate.WebDriver

/-! ## The element part of an attribute target -/

/-- Every `@` of an element part has a blank somewhere after it: an attribute name, which
runs to the end of the target without blanks, cannot start right after one. -/
def BlankAfterEveryAt (e : List Char) : Prop :=
  ∀ pre post, e = pre ++ '@' :: post → ∃ x ∈ post, isBlank x = true

/-- `BlankAfterEveryAt`, checked one character at a time. -/
def blankAfterEveryAt : List Char → Bool
  | [] => true
  | c :: cs => (c != '@' || cs.any isBlank) && blankAfterEveryAt cs

theorem blankAfterEveryAt_iff : ∀ e, blankAfterEveryAt e = true ↔ BlankAfterEveryAt e
  | [] => by
    simp only [blankAfterEveryAt, true_iff]
    intro pre post h
    simp at h
  | c :: cs => by
    rw [blankAfterEveryAt, Bool.and_eq_true, blankAfterEveryAt_iff cs]
    constructor
    · rintro ⟨hc, hcs⟩ pre post h
      cases pre with
      | nil =>
        obtain ⟨rfl, rfl⟩ := List.cons.inj h
        simpa using hc
      | cons d pre =>
        obtain ⟨-, rfl⟩ := List.cons.inj h
        exact hcs pre post rfl
    · intro h
      refine ⟨?_, fun pre post hp => h (c :: pre) post (by rw [hp, List.cons_append])⟩
      by_cases hc : c = '@'
      · subst hc
        obtain ⟨x, hx, hb⟩ := h [] cs rfl
        simpa using ⟨x, hx, hb⟩
      · simp [hc]

instance : DecidablePred BlankAfterEveryAt := fun e =>
  decidable_of_iff _ (blankAfterEveryAt_iff e)

/-- A target that resolves begins with `/` or with a strategy's prefix, never with `@`. -/
theorem Resolves.ne_at_cons {s : String} (h : Resolves s) (post : List Char) :
    s.toList ≠ '@' :: post := by
  intro hs
  obtain ⟨l, hl⟩ := h
  unfold Locator.resolve at hl
  rw [hs] at hl
  simp [prefixed?, isLowerAscii] at hl

/-- A split shorter than `e` of `e/@a` ends at an `@` of `e` that only non-blanks follow. -/
theorem exists_bare_at_of_shorter {e a e' a' : List Char}
    (hs : AttributeSplit (e ++ '/' :: '@' :: a) e' a') (hlt : e'.length < e.length) :
    ∃ pre post, e = pre ++ '@' :: post ∧ ∀ x ∈ post, isBlank x = false := by
  obtain ⟨-, -, s, ht, -, hb, htail⟩ := hs
  rcases List.append_eq_append_iff.1 ht with ⟨m, rfl, -⟩ | ⟨m, rfl, hsm⟩
  · simp only [List.length_append] at hlt
    omega
  -- the rest of `e` after `e'` starts the tail: with `@`, or with `/@`
  have hm : m ≠ [] := by
    rintro rfl
    simp at hlt
  obtain ⟨d, m, rfl⟩ := List.exists_cons_of_ne_nil hm
  rcases htail with rfl | rfl
  · obtain ⟨rfl, hrest⟩ := List.cons.inj hsm
    cases m with
    | nil => simp at hrest
    | cons d' m =>
      obtain ⟨rfl, rfl⟩ := List.cons.inj hrest
      exact ⟨e' ++ ['/'], m, by simp, fun x hx => hb x (by simp [hx])⟩
  · obtain ⟨rfl, rfl⟩ := List.cons.inj hsm
    exact ⟨e', m, rfl, fun x hx => hb x (by simp [hx])⟩

/-- An `@` of `e`, past its first character, that only non-blanks follow ends a split of
`e/@a` shorter than `e`. -/
theorem shorter_split_of_bare_at {pre post a : List Char} (hpre : pre ≠ [])
    (hn : '\n' ∉ pre ++ '@' :: post) (hb : ∀ x ∈ post, isBlank x = false)
    (hab : ∀ x ∈ a, isBlank x = false) :
    AttributeSplit ((pre ++ '@' :: post) ++ '/' :: '@' :: a) pre (post ++ '/' :: '@' :: a) := by
  refine ⟨hpre, fun h => hn (List.mem_append_left _ h), '@' :: (post ++ '/' :: '@' :: a),
    by simp, by simp, ?_, .inr rfl⟩
  intro x hx
  simp only [List.mem_append, List.mem_cons] at hx
  rcases hx with hx | rfl | rfl | hx
  · exact hb x hx
  · decide
  · decide
  · exact hab x hx

/-- `e` is the shortest element part of `e/@a` exactly when every `@` of `e` has a blank
after it. -/
theorem shortest_split_iff {e a : List Char} (he : e ≠ []) (hn : '\n' ∉ e)
    (hat : ∀ post, e ≠ '@' :: post) (ha : a ≠ []) (hb : ∀ x ∈ a, isBlank x = false) :
    ShortestAttributeSplit (e ++ '/' :: '@' :: a) e a ↔ BlankAfterEveryAt e := by
  constructor
  · rintro ⟨-, hmin⟩ pre post rfl
    by_contra hno
    have hpost : ∀ x ∈ post, isBlank x = false := fun x hx => by
      cases h : isBlank x
      · rfl
      · exact absurd ⟨x, hx, h⟩ hno
    have hpre : pre ≠ [] := by
      rintro rfl
      exact hat post rfl
    have hle := hmin _ _ (shorter_split_of_bare_at hpre hn hpost hb)
    simp only [List.length_append, List.length_cons] at hle
    omega
  · intro hblank
    refine ⟨⟨he, hn, _, rfl, ha, hb, .inl rfl⟩, fun e' a' hs => ?_⟩
    by_contra hlt
    obtain ⟨pre, post, rfl, hpost⟩ := exists_bare_at_of_shorter hs (Nat.lt_of_not_le hlt)
    obtain ⟨x, hx, hbx⟩ := hblank pre post rfl
    rw [hpost x hx] at hbx
    cases hbx

/-- The shortest split of `e/@a` whose attribute name is `a` has `e` as its element part. -/
theorem ShortestAttributeSplit.eq_of_slash {e e' a : List Char}
    (h : ShortestAttributeSplit (e' ++ '/' :: '@' :: a) e a)
    (h' : AttributeSplit (e' ++ '/' :: '@' :: a) e' a) :
    e = e' := by
  have hle := h.2 e' a h'
  obtain ⟨-, -, s, ht, -, -, htail⟩ := h.1
  -- the tail is at most `/@a`, so the element part is at least `e'`
  have hs : s.length ≤ a.length + 2 := by
    rcases htail with rfl | rfl <;> simp
  have hlen := congrArg List.length ht
  simp only [List.length_append, List.length_cons] at hlen
  exact List.append_inj_left ht.symm (by omega)

/-! ## `storeAttribute` -/

/-- A `storeAttribute` step gives lines exactly when its target splits and the element part
resolves: the target as a comment, the lookup, and the attribute read into the variable. -/
theorem storeAttribute_eq_ok_iff (receiver : String) (timing : Timing) (target V : String)
    (lines : List String) :
    WebDriver.translate receiver timing ⟨"storeAttribute", some target, some V⟩ = .ok lines ↔
      ∃ element attr line, splitAttribute? target = some (element, attr) ∧
        find element receiver = .ok line ∧
        lines = ["//replacement for: " ++ target, "$element = " ++ line,
          "$" ++ V ++ " = $element->attribute('" ++ attr ++ "');"] := by
  simp only [WebDriver.translate, Rule.ofName?, Rule.lines, Command.targetText, Command.valueText,
    Option.getD]
  cases hs : splitAttribute? target with
  | none => simp [throw, throwThe, MonadExceptOf.throw, bind, Except.bind]
  | some p =>
    obtain ⟨element, attr⟩ := p
    cases hf : find element receiver with
    | error e => simp [bind, Except.bind, pure, Except.pure, hf]
    | ok line =>
      simp only [bind, Except.bind, pure, Except.pure, hf, Except.ok.injEq]
      constructor
      · rintro rfl
        exact ⟨element, attr, line, rfl, hf, rfl⟩
      · rintro ⟨element', attr', line', hs', hf', rfl⟩
        obtain ⟨rfl, rfl⟩ := Prod.mk.inj (Option.some.inj hs')
        rw [hf, Except.ok.injEq] at hf'
        rw [hf']

/-- `storeAttribute` on `E/@A` looks `E` up and reads `A` from it exactly when every `@` of
`E` has a blank after it, for every element locator `E` that resolves and holds no line
feed, attribute name `A` without blanks and variable `V`. -/
theorem storeAttribute_lines_iff (receiver : String) (timing : Timing) {E : String}
    {l : Locator} (hE : Locator.resolve E = .ok l) (hn : '\n' ∉ E.toList) (A V : String)
    (hA : A ≠ "") (hb : ∀ x ∈ A.toList, isBlank x = false) :
    WebDriver.translate receiver timing ⟨"storeAttribute", some (E ++ "/@" ++ A), some V⟩ =
        .ok ["//replacement for: " ++ E ++ "/@" ++ A, "$element = " ++ l.toPhp receiver,
          "$" ++ V ++ " = $element->attribute('" ++ A ++ "');"] ↔
      BlankAfterEveryAt E.toList := by
  have htarget : (E ++ "/@" ++ A).toList = E.toList ++ '/' :: '@' :: A.toList := by simp
  have hE' : E.toList ≠ [] := by
    intro h
    unfold Locator.resolve at hE
    rw [h] at hE
    simp [prefixed?] at hE
  have hA' : A.toList ≠ [] := by simpa using hA
  have hsplit : AttributeSplit (E.toList ++ '/' :: '@' :: A.toList) E.toList A.toList :=
    ⟨hE', hn, _, rfl, hA', hb, .inl rfl⟩
  rw [storeAttribute_eq_ok_iff, ← shortest_split_iff hE' hn (Resolves.ne_at_cons ⟨l, hE⟩) hA' hb,
    ← htarget]
  constructor
  · rintro ⟨element, attr, line, hs, -, hlines⟩
    obtain ⟨e, a, hshort, rfl, rfl⟩ := (splitAttribute?_eq_some_iff _ _ _).1 hs
    -- the attribute name is read back from the third line, and then the element part is `E`
    have ha : String.ofList a = A := by
      simp only [List.cons.injEq] at hlines
      simpa [String.append_assoc] using hlines.2.2.1.symm
    obtain rfl : a = A.toList := by rw [← ha, String.toList_ofList]
    rw [htarget] at hshort ⊢
    obtain rfl := hshort.eq_of_slash hsplit
    exact hshort
  · intro hshort
    have hs : splitAttribute? (E ++ "/@" ++ A) = some (E, A) :=
      (splitAttribute?_eq_some_iff _ _ _).2 ⟨E.toList, A.toList, hshort, by simp, by simp⟩
    exact ⟨E, A, l.toPhp receiver, hs, by simp [find, hE, Except.map], by simp [String.append_assoc]⟩

/-- An XPath predicate with a blank after its `@`: the target is cut at the `/@` before the
attribute name, and the element is looked up whole. -/
theorem titled_link_stores_its_href :
    Locator.resolve "//a[@title='a b']" = .ok ⟨.xpath, "//a[@title='a b']"⟩ ∧
      '\n' ∉ "//a[@title='a b']".toList ∧ "href" ≠ "" ∧
      (∀ x ∈ "href".toList, isBlank x = false) ∧
      WebDriver.translate "$this" {}
          ⟨"storeAttribute", some ("//a[@title='a b']" ++ "/@" ++ "href"), some "link"⟩ =
        .ok ["//replacement for: " ++ "//a[@title='a b']" ++ "/@" ++ "href",
          "$element = " ++ (⟨.xpath, "//a[@title='a b']"⟩ : Locator).toPhp "$this",
          "$" ++ "link" ++ " = $element->attribute('" ++ "href" ++ "');"] := by
  have hE : Locator.resolve "//a[@title='a b']" = .ok ⟨.xpath, "//a[@title='a b']"⟩ := rfl
  have hn : '\n' ∉ "//a[@title='a b']".toList := by decide
  have hb : ∀ x ∈ "href".toList, isBlank x = false := fun x hx => by
    simpa using List.all_eq_true.1 (by decide : "href".toList.all (fun x => !isBlank x) = true) x hx
  exact ⟨hE, hn, by decide, hb,
    (storeAttribute_lines_iff "$this" {} hE hn "href" "link" (by decide) hb).2 (by decide)⟩

/-- The XPath predicate `//a[@id='x']` has an `@` that only non-blanks follow, so its
attribute target is cut there: the element part is `//a[`, the attribute name the rest. -/
theorem xpath_predicate_cut_at_its_at :
    WebDriver.translate "$this" {} ⟨"storeAttribute", some "//a[@id='x']/@href", some "link"⟩ =
        .ok ["//replacement for: //a[@id='x']/@href", "$element = $this->byXPath(\"//a[\");",
          "$link = $element->attribute('id='x']/@href');"] ∧
      WebDriver.translate "$this" {}
          ⟨"storeAttribute", some ("//a[@id='x']" ++ "/@" ++ "href"), some "link"⟩ ≠
        .ok ["//replacement for: " ++ "//a[@id='x']" ++ "/@" ++ "href",
          "$element = " ++ (⟨.xpath, "//a[@id='x']"⟩ : Locator).toPhp "$this",
          "$" ++ "link" ++ " = $element->attribute('" ++ "href" ++ "');"] := by
  have hcut :
      WebDriver.translate "$this" {} ⟨"storeAttribute", some "//a[@id='x']/@href", some "link"⟩ =
      .ok ["//replacement for: //a[@id='x']/@href", "$element = $this->byXPath(\"//a[\");",
        "$link = $element->attribute('id='x']/@href');"] := by decide
  refine ⟨hcut, ?_⟩
  rw [show "//a[@id='x']" ++ "/@" ++ "href" = "//a[@id='x']/@href" from rfl, hcut]
  decide

/-! ## `select` -/

/-- The lines of a `select` step whose element is `l`, ending with the line `pick` that picks
the option. -/
def selectLines (receiver : String) (l : Locator) (pick : String) : List String :=
  ["$element = " ++ l.toPhp receiver, "$selectElement = " ++ receiver ++ "->select($element);",
    pick]

/-- The option after a key at the front of the value is the rest of the value, when that is
one non-empty line. -/
theorem optionArgument?_key_append (key X : String) (hX : X ≠ "") (hn : '\n' ∉ X.toList) :
    optionArgument? key (key ++ X) = some X := by
  have hline : X.toList.takeWhile (· != '\n') = X.toList :=
    List.takeWhile_eq_self_iff.2 fun x hx => by
      simp only [bne_iff_ne, ne_eq]
      rintro rfl
      exact hn hx
  have hX' : X.toList ≠ [] := by simpa using hX
  unfold optionArgument?
  apply firstMatch_of_eq_some
  rw [String.toList_append, if_pos (List.isPrefixOf_iff_prefix.2 (List.prefix_append _ _)),
    ← String.length_toList, List.drop_left, hline]
  obtain ⟨c, cs, hcs⟩ := List.exists_cons_of_ne_nil hX'
  rw [hcs]
  simp only [Option.some.injEq]
  rw [← hcs, String.ofList_toList]

/-- `label=` starts at none of the positions of `value=`, so in `value=X` it is looked for
in `X`. -/
theorem optionArgument?_label_value (X : String) :
    optionArgument? "label=" ("value=" ++ X) = optionArgument? "label=" X := by
  have hkey : "label=".toList = ['l', 'a', 'b', 'e', 'l', '='] := rfl
  have hvalue : "value=".toList = ['v', 'a', 'l', 'u', 'e', '='] := rfl
  unfold optionArgument?
  rw [String.toList_append, hvalue, hkey]
  simp [firstMatch]


/-- A `select` step whose target resolves: the option is taken after `label=` if the value
has one with text after it, else after `value=`, else refused. -/
theorem select_of_resolves (receiver : String) (timing : Timing) {target : String} {l : Locator}
    (ht : Locator.resolve target = .ok l) (v : String) :
    WebDriver.translate receiver timing ⟨"select", some target, some v⟩ =
      match optionArgument? "label=" v with
      | some label =>
        .ok (selectLines receiver l ("$selectElement->selectOptionByLabel(\"" ++ label ++ "\");"))
      | none =>
        match optionArgument? "value=" v with
        | some x =>
          .ok (selectLines receiver l ("$selectElement->selectOptionByValue(\"" ++ x ++ "\");"))
        | none => .error (.unknownOptionSelector v) := by
  have hfind : find target receiver = .ok (l.toPhp receiver) := by simp [find, ht, Except.map]
  simp only [WebDriver.translate, Rule.ofName?, Rule.lines, Command.targetText, Command.valueText,
    Option.getD, hfind]
  cases optionArgument? "label=" v <;> cases optionArgument? "value=" v <;> rfl

/-- `select` picks its option by the key at the front of its value, for a target that
resolves and an option text `X` that is one non-empty line: `label=X` selects by the label
`X`; `value=X` selects by the value `X` unless `X` holds `label=` with a character after it,
and then by the label after the first such `label=`. -/
theorem select_option_by_prefix (receiver : String) (timing : Timing) {target : String}
    {l : Locator} (ht : Locator.resolve target = .ok l) (X : String) (hX : X ≠ "")
    (hn : '\n' ∉ X.toList) :
    WebDriver.translate receiver timing ⟨"select", some target, some ("label=" ++ X)⟩ =
        .ok (selectLines receiver l ("$selectElement->selectOptionByLabel(\"" ++ X ++ "\");")) ∧
      (¬ HasOption "label=" X →
        WebDriver.translate receiver timing ⟨"select", some target, some ("value=" ++ X)⟩ =
          .ok (selectLines receiver l
            ("$selectElement->selectOptionByValue(\"" ++ X ++ "\");"))) ∧
      (∀ label, optionArgument? "label=" X = some label →
        WebDriver.translate receiver timing ⟨"select", some target, some ("value=" ++ X)⟩ =
          .ok (selectLines receiver l
            ("$selectElement->selectOptionByLabel(\"" ++ label ++ "\");"))) := by
  refine ⟨?_, fun hno => ?_, fun label hlabel => ?_⟩
  · rw [select_of_resolves receiver timing ht, optionArgument?_key_append "label=" X hX hn]
  · -- no `label=` in `X`, and none straddles `value=` and `X`
    have hnone : optionArgument? "label=" ("value=" ++ X) = none := by
      rw [optionArgument?_label_value, optionArgument?_eq_none_iff]
      exact hno
    rw [select_of_resolves receiver timing ht, hnone, optionArgument?_key_append "value=" X hX hn]
  · rw [select_of_resolves receiver timing ht, optionArgument?_label_value, hlabel]

/-- A one-word option: `label=en` selects by the label and `value=en` by the value. -/
theorem select_by_label_or_value_of_en :
    Locator.resolve "id=lang" = .ok ⟨.id, "lang"⟩ ∧ "en" ≠ "" ∧ '\n' ∉ "en".toList ∧
      WebDriver.translate "$this" {} ⟨"select", some "id=lang", some ("label=" ++ "en")⟩ =
        .ok (selectLines "$this" ⟨.id, "lang"⟩
          ("$selectElement->selectOptionByLabel(\"" ++ "en" ++ "\");")) ∧
      WebDriver.translate "$this" {} ⟨"select", some "id=lang", some ("value=" ++ "en")⟩ =
        .ok (selectLines "$this" ⟨.id, "lang"⟩
          ("$selectElement->selectOptionByValue(\"" ++ "en" ++ "\");")) := by
  have ht : Locator.resolve "id=lang" = .ok ⟨.id, "lang"⟩ := rfl
  have hno : ¬ HasOption "label=" "en" := by
    rw [← optionArgument?_eq_none_iff]
    decide
  obtain ⟨hlabel, hvalue, -⟩ := select_option_by_prefix "$this" {} ht "en" (by decide) (by decide)
  exact ⟨ht, by decide, by decide, hlabel, hvalue hno⟩

/-- A value option whose text names a label selects by that label: `label=` is looked for
first, anywhere in the value, so `value=label=a` selects the label `a`. -/
theorem value_naming_a_label_selects_by_label :
    WebDriver.translate "$this" {} ⟨"select", some "id=lang", some ("value=" ++ "label=a")⟩ =
        .ok ["$element = $this->byId(\"lang\");", "$selectElement = $this->select($element);",
          "$selectElement->selectOptionByLabel(\"a\");"] ∧
      ∀ lines,
        WebDriver.translate "$this" {} ⟨"select", some "id=lang", some ("value=" ++ "label=a")⟩ =
          .ok lines →
        lines.getLast? ≠ some ("$selectElement->selectOptionByValue(\"" ++ "label=a" ++ "\");") := by
  have hpick :
      WebDriver.translate "$this" {} ⟨"select", some "id=lang", some ("value=" ++ "label=a")⟩ =
      .ok ["$element = $this->byId(\"lang\");", "$selectElement = $this->select($element);",
        "$selectElement->selectOptionByLabel(\"a\");"] := by decide
  refine ⟨hpick, fun lines h => ?_⟩
  rw [hpick] at h
  cases h
  decide

end Transcribe
