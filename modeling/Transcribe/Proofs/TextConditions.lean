import Transcribe.Proofs.PhpLexing
import Transcribe.Proofs.StepTemplates
/-!
# `Proofs.TextConditions` — what the text conditions of WebDriver waits mean in PHP

`waitForText` waits until `textMatches v` holds of the element's text, and `waitForNotText`
and `assertNotText` until `textDiffers v` does. Both are PHP code. This module reads that
code as PHP 8 does, from its text, and says when each condition holds.

**PHP, as far as the conditions go.** The code is lexed by `lex` and parsed by
`parseCondition`: string literals, `true` and `false`, a method call `$x->m()` without
arguments, `strpos(h, n)`, the comparisons `===` and `!==`, and `&&` and `||`, binding in
that order, with parentheses (`Expr`). It is evaluated by `Expr.eval` with PHP 8's
`strpos`: the position of the first occurrence of the needle, the empty needle found at
`0`, and `false` when there is none (`strpos`). Strings are taken as texts of characters.
A double-quoted literal is given a value only when its body has no backslash (no escape is
read here), and a call other than `$input->text()` has none; the conditions need neither.

## What is proved

`text_conditions_hold_iff`: for every value `v` without a backslash, a double quote or a `$`
(so that `"v"` is the text `v`) and every element text `t`,

* `textMatches v` holds exactly when `v` occurs in `t`;
* `textDiffers v` holds exactly when `v` is empty and `t` is not, or `v` does not occur in `t`.

So the two conditions are complementary for every non-empty `v`, and `textDiffers` says what
its description says for every `v`. `textMatches` does not: its description promises that an
empty value matches only an empty text, but under PHP 8 `strpos(t, "")` is `0`, so the
second half of the condition holds for every text, and an empty value matches every text
(`empty_value_conditions`), where `textDiffers` holds too.

## How

The two conditions are code, a literal holding `v`, code, a literal holding `v`, code. The
lexer gathers a body it keeps whole into one token (`Mode.read_quotedBody`), so the tokens
are those of the fixed code around two literal tokens of body `v` (`lex_literal`). Neither
the lexer of the fixed code nor the parser looks into a literal's body, so both run once,
by evaluation, for a body left unknown (`parse_textMatches`, `parse_textDiffers`). The
evaluation is then a case split on whether `v` is empty, and `strpos` gives `false` exactly
when the needle does not occur (`strpos_eq_false_iff`).
-/

namespace Transcribe.Php

open Transcribe.Translate

/-! ## Values and expressions -/

/-- The values the conditions compute with. -/
inductive Value where
  | bool (b : Bool)
  | int (n : Nat)
  | str (s : List Char)
  deriving DecidableEq, Repr

/-- How `&&`, `||` and `if` take a value as true: `false`, `0`, `""` and `"0"` are false. -/
def Value.truthy : Value → Bool
  | .bool b => b
  | .int n => n != 0
  | .str s => !(s.isEmpty || s == ['0'])

@[simp] theorem Value.truthy_bool (b : Bool) : (Value.bool b).truthy = b := rfl

/-- The expressions the conditions are written in. Literals keep their bodies as written. -/
inductive Expr where
  | quoted (body : List Char)
  | single (body : List Char)
  | bool (b : Bool)
  | methodCall (var method : List Char)
  | strpos (haystack needle : Expr)
  | identical (a b : Expr)
  | notIdentical (a b : Expr)
  | and (a b : Expr)
  | or (a b : Expr)
  deriving DecidableEq, Repr

/-! ## Parsing -/

/-- The binary operators, each written as symbols of one character. -/
inductive BinOp where
  | or
  | and
  | identical
  | notIdentical
  deriving DecidableEq, Repr

/-- How tightly an operator binds: comparisons before `&&`, and `&&` before `||`. -/
def BinOp.precedence : BinOp → Nat
  | .or => 1
  | .and => 2
  | .identical | .notIdentical => 3

/-- The expression an operator builds from its two sides. -/
def BinOp.build : BinOp → Expr → Expr → Expr
  | .or => .or
  | .and => .and
  | .identical => .identical
  | .notIdentical => .notIdentical

/-- The operator at the front of the tokens, and the tokens after it. -/
def binOp? : List (Token Char) → Option (BinOp × List (Token Char))
  | ⟨.symbol '|', _⟩ :: ⟨.symbol '|', _⟩ :: ts => some (.or, ts)
  | ⟨.symbol '&', _⟩ :: ⟨.symbol '&', _⟩ :: ts => some (.and, ts)
  | ⟨.symbol '=', _⟩ :: ⟨.symbol '=', _⟩ :: ⟨.symbol '=', _⟩ :: ts => some (.identical, ts)
  | ⟨.symbol '!', _⟩ :: ⟨.symbol '=', _⟩ :: ⟨.symbol '=', _⟩ :: ts => some (.notIdentical, ts)
  | _ => none

mutual

/-- An expression whose operators bind at least as tightly as `minPrec`, by precedence
climbing; `fuel` bounds the depth of the calls. -/
def parseExpr : Nat → Nat → List (Token Char) → Option (Expr × List (Token Char))
  | 0, _, _ => none
  | fuel + 1, minPrec, ts => do
    let (lhs, ts) ← parseAtom fuel ts
    parseOps fuel minPrec lhs ts

/-- The operators after `lhs` that bind at least as tightly as `minPrec`, each taking as its
right side what binds more tightly than itself, so that operators of one precedence group
to the left. -/
def parseOps : Nat → Nat → Expr → List (Token Char) → Option (Expr × List (Token Char))
  | 0, _, _, _ => none
  | fuel + 1, minPrec, lhs, ts =>
    match binOp? ts with
    | some (op, ts') =>
      if minPrec ≤ op.precedence then do
        let (rhs, ts'') ← parseExpr fuel (op.precedence + 1) ts'
        parseOps fuel minPrec (op.build lhs rhs) ts''
      else some (lhs, ts)
    | none => some (lhs, ts)

/-- A literal, `true` or `false`, a call of `strpos`, a method call without arguments, or an
expression in parentheses. -/
def parseAtom : Nat → List (Token Char) → Option (Expr × List (Token Char))
  | 0, _ => none
  | fuel + 1, ⟨.symbol '(', _⟩ :: ts => do
    let (e, ts) ← parseExpr fuel 1 ts
    match ts with
    | ⟨.symbol ')', _⟩ :: ts => some (e, ts)
    | _ => none
  | _ + 1, ⟨.quoted, body⟩ :: ts => some (.quoted body, ts)
  | _ + 1, ⟨.single, body⟩ :: ts => some (.single body, ts)
  | _ + 1, ⟨.name, ['f', 'a', 'l', 's', 'e']⟩ :: ts => some (.bool false, ts)
  | _ + 1, ⟨.name, ['t', 'r', 'u', 'e']⟩ :: ts => some (.bool true, ts)
  | fuel + 1, ⟨.name, ['s', 't', 'r', 'p', 'o', 's']⟩ :: ⟨.symbol '(', _⟩ :: ts => do
    let (haystack, ts) ← parseExpr fuel 1 ts
    match ts with
    | ⟨.symbol ',', _⟩ :: ts => do
      let (needle, ts) ← parseExpr fuel 1 ts
      match ts with
      | ⟨.symbol ')', _⟩ :: ts => some (.strpos haystack needle, ts)
      | _ => none
    | _ => none
  | _ + 1, ⟨.variable, var⟩ :: ⟨.symbol '-', _⟩ :: ⟨.symbol '>', _⟩ :: ⟨.name, method⟩ ::
      ⟨.symbol '(', _⟩ :: ⟨.symbol ')', _⟩ :: ts => some (.methodCall var method, ts)
  | _, _ => none

end

/-- Tokens that are one expression, all of them read. Every call reads a token or makes the
next call one that does, so three calls a token and a few more are enough fuel. -/
def parseCondition (ts : List (Token Char)) : Option Expr :=
  match parseExpr (3 * ts.length + 3) 1 ts with
  | some (e, []) => some e
  | _ => none

/-! ## Evaluation -/

/-- The position of the first occurrence of `needle` in `haystack`, counted from `i`. -/
def firstOccurrence (needle : List Char) : List Char → Nat → Option Nat
  | haystack, i =>
    if needle.isPrefixOf haystack then some i
    else
      match haystack with
      | [] => none
      | _ :: rest => firstOccurrence needle rest (i + 1)

/-- PHP 8's `strpos`: the position of the first occurrence of the needle, or `false`. The
empty needle occurs at `0`. -/
def strpos (haystack needle : List Char) : Value :=
  match firstOccurrence needle haystack 0 with
  | some i => .int i
  | none => .bool false

/-- The value of a double-quoted literal's body, when it has no backslash: the body. -/
def quotedValue? (body : List Char) : Option (List Char) :=
  if '\\' ∈ body then none else some body

/-- The value of a single-quoted literal's body: `\\` and `\'` stand for one character. -/
def singleValue : List Char → List Char
  | '\\' :: '\\' :: r => '\\' :: singleValue r
  | '\\' :: '\'' :: r => '\'' :: singleValue r
  | c :: r => c :: singleValue r
  | [] => []

/-- The value of an expression when `$input->text()` is `text`. -/
def Expr.eval (text : List Char) : Expr → Option Value
  | .quoted body => (quotedValue? body).map .str
  | .single body => some (.str (singleValue body))
  | .bool b => some (.bool b)
  | .methodCall var method =>
    if var = ['$', 'i', 'n', 'p', 'u', 't'] ∧ method = ['t', 'e', 'x', 't'] then some (.str text)
    else none
  | .strpos h n => do
    match ← h.eval text, ← n.eval text with
    | .str h, .str n => some (Php.strpos h n)
    | _, _ => none
  | .identical a b => do
    let x ← a.eval text
    let y ← b.eval text
    some (.bool (x == y))
  | .notIdentical a b => do
    let x ← a.eval text
    let y ← b.eval text
    some (.bool (x != y))
  | .and a b => do
    if (← a.eval text).truthy then some (.bool (← b.eval text).truthy) else some (.bool false)
  | .or a b => do
    if (← a.eval text).truthy then some (.bool true) else some (.bool (← b.eval text).truthy)

/-- Whether a condition written as PHP code holds when `$input->text()` is `text`: the code
lexed, parsed whole and evaluated, its value taken as a truth value; `none` when the code is
not one expression of the fragment or has no value. -/
def conditionHolds? (text : List Char) (code : String) : Option Bool :=
  (lex code.toList).bind fun ts =>
    (parseCondition ts).bind fun e => (e.eval text).map Value.truthy

/-! ## Lexing: a literal's body is kept whole -/

/-- A text that a double-quoted literal holds as it is: no `"` ends it, no backslash escapes
and no `$` interpolates in it. -/
def QuotedVerbatim (v : List Char) : Prop := '"' ∉ v ∧ '\\' ∉ v ∧ '$' ∉ v

instance (v : List Char) : Decidable (QuotedVerbatim v) := inferInstanceAs (Decidable (_ ∧ _))

theorem QuotedVerbatim.keeps {v : List Char} (hv : QuotedVerbatim v) {c : Char} (hc : c ∈ v) :
    (Shape.quoted false).Keeps c := by
  have hq : c ≠ '"' := fun h => hv.1 (h ▸ hc)
  have hb : c ≠ '\\' := fun h => hv.2.1 (h ▸ hc)
  have hd : c ≠ '$' := fun h => hv.2.2 (h ▸ hc)
  simp [Shape.Keeps, effect, quotedEffect, hq, hb, hd]

/-- A body held verbatim is gathered whole, and its closing quote makes it one literal
token, after which the lexer stands between tokens afresh. -/
theorem Mode.read_quotedBody {v : List Char} (hv : QuotedVerbatim v) (rest : List Char) :
    (Mode.mk (.quoted false) []).read id (v ++ '"' :: rest) =
      let r := (Mode.mk .code []).read id rest
      (r.1, ⟨.quoted, v⟩ :: r.2) := by
  rw [Mode.read_append, Mode.read_keeps (fun c hc => hv.keeps hc)]
  simp [Mode.read, effect, quotedEffect, Effect.run]

/-- Code that ends by opening a double-quoted literal, a body held verbatim and the closing
quote lex as the code, one literal token, and the rest: the lexer never looks at the body. -/
theorem lex_literal {p v rest : List Char} (hv : QuotedVerbatim v)
    (hp : ((Mode.mk .code [] : Mode Char).read id p).1 = ⟨.quoted false, []⟩) :
    lex (p ++ (v ++ '"' :: rest)) =
      (lex rest).map (((Mode.mk .code [] : Mode Char).read id p).2 ++ ⟨.quoted, v⟩ :: ·) := by
  unfold lex
  rw [Mode.read_append, hp, Mode.read_quotedBody hv]
  simp [Option.map_map, Function.comp_def]

/-! ## Parsing the conditions -/

/-- `$input->text()`. -/
def inputText : Expr := .methodCall ['$', 'i', 'n', 'p', 'u', 't'] ['t', 'e', 'x', 't']

/-- The expression `textMatches v` is written as. -/
def matchesExpr (v : List Char) : Expr :=
  .or (.and (.identical (.quoted v) (.single [])) (.identical inputText (.single [])))
    (.notIdentical (.strpos inputText (.quoted v)) (.bool false))

/-- The expression `textDiffers v` is written as. -/
def differsExpr (v : List Char) : Expr :=
  .or (.and (.identical (.quoted v) (.single [])) (.notIdentical inputText (.single [])))
    (.identical (.strpos inputText (.quoted v)) (.bool false))

/-- `textMatches v` is one expression of the fragment:
`("v" === '' && $input->text() === '') || strpos($input->text(), "v") !== false`. -/
theorem parse_textMatches {v : String} (hv : QuotedVerbatim v.toList) :
    (lex (WebDriver.textMatches v).toList).bind parseCondition = some (matchesExpr v.toList) := by
  simp only [WebDriver.textMatches, String.toList_append, List.append_assoc, -String.reduceToList]
  repeat rw [Transcribe.toList_eq_of_eq_ofList rfl]
  generalize v.toList = w at hv ⊢
  -- the two bodies are kept whole; the code around them is lexed, and the tokens parsed,
  -- by evaluation
  rw [@List.cons_append Char '"', lex_literal hv, lex_literal hv]
  all_goals cbv

/-- `textDiffers v` is one expression of the fragment:
`("v" === '' && $input->text() !== '') || strpos($input->text(), "v") === false`. -/
theorem parse_textDiffers {v : String} (hv : QuotedVerbatim v.toList) :
    (lex (WebDriver.textDiffers v).toList).bind parseCondition = some (differsExpr v.toList) := by
  simp only [WebDriver.textDiffers, String.toList_append, List.append_assoc, -String.reduceToList]
  repeat rw [Transcribe.toList_eq_of_eq_ofList rfl]
  generalize v.toList = w at hv ⊢
  rw [@List.cons_append Char '"', lex_literal hv, lex_literal hv]
  all_goals cbv

theorem conditionHolds?_of_parse {code : String} {e : Expr}
    (h : (lex code.toList).bind parseCondition = some e) (text : List Char) :
    conditionHolds? text code = (e.eval text).map Value.truthy := by
  unfold conditionHolds?
  cases hl : lex code.toList with
  | none => simp [hl] at h
  | some ts => simp_all

/-! ## Evaluating the conditions -/

/-- The needle is found exactly when it occurs in the haystack. -/
theorem isSome_firstOccurrence_iff (needle haystack : List Char) (i : Nat) :
    (firstOccurrence needle haystack i).isSome ↔ needle <:+: haystack := by
  induction haystack generalizing i with
  | nil => cases needle <;> simp [firstOccurrence]
  | cons c rest ih =>
    rw [firstOccurrence, List.infix_cons_iff, ← List.isPrefixOf_iff_prefix]
    by_cases h : needle.isPrefixOf (c :: rest) <;> simp [h, ih]

/-- `strpos` gives `false` exactly when the needle does not occur; the empty needle always
occurs. -/
theorem strpos_eq_false_iff (haystack needle : List Char) :
    strpos haystack needle = .bool false ↔ ¬ needle <:+: haystack := by
  rw [← isSome_firstOccurrence_iff needle haystack 0, strpos]
  cases firstOccurrence needle haystack 0 <;> simp

@[simp] theorem strpos_beq_false (haystack needle : List Char) :
    (strpos haystack needle == .bool false) = !decide (needle <:+: haystack) := by
  rw [Bool.eq_iff_iff, beq_iff_eq, strpos_eq_false_iff, Bool.not_eq_true', decide_eq_false_iff_not]

@[simp] theorem strpos_bne_false (haystack needle : List Char) :
    (strpos haystack needle != .bool false) = decide (needle <:+: haystack) := by
  rw [bne, strpos_beq_false, Bool.not_not]

theorem quotedValue?_of_verbatim {v : List Char} (hv : QuotedVerbatim v) : quotedValue? v = some v :=
  if_neg hv.2.1

theorem textMatches_holds {v : String} (hv : QuotedVerbatim v.toList) (t : List Char) :
    conditionHolds? t (WebDriver.textMatches v) = some (decide (v.toList <:+: t)) := by
  rw [conditionHolds?_of_parse (parse_textMatches hv)]
  -- the first half can hold only for the empty value, which occurs in every text
  by_cases hv0 : v = ""
  · subst hv0
    by_cases ht : t = [] <;> simp [matchesExpr, inputText, Expr.eval, quotedValue?, singleValue, ht]
  · simp [matchesExpr, inputText, Expr.eval, quotedValue?_of_verbatim hv, singleValue, hv0]

theorem textDiffers_holds {v : String} (hv : QuotedVerbatim v.toList) (t : List Char) :
    conditionHolds? t (WebDriver.textDiffers v) =
      some (decide ((v = "" ∧ t ≠ []) ∨ (v ≠ "" ∧ ¬ v.toList <:+: t))) := by
  rw [conditionHolds?_of_parse (parse_textDiffers hv)]
  by_cases hv0 : v = ""
  · subst hv0
    by_cases ht : t = [] <;> simp [differsExpr, inputText, Expr.eval, quotedValue?, singleValue, ht]
  · simp [differsExpr, inputText, Expr.eval, quotedValue?_of_verbatim hv, singleValue, hv0]

/-! ## The conditions -/

/-- Under PHP 8, for a value that its literal holds verbatim, `textMatches v` holds exactly
when `v` occurs in the text, and `textDiffers v` exactly when the value is empty and the text
is not, or the value is not empty and does not occur in the text. -/
theorem text_conditions_hold_iff {v : String} (hv : QuotedVerbatim v.toList) (t : String) :
    conditionHolds? t.toList (WebDriver.textMatches v) = some (decide (v.toList <:+: t.toList)) ∧
      conditionHolds? t.toList (WebDriver.textDiffers v) =
        some (decide ((v = "" ∧ t ≠ "") ∨ (v ≠ "" ∧ ¬ v.toList <:+: t.toList))) := by
  refine ⟨textMatches_holds hv t.toList, ?_⟩
  rw [textDiffers_holds hv t.toList]
  simp

theorem ready_occurs_in_status : QuotedVerbatim "Ready".toList ∧
    (conditionHolds? "Status: Ready".toList (WebDriver.textMatches "Ready") =
        some (decide ("Ready".toList <:+: "Status: Ready".toList)) ∧
      conditionHolds? "Status: Ready".toList (WebDriver.textDiffers "Ready") =
        some (decide (("Ready" = "" ∧ "Status: Ready" ≠ "") ∨
          ("Ready" ≠ "" ∧ ¬ "Ready".toList <:+: "Status: Ready".toList)))) :=
  ⟨by decide, text_conditions_hold_iff (by decide) "Status: Ready"⟩

/-- The empty value matches every text, the non-empty ones included, where `textDiffers`
holds as well: `strpos(t, "")` is `0`, never `false`. -/
theorem empty_value_conditions (t : List Char) :
    conditionHolds? t (WebDriver.textMatches "") = some true ∧
      conditionHolds? t (WebDriver.textDiffers "") = some (decide (t ≠ [])) := by
  have hv : QuotedVerbatim "".toList := by decide
  rw [textMatches_holds hv, textDiffers_holds hv]
  simp

theorem empty_value_matches_nonempty_text :
    conditionHolds? "Ready".toList (WebDriver.textMatches "") = some true ∧
      conditionHolds? "Ready".toList (WebDriver.textDiffers "") = some true := by
  obtain ⟨hm, hd⟩ := empty_value_conditions "Ready".toList
  exact ⟨hm, by rw [hd]; simp⟩

end Transcribe.Php
