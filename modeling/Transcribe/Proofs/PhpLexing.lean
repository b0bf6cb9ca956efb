import Mathlib
import Transcribe.Php.Code
/-!
# `Proofs.PhpLexing` — generated code as PHP tokens

Statements about the structure of generated code read it as PHP's lexer does. This
module holds such a lexer and a way to run it once over code with holes.

**The lexer.** `lex` reads PHP code (past the opening tag: step lines stand inside a
method) into names, numbers, variables, double-quoted strings with backslash escapes,
single-quoted strings with backslash escapes, line comments (`//` or `#`) that end at a
line break or before `?>`, block comments, and symbols. A double-quoted string
interpolates when a `$` in it is followed by a name or by `{`. Operators are read one
character at a time and numbers as runs of decimal digits: generated code has no others,
and what matters here is where literals and comments begin and end. A closing tag `?>`
makes the rest one inline HTML token. Text that ends inside a literal or a block
comment is no code, and `lex` gives `none`.

What a character does depends only on where the lexer stands (its `Shape`), never on
the text it has gathered; `effect` says it once for every shape. This is the whole
design: the same run decides for every text that can be gathered.

**Code with holes.** A `Template` is lines of code with holes, each hole of a `HoleKind`:
plain text, a name, digits or a variable. `Template.tokens` lexes the template itself,
gathering a hole into the token around it as one symbol. `Template.check` asks that each
hole stand where its kind keeps the shape or enters a name, number or variable, that the
text of every token outside literal and comment bodies be spelled by characters and
shared holes only, and that brackets nest.

Main statements:

* `Template.lex_render` — lexing a filled template gives the template's tokens with the
  holes filled;
* `Template.lex_alike` — a checked template filled in two ways that fit and agree on
  shared holes lexes into two token lists that pair off one to one, agree in kind
  everywhere and in text outside literal and comment bodies, and have nesting brackets;
* `lex_lineComment` — `//` and a text with no line break and no `?` is one comment.
-/

namespace Transcribe.Php

/-! ## Characters -/

/-- A character that may stand in a PHP name after its first: an ASCII letter or digit,
`_`, or a character beyond ASCII. -/
def isNameChar (c : Char) : Bool := c.isAlphanum || c == '_' || 128 ≤ c.toNat

/-- A character that may start a PHP name. -/
def isNameStart (c : Char) : Bool := c.isAlpha || c == '_' || 128 ≤ c.toNat

/-- The blanks PHP skips between tokens. -/
def isSpace (c : Char) : Bool := c == ' ' || c == '\t' || c == '\n' || c == '\r'

/-- A line break, which ends a line comment. -/
def isLineBreak (c : Char) : Bool := c == '\n' || c == '\r'

/-- A PHP name: a start character, then name characters. -/
def IsName : List Char → Prop
  | [] => False
  | c :: cs => isNameStart c = true ∧ ∀ d ∈ cs, isNameChar d = true

instance : DecidablePred IsName
  | [] => isFalse id
  | c :: cs => decidable_of_iff (isNameStart c = true ∧ cs.all isNameChar = true)
      (and_congr Iff.rfl List.all_eq_true)

/-- A PHP variable: `$` and a name. -/
def IsVariable (cs : List Char) : Prop := cs.head? = some '$' ∧ IsName cs.tail

instance : DecidablePred IsVariable := fun _ => inferInstanceAs (Decidable (_ ∧ _))

theorem isNameChar_of_isNameStart {c : Char} (h : isNameStart c = true) : isNameChar c = true := by
  simp only [isNameStart, isNameChar, Bool.or_eq_true] at h ⊢
  rcases h with (h | h) | h
  · exact .inl (.inl (by simp [Char.isAlphanum, h]))
  · exact .inl (.inr h)
  · exact .inr h

/-! ## Tokens -/

/-- The kinds of token the lexer tells apart. A symbol is one character of an operator or
of punctuation, and its kind says which. -/
inductive Kind where
  | name
  | number
  | variable
  | symbol (c : Char)
  | quoted
  | interpolated
  | single
  | comment
  | closeTag
  | html
  deriving DecidableEq, Repr

/-- The kinds whose text is the body of a literal or of a comment. -/
def Kind.hasBody : Kind → Bool
  | .quoted | .interpolated | .single | .comment => true
  | _ => false

/-- A token: its kind and its text, which for a literal or a comment is the body between
the delimiters, as written. The text is made of `α`s, so that a token of code with holes
can hold holes. -/
structure Token (α : Type) where
  kind : Kind
  text : List α
  deriving DecidableEq, Repr

/-- A token with every character of its text lifted. -/
def Token.lift {α : Type} (f : Char → α) (t : Token Char) : Token α := ⟨t.kind, t.text.map f⟩

@[simp] theorem Token.lift_id : (Token.lift id : Token Char → Token Char) = id :=
  funext fun t => by simp [Token.lift]

/-! ## The lexer -/

/-- Where the lexer stands: between tokens, inside a token of some kind, or right after a
character that may begin two different things (`/`, `?`, `$`, a backslash). The flag of
a double-quoted string says whether it interpolates. -/
inductive Shape where
  | code
  | name
  | number
  | dollar
  | variable
  | slash
  | question
  | quoted (interpolates : Bool)
  | quotedEscape (interpolates : Bool)
  | quotedDollar (interpolates : Bool)
  | single
  | singleEscape
  | comment
  | commentQuestion
  | block
  | blockStar
  | closed
  | html
  deriving DecidableEq, Repr

/-- What one character does, whatever text the lexer has gathered: `gather` is added to
that text; if `close` is set, the text becomes a token of that kind and the lexer gathers
afresh from `fresh`; the tokens `fixed` follow, and the lexer stands at `next`. -/
structure Effect where
  gather : List Char := []
  close : Option Kind := none
  fixed : List (Token Char) := []
  next : Shape
  fresh : List Char := []
  deriving DecidableEq, Repr

/-- A character between tokens. -/
def codeEffect (c : Char) : Effect :=
  if isNameStart c then { gather := [c], next := .name }
  else if c.isDigit then { gather := [c], next := .number }
  else if c == '$' then { gather := [c], next := .dollar }
  else if c == '"' then { next := .quoted false }
  else if c == '\'' then { next := .single }
  else if c == '/' then { next := .slash }
  else if c == '#' then { next := .comment }
  else if c == '?' then { next := .question }
  else if isSpace c then { next := .code }
  else { fixed := [⟨.symbol c, [c]⟩], next := .code }

/-- Ends the token gathered so far as a `k`, then reads `c` between tokens. -/
def Effect.endThen (k : Kind) (c : Char) : Effect :=
  { close := some k, fixed := (codeEffect c).fixed, next := (codeEffect c).next,
    fresh := (codeEffect c).gather }

/-- Gives the one-character symbol `s`, then reads `c` between tokens. -/
def Effect.symbolThen (s c : Char) : Effect :=
  { codeEffect c with fixed := ⟨.symbol s, [s]⟩ :: (codeEffect c).fixed }

/-- A character inside a double-quoted string. -/
def quotedEffect (i : Bool) (c : Char) : Effect :=
  if c == '"' then { close := some (if i then .interpolated else .quoted), next := .code }
  else if c == '\\' then { gather := [c], next := .quotedEscape i }
  else if c == '$' then { gather := [c], next := .quotedDollar i }
  else { gather := [c], next := .quoted i }

/-- A character inside a line comment. -/
def commentEffect (c : Char) : Effect :=
  if isLineBreak c then { close := some .comment, next := .code }
  else if c == '?' then { next := .commentQuestion }
  else { gather := [c], next := .comment }

/-- What a character does in each shape. -/
def effect : Shape → Char → Effect
  | .code, c => codeEffect c
  | .name, c => if isNameChar c then { gather := [c], next := .name } else .endThen .name c
  | .number, c => if c.isDigit then { gather := [c], next := .number } else .endThen .number c
  | .dollar, c =>
    if isNameStart c then { gather := [c], next := .variable } else .endThen (.symbol '$') c
  | .variable, c =>
    if isNameChar c then { gather := [c], next := .variable } else .endThen .variable c
  | .slash, c =>
    if c == '/' then { next := .comment }
    else if c == '*' then { next := .block }
    else .symbolThen '/' c
  | .question, c =>
    if c == '>' then { fixed := [⟨.closeTag, ['?', '>']⟩], next := .closed }
    else .symbolThen '?' c
  | .quoted i, c => quotedEffect i c
  | .quotedEscape i, c => { gather := [c], next := .quoted i }
  | .quotedDollar i, c =>
    if isNameStart c || c == '\x7b' then { gather := [c], next := .quoted true }
    else quotedEffect i c
  | .single, c =>
    if c == '\'' then { close := some .single, next := .code }
    else if c == '\\' then { gather := [c], next := .singleEscape }
    else { gather := [c], next := .single }
  | .singleEscape, c => { gather := [c], next := .single }
  | .comment, c => commentEffect c
  | .commentQuestion, c =>
    if c == '>' then
      { close := some .comment, fixed := [⟨.closeTag, ['?', '>']⟩], next := .closed }
    else { commentEffect c with gather := '?' :: (commentEffect c).gather }
  | .block, c => if c == '*' then { next := .blockStar } else { gather := [c], next := .block }
  | .blockStar, c =>
    if c == '/' then { close := some .comment, next := .code }
    else if c == '*' then { gather := ['*'], next := .blockStar }
    else { gather := ['*', c], next := .block }
  | .closed, c => { gather := [c], next := .html }
  | .html, c => { gather := [c], next := .html }

/-- What the end of the text does in each shape; `none` where a literal or a block comment
is still open. -/
def Shape.ending : Shape → Option Effect
  | .code | .closed => some { next := .code }
  | .name => some { close := some .name, next := .code }
  | .number => some { close := some .number, next := .code }
  | .dollar => some { close := some (.symbol '$'), next := .code }
  | .variable => some { close := some .variable, next := .code }
  | .slash => some { fixed := [⟨.symbol '/', ['/']⟩], next := .code }
  | .question => some { fixed := [⟨.symbol '?', ['?']⟩], next := .code }
  | .comment => some { close := some .comment, next := .code }
  | .commentQuestion => some { gather := ['?'], close := some .comment, next := .code }
  | .html => some { close := some .html, next := .code }
  | _ => none

/-- The lexer between two characters: its shape and the text it has gathered. -/
structure Mode (α : Type) where
  shape : Shape
  acc : List α

/-- An effect done to the gathered text `acc`; `lift` turns characters into `α`s. -/
def Effect.run {α : Type} (lift : Char → α) (e : Effect) (acc : List α) :
    Mode α × List (Token α) :=
  match e.close with
  | none => (⟨e.next, acc ++ e.gather.map lift⟩, e.fixed.map (Token.lift lift))
  | some k =>
    (⟨e.next, e.fresh.map lift⟩, ⟨k, acc ++ e.gather.map lift⟩ :: e.fixed.map (Token.lift lift))

/-- Reads characters: the mode after them and the tokens they end. -/
def Mode.read {α : Type} (lift : Char → α) : Mode α → List Char → Mode α × List (Token α)
  | m, [] => (m, [])
  | m, c :: cs =>
    let r := (effect m.shape c).run lift m.acc
    let r' := r.1.read lift cs
    (r'.1, r.2 ++ r'.2)

/-- The tokens that the end of the text ends, if nothing is left open. -/
def Mode.finish {α : Type} (lift : Char → α) (m : Mode α) : Option (List (Token α)) :=
  m.shape.ending.map fun e => (e.run lift m.acc).2

/-- The tokens of PHP code, or `none` if a literal or a block comment is left open. -/
def lex (cs : List Char) : Option (List (Token Char)) :=
  let r := (Mode.mk .code [] : Mode Char).read id cs
  (r.1.finish id).map (r.2 ++ ·)

example : lex ['f', '(', '"', '$', 'x', '"', ')'] =
    some [⟨.name, ['f']⟩, ⟨.symbol '(', ['(']⟩, ⟨.interpolated, ['$', 'x']⟩,
      ⟨.symbol ')', [')']⟩] := by decide

example : lex ['/', '/', 'a', '?', '>', 'b'] =
    some [⟨.comment, ['a']⟩, ⟨.closeTag, ['?', '>']⟩, ⟨.html, ['b']⟩] := by decide

theorem Mode.read_append {α : Type} (lift : Char → α) (xs ys : List Char) :
    ∀ m : Mode α, m.read lift (xs ++ ys) =
      (((m.read lift xs).1.read lift ys).1,
        (m.read lift xs).2 ++ ((m.read lift xs).1.read lift ys).2) := by
  induction xs with
  | nil => intro m; simp [Mode.read]
  | cons c cs ih => intro m; simp [Mode.read, ih]

/-- Code that the lexer reads from between tokens back to between tokens, ending the tokens
`ts` on the way. A text made of such pieces lexes into their tokens, in order. -/
def Reads (cs : List Char) (ts : List (Token Char)) : Prop :=
  (Mode.mk .code [] : Mode Char).read id cs = (⟨.code, []⟩, ts)

theorem Reads.append {cs ds : List Char} {ts us : List (Token Char)} (h₁ : Reads cs ts)
    (h₂ : Reads ds us) : Reads (cs ++ ds) (ts ++ us) := by
  unfold Reads at *
  rw [Mode.read_append, h₁, h₂]

theorem Reads.lex_eq {cs : List Char} {ts : List (Token Char)} (h : Reads cs ts) :
    lex cs = some ts := by
  unfold lex
  rw [h]
  simp [Mode.finish, Shape.ending, Effect.run]

/-- Blanks between tokens end no token. -/
theorem reads_spaces (n : Nat) : Reads (List.replicate n ' ') [] := by
  induction n with
  | zero => rfl
  | succ n ih =>
    rw [List.replicate_succ, ← List.singleton_append]
    exact (show Reads [' '] [] from rfl).append ih

/-- A character whose effect in a shape only gathers it leaves the shape where it was. -/
def Shape.Keeps (s : Shape) (c : Char) : Prop := effect s c = { gather := [c], next := s }

theorem Effect.run_gather {α : Type} (lift : Char → α) (c : Char) (s : Shape) (acc : List α) :
    ({ gather := [c], next := s } : Effect).run lift acc = (⟨s, acc ++ [lift c]⟩, []) := by
  simp [Effect.run]

theorem Mode.read_cons_gather {s s' : Shape} {c : Char} (cs : List Char)
    (he : effect s c = { gather := [c], next := s' }) (acc : List Char) :
    (Mode.mk s acc).read id (c :: cs) = (Mode.mk s' (acc ++ [c])).read id cs := by
  simp [Mode.read, he, Effect.run_gather]

/-- Characters that a shape keeps are gathered whole. -/
theorem Mode.read_keeps {s : Shape} {cs : List Char} (hk : ∀ d ∈ cs, s.Keeps d) :
    ∀ acc : List Char, (Mode.mk s acc).read id cs = (⟨s, acc ++ cs⟩, []) := by
  induction cs with
  | nil => intro acc; simp [Mode.read]
  | cons c cs ih =>
    intro acc
    rw [Mode.read_cons_gather cs (hk c (by simp)),
      ih (fun d hd => hk d (List.mem_cons_of_mem c hd))]
    simp

/-- A character that enters `s'` and then characters that `s'` keeps are gathered whole. -/
theorem Mode.read_enter {s s' : Shape} {c : Char} {cs : List Char}
    (he : effect s c = { gather := [c], next := s' }) (hk : ∀ d ∈ cs, s'.Keeps d)
    (acc : List Char) : (Mode.mk s acc).read id (c :: cs) = (⟨s', acc ++ c :: cs⟩, []) := by
  rw [Mode.read_cons_gather cs he, Mode.read_keeps hk]
  simp

/-! ## Brackets -/

/-- The closing bracket of an opening one. -/
def closerOf : Char → Option Char
  | '(' => some ')'
  | '[' => some ']'
  | '\x7b' => some '\x7d'
  | _ => none

/-- Whether the brackets among symbols nest, given the closers still expected, innermost
first. -/
def nests : List Char → List Kind → Bool
  | expected, [] => expected.isEmpty
  | expected, .symbol c :: ks =>
    match closerOf c with
    | some d => nests (d :: expected) ks
    | none =>
      if c == ')' || c == ']' || c == '\x7d' then
        match expected with
        | d :: rest => c == d && nests rest ks
        | [] => false
      else nests expected ks
  | expected, _ :: ks => nests expected ks

/-- Tokens whose brackets `()`, `[]` and `{}` nest; brackets in literals and comments are
text, not symbols. -/
def Balanced (ts : List (Token Char)) : Prop := nests [] (ts.map Token.kind) = true

/-- Brackets that close the expected closers `p` and nothing more leave whatever is expected
after `p` to the kinds that follow them. -/
theorem nests_append_of_nests {b : List Kind} : ∀ {p : List Char}, nests p b = true →
    ∀ e ys, nests (p ++ e) (b ++ ys) = nests e ys := by
  induction b with
  | nil =>
    intro p h e ys
    obtain rfl : p = [] := List.isEmpty_iff.1 h
    rfl
  | cons k b ih =>
    intro p h e ys
    cases k
    case symbol c =>
      simp only [List.cons_append, nests] at h ⊢
      split
      case h_1 d hd =>
        rw [hd] at h
        exact ih h e ys
      case h_2 hd =>
        rw [hd] at h
        simp only at h ⊢
        split at h
        case isTrue hclose =>
          -- a closer takes the innermost expected one, which `p` holds
          obtain _ | ⟨d, rest⟩ := p
          · cases h
          · simp only [Bool.and_eq_true, beq_iff_eq] at h
            rw [if_pos hclose, List.cons_append]
            show (c == d && nests (rest ++ e) (b ++ ys)) = nests e ys
            rw [ih h.2 e ys, h.1]
            simp
        case isFalse hclose =>
          rw [if_neg hclose]
          exact ih h e ys
    all_goals
      simp only [List.cons_append, nests] at h ⊢
      exact ih h e ys

/-- A stretch whose brackets nest can be dropped from between any two others without changing
whether the whole nests. -/
theorem nests_insert {b : List Kind} (hb : nests [] b = true) (ys : List Kind) :
    ∀ (xs : List Kind) (e : List Char), nests e (xs ++ b ++ ys) = nests e (xs ++ ys) := by
  intro xs
  induction xs with
  | nil => intro e; simpa using nests_append_of_nests hb e ys
  | cons k xs ih =>
    intro e
    cases k
    case symbol c =>
      simp only [List.cons_append, nests]
      split
      · exact ih _
      · split
        · split
          · rw [ih]
          · rfl
        · exact ih e
    all_goals
      simp only [List.cons_append, nests]
      exact ih e

theorem Balanced.append {ts us : List (Token Char)} (h₁ : Balanced ts) (h₂ : Balanced us) :
    Balanced (ts ++ us) := by
  unfold Balanced at *
  rw [List.map_append]
  simpa [h₂] using nests_append_of_nests h₁ [] (us.map Token.kind)

/-! ## Code with holes -/

/-- What may fill a hole: plain text, a name, digits, or a variable. -/
inductive HoleKind where
  | plain
  | name
  | digits
  | variable
  deriving DecidableEq, Repr

/-- A character that ends or escapes no literal, ends no line comment and starts no
interpolation: none of `"`, `'`, `\`, `$`, `?` and the line breaks. -/
def isPlain (c : Char) : Bool :=
  !(c == '"' || c == '\'' || c == '\\' || c == '$' || c == '?' || isLineBreak c)

/-- The texts that may fill a hole of each kind. -/
def HoleKind.Fits : HoleKind → List Char → Prop
  | .plain, cs => ∀ c ∈ cs, isPlain c = true
  | .name, cs => IsName cs
  | .digits, cs => cs ≠ [] ∧ ∀ c ∈ cs, c.isDigit = true
  | .variable, cs => IsVariable cs

/-- The shape after a hole of each kind, from the shapes where it may stand: plain text
inside a literal or a line comment, a name between tokens or right after `$`, digits
between tokens or inside a block comment, and a variable between tokens. -/
def HoleKind.enter : HoleKind → Shape → Option Shape
  | .plain, .quoted i => some (.quoted i)
  | .plain, .single => some .single
  | .plain, .comment => some .comment
  | .name, .code => some .name
  | .name, .dollar => some .variable
  | .digits, .code => some .number
  | .digits, .block => some .block
  | .variable, .code => some .variable
  | _, _ => none

section Keeping

variable {c : Char}

-- every lemma of this section reads the lexer's step by its cases
attribute [local simp] effect codeEffect quotedEffect commentEffect

theorem keeps_quoted_of_isPlain (i : Bool) (h : isPlain c = true) : (Shape.quoted i).Keeps c := by
  simp only [isPlain, Bool.not_eq_eq_eq_not, Bool.not_true, Bool.or_eq_false_iff,
    beq_eq_false_iff_ne] at h
  simp [Shape.Keeps, h.1.1.1.1.1, h.1.1.1.2, h.1.1.2]

theorem keeps_single_of_isPlain (h : isPlain c = true) : Shape.single.Keeps c := by
  simp only [isPlain, Bool.not_eq_eq_eq_not, Bool.not_true, Bool.or_eq_false_iff,
    beq_eq_false_iff_ne] at h
  simp [Shape.Keeps, h.1.1.1.1.2, h.1.1.1.2]

/-- A line comment keeps every character but line breaks and `?`. -/
theorem keeps_comment (hb : isLineBreak c = false) (hq : c ≠ '?') : Shape.comment.Keeps c := by
  simp [Shape.Keeps, hb, hq]

theorem keeps_comment_of_isPlain (h : isPlain c = true) : Shape.comment.Keeps c := by
  simp only [isPlain, Bool.not_eq_eq_eq_not, Bool.not_true, Bool.or_eq_false_iff,
    beq_eq_false_iff_ne] at h
  exact keeps_comment h.2 h.1.2

theorem keeps_name (h : isNameChar c = true) : Shape.name.Keeps c := by
  simp [Shape.Keeps, h]

theorem keeps_variable (h : isNameChar c = true) : Shape.variable.Keeps c := by
  simp [Shape.Keeps, h]

theorem keeps_number (h : c.isDigit = true) : Shape.number.Keeps c := by
  simp [Shape.Keeps, h]

/-- A block comment keeps every character but `*`, which may begin its end. -/
theorem keeps_block (h : c ≠ '*') : Shape.block.Keeps c := by
  simp [Shape.Keeps, h]

theorem codeEffect_of_isNameStart (h : isNameStart c = true) :
    effect .code c = { gather := [c], next := .name } := by
  simp [h]

theorem toNat_of_isDigit (h : c.isDigit = true) : 48 ≤ c.toNat ∧ c.toNat ≤ 57 := by
  simp only [Char.isDigit, Bool.and_eq_true, decide_eq_true_eq, UInt32.le_iff_toNat_le] at h
  exact h

/-- Digits start no name: they lie below the letters, `_` and the characters beyond ASCII. -/
theorem isNameStart_of_isDigit (h : c.isDigit = true) : isNameStart c = false := by
  have hc := toNat_of_isDigit h
  have hv : c.val.toNat = c.toNat := rfl
  have hu : c ≠ '_' := by
    rintro rfl
    simp at hc
  simp only [isNameStart, Char.isAlpha, Char.isUpper, Char.isLower, UInt32.le_iff_toNat_le,
    Bool.or_eq_false_iff, Bool.and_eq_false_iff, decide_eq_false_iff_not, beq_eq_false_iff_ne,
    ne_eq, hu, not_false_eq_true, and_true]
  refine ⟨⟨?_, ?_⟩, ?_⟩
  all_goals simp
  all_goals omega

theorem codeEffect_of_isDigit (h : c.isDigit = true) :
    effect .code c = { gather := [c], next := .number } := by
  simp [isNameStart_of_isDigit h, h]

theorem dollarEffect_of_isNameStart (h : isNameStart c = true) :
    effect .dollar c = { gather := [c], next := .variable } := by
  simp [h]

theorem codeEffect_dollar : effect .code '$' = { gather := ['$'], next := .dollar } := by
  decide

end Keeping

/-- A hole's text that fits its kind, read from a shape where the kind may stand, is
gathered whole into the shape the kind enters. -/
theorem HoleKind.read_fits {k : HoleKind} {s s' : Shape} (he : k.enter s = some s')
    {cs : List Char} (hf : k.Fits cs) (acc : List Char) :
    (Mode.mk s acc).read id cs = (⟨s', acc ++ cs⟩, []) := by
  cases k <;> cases s <;> simp only [HoleKind.enter, reduceCtorEq, Option.some.injEq] at he <;>
    subst he
  case plain.quoted i => exact Mode.read_keeps (fun d hd => keeps_quoted_of_isPlain i (hf d hd)) acc
  case plain.single => exact Mode.read_keeps (fun d hd => keeps_single_of_isPlain (hf d hd)) acc
  case plain.comment => exact Mode.read_keeps (fun d hd => keeps_comment_of_isPlain (hf d hd)) acc
  case name.code =>
    obtain _ | ⟨c, cs⟩ := cs
    · exact hf.elim
    · exact Mode.read_enter (codeEffect_of_isNameStart hf.1) (fun d hd => keeps_name (hf.2 d hd)) acc
  case name.dollar =>
    obtain _ | ⟨c, cs⟩ := cs
    · exact hf.elim
    · exact Mode.read_enter (dollarEffect_of_isNameStart hf.1)
        (fun d hd => keeps_variable (hf.2 d hd)) acc
  case digits.code =>
    obtain ⟨hne, hd⟩ := hf
    obtain _ | ⟨c, cs⟩ := cs
    · exact (hne rfl).elim
    · exact Mode.read_enter (codeEffect_of_isDigit (hd c (by simp)))
        (fun d hm => keeps_number (hd d (List.mem_cons_of_mem c hm))) acc
  case digits.block =>
    refine Mode.read_keeps (fun d hd => keeps_block ?_) acc
    rintro rfl
    exact absurd (hf.2 _ hd) (by decide)
  case variable.code =>
    -- the `$` enters `dollar`, and the name behind it then reads as from `dollar`
    obtain ⟨hhead, hn⟩ := hf
    obtain _ | ⟨d, name⟩ := cs
    · cases hhead
    obtain rfl : d = '$' := Option.some.inj hhead
    obtain _ | ⟨c, n⟩ := name
    · exact hn.elim
    rw [Mode.read_cons_gather _ codeEffect_dollar,
      Mode.read_enter (dollarEffect_of_isNameStart hn.1) (fun d hd => keeps_variable (hn.2 d hd))]
    simp

/-! ## Reading code with holes -/

/-- A character of code with holes. -/
inductive Sym (η : Type) where
  | char (c : Char)
  | hole (h : η)
  deriving DecidableEq, Repr

/-- A piece of a line of code with holes: code as written, or a hole. -/
inductive Slot (η : Type) where
  | code (cs : List Char)
  | hole (h : η)
  deriving DecidableEq, Repr

/-- Lines of code with holes. -/
abbrev Template (η : Type) := List (List (Slot η))

section Holes

variable {η : Type}

/-- The text a character of code with holes stands for once the holes are filled. -/
def Sym.eval (e : η → List Char) : Sym η → List Char
  | .char c => [c]
  | .hole h => e h

/-- A mode of code with holes, once the holes are filled. -/
def Mode.eval (e : η → List Char) (m : Mode (Sym η)) : Mode Char :=
  ⟨m.shape, m.acc.flatMap (Sym.eval e)⟩

/-- A token of code with holes, once the holes are filled. -/
def Token.eval (e : η → List Char) (t : Token (Sym η)) : Token Char :=
  ⟨t.kind, t.text.flatMap (Sym.eval e)⟩

/-- The text of a slot once the holes are filled. -/
def Slot.render (e : η → List Char) : Slot η → List Char
  | .code cs => cs
  | .hole h => e h

/-- The lines of a template with the holes filled, joined by line feeds. -/
def Template.render (t : Template η) (e : η → List Char) : List Char :=
  ['\n'].intercalate (t.map fun line => line.flatMap (Slot.render e))

/-- The slots of a template's lines, joined by line feeds. -/
def Template.slots (t : Template η) : List (Slot η) := [Slot.code ['\n']].intercalate t

/-- Every hole of the template, once filled, fits its kind. -/
def Template.Fits (kind : η → HoleKind) (t : Template η) (e : η → List Char) : Prop :=
  ∀ h, Slot.hole h ∈ t.slots → (kind h).Fits (e h)

/-- Reads slots: code character by character, and a hole as one symbol of the token
around it, in the shape its kind enters; `none` if a hole stands where its kind may not. -/
def Mode.readSlots (kind : η → HoleKind) :
    Mode (Sym η) → List (Slot η) → Option (Mode (Sym η) × List (Token (Sym η)))
  | m, [] => some (m, [])
  | m, .code cs :: rest =>
    let r := m.read Sym.char cs
    (r.1.readSlots kind rest).map fun r' => (r'.1, r.2 ++ r'.2)
  | m, .hole h :: rest =>
    ((kind h).enter m.shape).bind fun s => (Mode.mk s (m.acc ++ [.hole h])).readSlots kind rest

/-- The tokens of a template, holes standing in their texts. -/
def Template.tokens (kind : η → HoleKind) (t : Template η) : Option (List (Token (Sym η))) :=
  ((Mode.mk .code [] : Mode (Sym η)).readSlots kind t.slots).bind fun r =>
    (r.1.finish Sym.char).map (r.2 ++ ·)

@[simp] theorem Sym.flatMap_eval_char (e : η → List Char) (cs : List Char) :
    (cs.map Sym.char).flatMap (Sym.eval e) = cs := by
  induction cs <;> simp_all [Sym.eval]

@[simp] theorem Token.eval_mk (e : η → List Char) (k : Kind) (text : List (Sym η)) :
    (Token.mk k text).eval e = ⟨k, text.flatMap (Sym.eval e)⟩ := rfl

@[simp] theorem Token.eval_lift (e : η → List Char) (t : Token Char) :
    (t.lift Sym.char).eval e = t := by
  simp [Token.lift, Token.eval]

/-- Filling the holes after an effect is the effect on the filled text: an effect never
looks at what it gathers. -/
theorem Effect.run_eval (e : η → List Char) (x : Effect) (acc : List (Sym η)) :
    x.run id (acc.flatMap (Sym.eval e)) =
      ((x.run Sym.char acc).1.eval e, (x.run Sym.char acc).2.map (Token.eval e)) := by
  unfold Effect.run
  cases x.close <;> simp [Mode.eval, Function.comp_def]

theorem Mode.read_eval (e : η → List Char) (cs : List Char) :
    ∀ m : Mode (Sym η), (m.eval e).read id cs =
      ((m.read Sym.char cs).1.eval e, (m.read Sym.char cs).2.map (Token.eval e)) := by
  induction cs with
  | nil => intro m; simp [Mode.read]
  | cons c cs ih =>
    intro m
    simp only [Mode.read]
    rw [show (m.eval e).shape = m.shape from rfl,
      show (m.eval e).acc = m.acc.flatMap (Sym.eval e) from rfl, Effect.run_eval, ih]
    simp

theorem Mode.finish_eval (e : η → List Char) (m : Mode (Sym η)) :
    (m.eval e).finish id = (m.finish Sym.char).map (List.map (Token.eval e)) := by
  unfold Mode.finish
  rw [show (m.eval e).shape = m.shape from rfl]
  cases m.shape.ending with
  | none => rfl
  | some x =>
    simp only [Option.map_some]
    rw [show (m.eval e).acc = m.acc.flatMap (Sym.eval e) from rfl, Effect.run_eval]

/-- Reading slots symbolically and filling the holes afterwards is reading the filled
slots, for every filling whose holes fit their kinds. -/
theorem Mode.readSlots_eval {kind : η → HoleKind} {e : η → List Char} :
    ∀ {slots : List (Slot η)} {m m' : Mode (Sym η)} {ts : List (Token (Sym η))},
      m.readSlots kind slots = some (m', ts) → (∀ h, Slot.hole h ∈ slots → (kind h).Fits (e h)) →
      (m.eval e).read id (slots.flatMap (Slot.render e)) = (m'.eval e, ts.map (Token.eval e))
  | [], m, m', ts, hr, _ => by
    simp only [Mode.readSlots, Option.some.injEq, Prod.mk.injEq] at hr
    obtain ⟨rfl, rfl⟩ := hr
    simp [Mode.read]
  | .code cs :: rest, m, m', ts, hr, hf => by
    simp only [Mode.readSlots, Option.map_eq_some_iff] at hr
    obtain ⟨⟨m₁, ts₁⟩, hrest, hpair⟩ := hr
    simp only [Prod.mk.injEq] at hpair
    obtain ⟨rfl, rfl⟩ := hpair
    have ih := Mode.readSlots_eval hrest (fun h hh => hf h (List.mem_cons_of_mem _ hh))
    rw [List.flatMap_cons, Mode.read_append, Mode.read_eval]
    simp only [Slot.render]
    rw [ih]
    simp
  | .hole h :: rest, m, m', ts, hr, hf => by
    simp only [Mode.readSlots, Option.bind_eq_some_iff] at hr
    obtain ⟨s, hs, hrest⟩ := hr
    have ih := Mode.readSlots_eval hrest (fun h hh => hf h (List.mem_cons_of_mem _ hh))
    have hhole := HoleKind.read_fits hs (hf h (by simp)) (m.acc.flatMap (Sym.eval e))
    rw [List.flatMap_cons, Mode.read_append]
    simp only [Slot.render]
    rw [show m.eval e = Mode.mk m.shape (m.acc.flatMap (Sym.eval e)) from rfl, hhole]
    rw [show (Mode.mk s (m.acc.flatMap (Sym.eval e) ++ e h) : Mode Char) =
      (Mode.mk s (m.acc ++ [Sym.hole h])).eval e by simp [Mode.eval, Sym.eval], ih]
    simp

theorem flatMap_intercalate {α β : Type} (f : α → List β) (sep : List α) :
    ∀ xss : List (List α),
      (sep.intercalate xss).flatMap f = (sep.flatMap f).intercalate (xss.map (·.flatMap f))
  | [] => rfl
  | [x] => by simp
  | x :: y :: rest => by
    rw [List.intercalate_cons_cons, List.map_cons, List.map_cons, List.intercalate_cons_cons,
      ← List.map_cons, ← flatMap_intercalate f sep (y :: rest)]
    simp [List.flatMap_append]

theorem Template.render_eq (t : Template η) (e : η → List Char) :
    t.render e = t.slots.flatMap (Slot.render e) := by
  simp [Template.render, Template.slots, flatMap_intercalate, Slot.render]

/-- Lexing a filled template gives the template's tokens with their holes filled. -/
theorem Template.lex_render {kind : η → HoleKind} {t : Template η} {ts : List (Token (Sym η))}
    (hl : t.tokens kind = some ts) {e : η → List Char} (hf : t.Fits kind e) :
    lex (t.render e) = some (ts.map (Token.eval e)) := by
  simp only [Template.tokens, Option.bind_eq_some_iff, Option.map_eq_some_iff] at hl
  obtain ⟨⟨m, ts₀⟩, hr, ts₁, hfin, rfl⟩ := hl
  have hread := Mode.readSlots_eval hr hf
  simp only at hfin
  unfold lex
  rw [Template.render_eq, show (Mode.mk .code [] : Mode Char) = (Mode.mk .code [] : Mode (Sym η)).eval e
    from rfl, hread]
  simp [Mode.finish_eval, hfin]

/-- The tokens of slots that the lexer reads from between tokens back to between tokens. -/
def pieceTokens (kind : η → HoleKind) (slots : List (Slot η)) : Option (List (Token (Sym η))) :=
  match (Mode.mk .code [] : Mode (Sym η)).readSlots kind slots with
  | some (⟨.code, []⟩, ts) => some ts
  | _ => none

/-- Filled slots that read back to between tokens read so for every filling that fits. -/
theorem reads_render {kind : η → HoleKind} {slots : List (Slot η)} {ts : List (Token (Sym η))}
    (hp : pieceTokens kind slots = some ts) {e : η → List Char}
    (hf : ∀ h, Slot.hole h ∈ slots → (kind h).Fits (e h)) :
    Reads (slots.flatMap (Slot.render e)) (ts.map (Token.eval e)) := by
  unfold pieceTokens at hp
  split at hp
  case h_1 ts' hr =>
    cases hp
    exact Mode.readSlots_eval hr hf
  case h_2 => cases hp

/-- A template whose slots read back to between tokens reads so, filled with texts that fit
its holes. -/
theorem Template.reads_render {kind : η → HoleKind} {t : Template η} {ts : List (Token (Sym η))}
    (hp : pieceTokens kind t.slots = some ts) {e : η → List Char}
    (hf : ∀ h, (kind h).Fits (e h)) : Reads (t.render e) (ts.map (Token.eval e)) := by
  rw [Template.render_eq]
  exact Php.reads_render hp fun h _ => hf h

theorem kinds_map_eval (e : η → List Char) (ts : List (Token (Sym η))) :
    (ts.map (Token.eval e)).map Token.kind = ts.map Token.kind := by
  simp [Token.eval, Function.comp_def]

/-! ## Settled tokens -/

variable [DecidableEq η]

/-- A token of a template whose text, once filled, is the same for all fillings that agree
on the `shared` holes: the body of a literal or a comment (whose text may differ), a text
of characters and shared holes, or `$` and the hole `free`, a variable named by design. -/
def Token.settled (shared : η → Bool) (free : Option η) (t : Token (Sym η)) : Bool :=
  t.kind.hasBody || t.text.all (fun | .char _ => true | .hole h => shared h) ||
    (t.kind == .variable && free.any fun h => t.text == [.char '$', .hole h])

/-- A template lexes, its tokens are settled, its brackets nest, and the free hole is in it. -/
def Template.check (kind : η → HoleKind) (shared : η → Bool) (free : Option η)
    (t : Template η) : Bool :=
  match t.tokens kind with
  | some ts => ts.all (Token.settled shared free) && nests [] (ts.map Token.kind) &&
      free.all fun h => t.slots.contains (.hole h)
  | none => false

/-- Slots read from between tokens back to between tokens into settled tokens whose brackets
nest, with the free hole among them. -/
def pieceCheck (kind : η → HoleKind) (shared : η → Bool) (free : Option η)
    (slots : List (Slot η)) : Bool :=
  match pieceTokens kind slots with
  | some ts => ts.all (Token.settled shared free) && nests [] (ts.map Token.kind) &&
      free.all fun h => slots.contains (.hole h)
  | none => false

end Holes

/-- Two tokens of one kind whose texts agree, unless they are bodies of literals or
comments, or the variables `v₁` and `v₂`. -/
def Token.Alike (v₁ v₂ : Option (List Char)) (a b : Token Char) : Prop :=
  a.kind = b.kind ∧
    (a.kind.hasBody = true ∨ a.text = b.text ∨ (a.kind = .variable ∧ v₁ = some a.text ∧ v₂ = some b.text))

instance (v₁ v₂ : Option (List Char)) (a b : Token Char) : Decidable (Token.Alike v₁ v₂ a b) :=
  inferInstanceAs (Decidable (_ ∧ _))

section Alike

variable {η : Type} [DecidableEq η]

theorem Token.alike_eval {shared : η → Bool} {free : Option η} {t : Token (Sym η)}
    (ht : t.settled shared free = true) {e₁ e₂ : η → List Char}
    (hsh : ∀ h, shared h = true → e₁ h = e₂ h) :
    Token.Alike (free.map fun h => '$' :: e₁ h) (free.map fun h => '$' :: e₂ h)
      (t.eval e₁) (t.eval e₂) := by
  refine ⟨rfl, ?_⟩
  simp only [Token.settled, Bool.or_eq_true, List.all_eq_true, Bool.and_eq_true, beq_iff_eq,
    Option.any_eq_true] at ht
  rcases ht with (hb | hall) | ⟨hv, h, rfl, htext⟩
  · exact .inl hb
  · -- every hole of the text is shared, so both fillings spell it alike
    refine .inr (.inl (List.flatMap_congr fun x hx => ?_))
    cases x with
    | char c => rfl
    | hole h => exact hsh h (hall _ hx)
  · refine .inr (.inr ⟨hv, ?_, ?_⟩) <;> simp [Token.eval, htext, Sym.eval]

/-- Two fillings of slots that fit their holes and agree on the shared ones. The second,
taken from the first outside the slots' holes, spells the same slots, and then fills every
settled token alike with the first. -/
theorem exists_alike_filling {kind : η → HoleKind} {shared : η → Bool} {free : Option η}
    {slots : List (Slot η)} (hfree : ∀ h, free = some h → Slot.hole h ∈ slots)
    {e₁ e₂ : η → List Char} (hf₂ : ∀ h, Slot.hole h ∈ slots → (kind h).Fits (e₂ h))
    (hsh : ∀ h, Slot.hole h ∈ slots → shared h = true → e₁ h = e₂ h) :
    ∃ e₂' : η → List Char, slots.flatMap (Slot.render e₂') = slots.flatMap (Slot.render e₂) ∧
      (∀ h, Slot.hole h ∈ slots → (kind h).Fits (e₂' h)) ∧
      ∀ t : Token (Sym η), t.settled shared free = true →
        Token.Alike (free.map fun h => '$' :: e₁ h) (free.map fun h => '$' :: e₂ h)
          (t.eval e₁) (t.eval e₂') := by
  let e₂' : η → List Char := fun h => if Slot.hole h ∈ slots then e₂ h else e₁ h
  have hsame : ∀ h, Slot.hole h ∈ slots → e₂' h = e₂ h := fun h hh => if_pos hh
  have hsh' : ∀ h, shared h = true → e₁ h = e₂' h := by
    intro h hs
    by_cases hh : Slot.hole h ∈ slots
    · rw [hsame h hh]; exact hsh h hh hs
    · exact (if_neg hh).symm
  have hfree' : (free.map fun h => '$' :: e₂' h) = free.map fun h => '$' :: e₂ h := by
    cases free with
    | none => rfl
    | some h => simp [hsame h (hfree h rfl)]
  refine ⟨e₂', List.flatMap_congr fun x hx => ?_, fun h hh => (hsame h hh).symm ▸ hf₂ h hh,
    fun t ht => hfree' ▸ Token.alike_eval ht hsh'⟩
  cases x with
  | code cs => rfl
  | hole h => exact congrArg id (hsame h hx)

/-- A checked template, filled in two ways that fit its holes and agree on its shared
holes, lexes into two token lists that pair off one to one, of one kind and, outside
literal and comment bodies and the free variable, of one text, and whose brackets nest. -/
theorem Template.lex_alike {kind : η → HoleKind} {shared : η → Bool} {free : Option η}
    {t : Template η} (hc : t.check kind shared free = true) {e₁ e₂ : η → List Char}
    (hf₁ : t.Fits kind e₁) (hf₂ : t.Fits kind e₂)
    (hsh : ∀ h, Slot.hole h ∈ t.slots → shared h = true → e₁ h = e₂ h) :
    ∃ ts₁ ts₂, lex (t.render e₁) = some ts₁ ∧ lex (t.render e₂) = some ts₂ ∧
      List.Forall₂ (Token.Alike (free.map fun h => '$' :: e₁ h) (free.map fun h => '$' :: e₂ h))
        ts₁ ts₂ ∧ Balanced ts₁ ∧ Balanced ts₂ := by
  unfold Template.check at hc
  split at hc
  case h_2 => exact absurd hc Bool.false_ne_true
  case h_1 ts hl =>
  simp only [Bool.and_eq_true, List.all_eq_true, Option.all_eq_true, List.contains_iff_mem] at hc
  obtain ⟨⟨hset, hnest⟩, hfree⟩ := hc
  obtain ⟨e₂', hrender, hf₂', halike⟩ := exists_alike_filling hfree hf₂ hsh
  refine ⟨ts.map (Token.eval e₁), ts.map (Token.eval e₂'), Template.lex_render hl hf₁, ?_, ?_, ?_, ?_⟩
  · rw [Template.render_eq, ← hrender, ← Template.render_eq]
    exact Template.lex_render hl hf₂'
  · rw [List.forall₂_map_left_iff, List.forall₂_map_right_iff, List.forall₂_same]
    exact fun x hx => halike x (hset x hx)
  · rw [Balanced, kinds_map_eval]; exact hnest
  · rw [Balanced, kinds_map_eval]; exact hnest

/-- Slots that pass the piece check, filled in two ways that fit their holes and agree on
their shared holes, read from between tokens back to between tokens into two token lists
that pair off as for a checked template. -/
theorem pieces_alike {kind : η → HoleKind} {shared : η → Bool} {free : Option η}
    {slots : List (Slot η)} (hc : pieceCheck kind shared free slots = true) {e₁ e₂ : η → List Char}
    (hf₁ : ∀ h, Slot.hole h ∈ slots → (kind h).Fits (e₁ h))
    (hf₂ : ∀ h, Slot.hole h ∈ slots → (kind h).Fits (e₂ h))
    (hsh : ∀ h, Slot.hole h ∈ slots → shared h = true → e₁ h = e₂ h) :
    ∃ ts₁ ts₂, Reads (slots.flatMap (Slot.render e₁)) ts₁ ∧
      Reads (slots.flatMap (Slot.render e₂)) ts₂ ∧
      List.Forall₂ (Token.Alike (free.map fun h => '$' :: e₁ h) (free.map fun h => '$' :: e₂ h))
        ts₁ ts₂ ∧ Balanced ts₁ ∧ Balanced ts₂ := by
  unfold pieceCheck at hc
  split at hc
  case h_2 => exact absurd hc Bool.false_ne_true
  case h_1 ts hp =>
  simp only [Bool.and_eq_true, List.all_eq_true, Option.all_eq_true, List.contains_iff_mem] at hc
  obtain ⟨⟨hset, hnest⟩, hfree⟩ := hc
  obtain ⟨e₂', hrender, hf₂', halike⟩ := exists_alike_filling hfree hf₂ hsh
  refine ⟨ts.map (Token.eval e₁), ts.map (Token.eval e₂'), reads_render hp hf₁,
    hrender ▸ reads_render hp hf₂', ?_, ?_, ?_⟩
  · rw [List.forall₂_map_left_iff, List.forall₂_map_right_iff, List.forall₂_same]
    exact fun x hx => halike x (hset x hx)
  · rw [Balanced, kinds_map_eval]; exact hnest
  · rw [Balanced, kinds_map_eval]; exact hnest

end Alike

/-- A line comment whose text has no line break and no `?` is one comment token. -/
theorem lex_lineComment {body : List Char} (hb : ∀ c ∈ body, isLineBreak c = false ∧ c ≠ '?') :
    lex ('/' :: '/' :: body) = some [⟨.comment, body⟩] := by
  have hopen : (Mode.mk .code [] : Mode Char).read id ['/', '/'] = (⟨.comment, []⟩, []) := rfl
  have hread := Mode.read_keeps (fun c hc => keeps_comment (hb c hc).1 (hb c hc).2) []
  unfold lex
  rw [show '/' :: '/' :: body = ['/', '/'] ++ body from rfl, Mode.read_append, hopen]
  simp only [hread]
  simp [Mode.finish, Shape.ending, Effect.run]

/-- A line comment ended by a line feed, whose text has no line break and no `?`, reads
back to between tokens as one comment. -/
theorem reads_lineComment {body : List Char}
    (hb : ∀ c ∈ body, isLineBreak c = false ∧ c ≠ '?') :
    Reads ('/' :: '/' :: body ++ ['\n']) [⟨.comment, body⟩] := by
  have hopen : (Mode.mk .code [] : Mode Char).read id ['/', '/'] = (⟨.comment, []⟩, []) := rfl
  have hread := Mode.read_keeps (fun c hc => keeps_comment (hb c hc).1 (hb c hc).2) []
  unfold Reads
  rw [show '/' :: '/' :: body ++ ['\n'] = ['/', '/'] ++ (body ++ ['\n']) from rfl, Mode.read_append,
    hopen]
  simp only [Mode.read_append, hread]
  simp [Mode.read, effect, commentEffect, isLineBreak, Effect.run]

end Transcribe.Php
