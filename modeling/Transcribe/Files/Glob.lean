/-!
# `Files.Glob` — shell-style file name patterns

A pattern is read into tokens: a literal character, `?` for any one character, `*`
for any run of characters, `**` (only as a whole path component) for any run of
directories, `[...]` for one character of a set and `[!...]` for one character not in
it. A set lists characters and ranges `a-z`; a `]` right after the opening bracket
belongs to the set. There is no escape character.

Reading a pattern fails with a position and a reason: three or more stars, a `**`
that is not a whole component, or a `[` without its `]`.

A pattern matches a text when its tokens can consume the whole text, each wildcard
trying every split.
-/

namespace Transcribe.Files

/-- A member of a character set. -/
inductive CharSpec where
  | single (c : Char)
  | range (lo hi : Char)
  deriving DecidableEq, Repr

/-- A token of a pattern. -/
inductive GlobToken where
  | char (c : Char)
  | anyChar
  | anySequence
  | anyRecursive
  | within (specs : List CharSpec)
  | except (specs : List CharSpec)
  deriving DecidableEq, Repr

/-- A read pattern. -/
structure Pattern where
  tokens : List GlobToken
  /-- Whether the pattern has a `**` component. -/
  recursive : Bool
  deriving Repr

/-- Why a pattern cannot be read. -/
structure PatternError where
  pos : Nat
  msg : String
  deriving DecidableEq, Repr

/-- The message of a pattern error. -/
def PatternError.message (e : PatternError) : String :=
  "Pattern syntax error near position " ++ toString e.pos ++ ": " ++ e.msg

/-- Reads the members of a character set. -/
def charSpecs : List Char → List CharSpec
  | a :: '-' :: b :: rest => .range a b :: charSpecs rest
  | c :: rest => .single c :: charSpecs rest
  | [] => []

/-- The reason for three or more stars. -/
def tooManyStars : String := "wildcards are either regular `*` or recursive `**`"

/-- The reason for a `**` inside a component. -/
def starsInComponent : String := "recursive wildcards must form a single path component"

/-- The reason for a `[` without `]`. -/
def openRange : String := "invalid range pattern"

/-- A set in brackets, after its `[`: the token and the characters after the `]`, with
how many characters the set took, brackets included. -/
def readSet (rest : List Char) : Option (GlobToken × List Char × Nat) :=
  match rest with
  | '!' :: r2 =>
    if r2.length < 2 then none
    else match (r2.drop 1).findIdx? (· == ']') with
      | some j => some (.except (charSpecs (r2.take (j + 1))), r2.drop (j + 2), j + 4)
      | none => none
  | c :: r2 =>
    if c == '!' || r2.isEmpty then none
    else match r2.findIdx? (· == ']') with
      | some j => some (.within (charSpecs (rest.take (j + 1))), rest.drop (j + 2), j + 3)
      | none => none
  | [] => none

/-- Reads a pattern. `prev` is the character before the current position. -/
def readTokens (cs : List Char) (pos : Nat) (prev : Option Char) (acc : List GlobToken) (recursive : Bool) :
    Nat → Except PatternError Pattern
  | 0 => .ok ⟨acc.reverse, recursive⟩
  | fuel + 1 =>
    match cs with
    | [] => .ok ⟨acc.reverse, recursive⟩
    | '?' :: rest => readTokens rest (pos + 1) (some '?') (.anyChar :: acc) recursive fuel
    | '*' :: _ =>
      let count := (cs.takeWhile (· == '*')).length
      let rest := cs.drop count
      if 2 < count then .error ⟨pos + 2, tooManyStars⟩
      else if count == 2 then
        if pos == 0 || prev == some '/' then
          let (rest, used) := match rest with
            | '/' :: r => (some r, 3)
            | [] => (some [], 2)
            | _ => (none, 2)
          match rest with
          | none => .error ⟨pos + 2, starsInComponent⟩
          | some r =>
            let collapse := acc.length > 1 && acc.head? == some .anyRecursive
            let acc := if collapse then acc else .anyRecursive :: acc
            readTokens r (pos + used) (some (if used == 3 then '/' else '*')) acc (recursive || !collapse) fuel
        else .error ⟨pos - 1, starsInComponent⟩
      else readTokens rest (pos + 1) (some '*') (.anySequence :: acc) recursive fuel
    | '[' :: rest =>
      match readSet rest with
      | some (t, r, used) => readTokens r (pos + used) (some ']') (t :: acc) recursive fuel
      | none => .error ⟨pos, openRange⟩
    | c :: rest => readTokens rest (pos + 1) (some c) (.char c :: acc) recursive fuel

/-- Reads a pattern. -/
def Pattern.read (s : String) : Except PatternError Pattern :=
  readTokens s.toList 0 none [] false (s.length + 1)

/-- The text of a pattern made of literal characters only. -/
def Pattern.literal? (p : Pattern) : Option String :=
  String.ofList <$> p.tokens.mapM fun t => match t with
    | .char c => some c
    | _ => none

/-- Whether a set holds a character. -/
def specsHold (specs : List CharSpec) (c : Char) : Bool :=
  specs.any fun s => match s with
    | .single x => x == c
    | .range lo hi => lo ≤ c && c ≤ hi

/-- Whether a one-character token accepts a character. -/
def GlobToken.accepts : GlobToken → Char → Bool
  | .char x, c => x == c
  | .anyChar, _ => true
  | .within s, c => specsHold s c
  | .except s, c => !specsHold s c
  | _, _ => false

/-- Tries the rest of a pattern after each character a wildcard consumes; a `**`
only tries after a separator. -/
def afterWildcard (rest : List Char → Bool) (recursive : Bool) : List Char → Bool
  | [] => false
  | c :: cs => ((!recursive || c == '/') && rest cs) || afterWildcard rest recursive cs

/-- Whether tokens consume exactly a text. -/
def tokensMatch : List GlobToken → List Char → Bool
  | [], text => text.isEmpty
  | t :: ts, text =>
    match t with
    | .anySequence => tokensMatch ts text || afterWildcard (tokensMatch ts) false text
    | .anyRecursive => tokensMatch ts text || afterWildcard (tokensMatch ts) true text
    | _ =>
      match text with
      | [] => false
      | c :: cs => t.accepts c && tokensMatch ts cs

/-- Whether a pattern matches a text. -/
def Pattern.matches (p : Pattern) (s : String) : Bool := tokensMatch p.tokens s.toList

end Transcribe.Files
