import Mathlib.Data.List.Infix
import Transcribe.Proofs.PhpLexing
import Transcribe.Proofs.TableReading
/-!
# `Proofs.CellText` — what a cell's text means inside a PHP string

`decodeCellText` turns the markup of a table cell into the body of a double-quoted PHP
string. This module reads such a string the way PHP does and says what it stands for.

**PHP's double-quoted strings.** `readQuoted` reads a body up to the first `"` that no
backslash escapes, one step (`quotedStep`) at a time, and gives the bytes it stands for:

| text | bytes |
| :-- | :-- |
| `\n` `\t` `\r` `\v` `\e` `\f` `\\` `\$` `\"` | one byte each |
| `\` and one to three octal digits | one byte, the number modulo 256 |
| `\x` or `\X` and one or two hexadecimal digits | one byte |
| `\u{` hexadecimal digits `}` | the UTF-8 form of the code point, which must be at most U+10FFFF |
| `\` and any other character | the backslash and the character |
| `$` before a name's first character or `{`, and `{` before `$` | none: a variable is interpolated |
| any other character | its UTF-8 bytes |

A string that interpolates has no value of its own, and `\u{` without a well-formed end is
an error, so `doubleQuotedValue?` is `none` for both, as for a text that is no single literal.

**Cells as recorders write them.** A cell holding lines `l₁ … lₖ` is written with `&`, `<`, `>`
and `"` of every line escaped as `&amp;`, `&lt;`, `&gt;`, `&quot;` (`escapeMarkup`) and `<br />`
between the lines (`cellMarkup`).

## What is proved

`cell_lines_read_back`: for every list of lines none of which holds a backslash, a `$` or a
line break tag (`HasLineBreak`: `<br`, then blanks, an optional `/` and `>`, in any case),
`"` ++ `decodeCellText (cellMarkup lines)` ++ `"` is one PHP string literal whose value is the
UTF-8 form of the lines joined by line feeds.

## What it is not

The three conditions are needed. A line's backslash and `$` reach the literal unescaped, so
`a\` escapes the closing quote and `$a` interpolates; and entities are decoded before line
break tags are looked for, so a line `<br>`, written `&lt;br&gt;`, becomes a line feed
(`cell_text_breaks_three_ways`).

## How

Each of the four passes of `decodeCellText` is followed over the cell's pieces: the `&nbsp;`
pass and the entity pass are silent on the separators (`Silent`), the entity pass decodes each
escaped character once (`substitute_escapeMarkup`), the line break pass turns exactly the
separators into `\n` (`markLineBreaks_intercalate`), and quoting distributes over the pieces.
PHP's reading is then followed piece by piece (`readQuoted_escapeQuotes`).
-/

namespace Transcribe.Php

open Transcribe.Markup

/-! ## PHP's double-quoted strings -/

/-- An ASCII octal digit. -/
def isOctDigit (c : Char) : Bool := '0' ≤ c && c ≤ '7'

/-- The bytes of a `\u{…}` escape: the UTF-8 form of the code point, which PHP gives a
surrogate too. -/
def codePointBytes (n : Nat) : List UInt8 :=
  if n < 0x80 then [n.toUInt8]
  else if n < 0x800 then [(0xC0 + n / 0x40).toUInt8, (0x80 + n % 0x40).toUInt8]
  else if n < 0x10000 then
    [(0xE0 + n / 0x1000).toUInt8, (0x80 + n / 0x40 % 0x40).toUInt8, (0x80 + n % 0x40).toUInt8]
  else
    [(0xF0 + n / 0x40000).toUInt8, (0x80 + n / 0x1000 % 0x40).toUInt8,
      (0x80 + n / 0x40 % 0x40).toUInt8, (0x80 + n % 0x40).toUInt8]

/-- The escape after a backslash: the bytes it stands for and the text after it, or `none`
for a `\u{` that hexadecimal digits of a code point and `}` do not follow. -/
def readEscape : List Char → Option (List UInt8 × List Char)
  | [] => none
  | 'n' :: rest => some ([10], rest)
  | 't' :: rest => some ([9], rest)
  | 'r' :: rest => some ([13], rest)
  | 'v' :: rest => some ([11], rest)
  | 'e' :: rest => some ([27], rest)
  | 'f' :: rest => some ([12], rest)
  | '\\' :: rest => some ([92], rest)
  | '$' :: rest => some ([36], rest)
  | '"' :: rest => some ([34], rest)
  | 'u' :: '\x7b' :: rest =>
    match rest.takeWhile isHexDigit, rest.dropWhile isHexDigit with
    | ds@(_ :: _), '\x7d' :: after =>
      if digitsValue 16 hexValue ds ≤ 0x10FFFF then
        some (codePointBytes (digitsValue 16 hexValue ds), after)
      else none
    | _, _ => none
  | c :: rest =>
    if c == 'x' || c == 'X' then
      match (rest.takeWhile isHexDigit).take 2 with
      | [] => some (92 :: String.utf8EncodeChar c, rest)
      | ds => some ([(digitsValue 16 hexValue ds).toUInt8], rest.drop ds.length)
    else if isOctDigit c then
      let ds := ((c :: rest).takeWhile isOctDigit).take 3
      some ([(digitsValue 8 (fun d => d.toNat - '0'.toNat) ds).toUInt8], (c :: rest).drop ds.length)
    else some (92 :: String.utf8EncodeChar c, rest)

/-- One step through the body of a double-quoted string. -/
inductive QuotedStep where
  /-- The closing quote, and the text after it. -/
  | close (rest : List Char)
  /-- A character or an escape: its bytes, and the text after it. -/
  | bytes (bs : List UInt8) (rest : List Char)
  /-- An interpolation, a malformed escape, or the end of the text. -/
  | stuck

/-- The step at the front of a string's body. -/
def quotedStep : List Char → QuotedStep
  | [] => .stuck
  | '"' :: rest => .close rest
  | '\\' :: rest =>
    match readEscape rest with
    | some (bs, after) => .bytes bs after
    | none => .stuck
  | '$' :: c :: rest =>
    if isNameStart c || c == '\x7b' then .stuck else .bytes (String.utf8EncodeChar '$') (c :: rest)
  | '\x7b' :: '$' :: _ => .stuck
  | c :: rest => .bytes (String.utf8EncodeChar c) rest

theorem length_readEscape {cs after : List Char} {bs : List UInt8}
    (h : readEscape cs = some (bs, after)) : after.length < cs.length := by
  unfold readEscape at h
  split at h
  case h_11 rest =>
    -- `\u{`: what follows the closing brace lies inside what follows the digits
    split at h
    case h_1 hd =>
      split at h
      · cases h
        have hle := (List.dropWhile_suffix isHexDigit (l := rest)).length_le
        rw [hd] at hle
        simp only [List.length_cons] at hle ⊢
        omega
      · cases h
    case h_2 => cases h
  case h_12 c rest _ _ _ _ _ _ _ _ _ _ =>
    split at h
    · split at h <;> (cases h; simp only [List.length_cons, List.length_drop]; omega)
    · split at h
      · -- an octal escape takes at least its first digit
        rename_i hoct
        cases h
        have hpos : 0 < (((c :: rest).takeWhile isOctDigit).take 3).length := by
          simp [List.takeWhile_cons_of_pos hoct]
        simp only [List.length_drop, List.length_cons] at hpos ⊢
        omega
      · cases h
        simp
  all_goals (cases h <;> simp)

theorem length_quotedStep {cs rest : List Char} {bs : List UInt8}
    (h : quotedStep cs = .bytes bs rest) : rest.length < cs.length := by
  unfold quotedStep at h
  split at h
  case h_3 esc =>
    split at h
    case h_1 hesc =>
      cases h
      have := length_readEscape hesc
      simp only [List.length_cons]
      omega
    case h_2 => cases h
  case h_4 =>
    split at h
    · cases h
    · cases h
      simp
  all_goals (cases h <;> simp)

/-- Reads the body of a double-quoted string up to its closing quote: the bytes it stands
for, and the text after the quote. -/
def readQuoted (cs : List Char) : Option (List UInt8 × List Char) :=
  match h : quotedStep cs with
  | .close rest => some ([], rest)
  | .bytes bs rest =>
    have := length_quotedStep h
    (readQuoted rest).map (Prod.map (bs ++ ·) id)
  | .stuck => none
termination_by cs.length

/-- The value of a text that is one double-quoted string literal: its bytes. -/
def doubleQuotedValue? : List Char → Option (List UInt8)
  | '"' :: body =>
    match readQuoted body with
    | some (v, []) => some v
    | _ => none
  | _ => none

theorem readQuoted_of_close {cs rest : List Char} (h : quotedStep cs = .close rest) :
    readQuoted cs = some ([], rest) := by
  rw [readQuoted]
  split <;> simp_all

theorem readQuoted_of_bytes {cs rest : List Char} {bs : List UInt8}
    (h : quotedStep cs = .bytes bs rest) :
    readQuoted cs = (readQuoted rest).map (Prod.map (bs ++ ·) id) := by
  rw [readQuoted]
  split <;> simp_all

example : doubleQuotedValue? "\"a\\n\\\"\\101\\x42\\u\x7b43\x7d\\q\"".toList =
    some [97, 10, 34, 65, 66, 67, 92, 113] := by decide +kernel

end Transcribe.Php

namespace Transcribe.Markup

open Transcribe.Text Transcribe.Php

/-! ## Cells as recorders write them -/

/-- How a recorder writes a character of a cell: `&`, `<`, `>` and `"` as references. -/
def escapeMarkupChar : Char → List Char
  | '&' => ['&', 'a', 'm', 'p', ';']
  | '<' => ['&', 'l', 't', ';']
  | '>' => ['&', 'g', 't', ';']
  | '"' => ['&', 'q', 'u', 'o', 't', ';']
  | c => [c]

/-- A line of a cell as a recorder writes it. -/
def escapeMarkup (cs : List Char) : List Char := cs.flatMap escapeMarkupChar

/-- The line break tag a recorder writes between the lines of a cell. -/
def lineBreakTag : List Char := ['<', 'b', 'r', ' ', '/', '>']

/-- A cell holding lines, as a recorder writes it: each line escaped, `<br />` between two. -/
def cellMarkup (lines : List String) : String :=
  String.ofList (lineBreakTag.intercalate (lines.map fun l => escapeMarkup l.toList))

/-- A line break tag starts at some position of the text. -/
def HasLineBreak (cs : List Char) : Prop := ∃ s t, cs = s ++ t ∧ (lineBreakAt? t).isSome

/-- A line break tag starts in a text exactly when one starts at the front of one of its tails. -/
theorem hasLineBreak_iff (cs : List Char) :
    HasLineBreak cs ↔ (cs.tails.any fun t => (lineBreakAt? t).isSome) = true := by
  simp only [List.any_eq_true, List.mem_tails, HasLineBreak]
  constructor
  · rintro ⟨s, t, rfl, ht⟩
    exact ⟨t, List.suffix_append s t, ht⟩
  · rintro ⟨t, ⟨s, rfl⟩, ht⟩
    exact ⟨s, t, rfl, ht⟩

instance : DecidablePred HasLineBreak := fun cs => decidable_of_iff _ (hasLineBreak_iff cs).symm

/-! ## The `&nbsp;` pass: nothing to replace -/

/-- The matcher of the `&nbsp;` pass. -/
abbrev nbspAt : List Char → Option (List Char × List Char) := literal "&nbsp;".toList " ".toList

theorem nbspAt_of_ne {c : Char} (hc : c ≠ '&') (cs : List Char) : nbspAt (c :: cs) = none := by
  simp [literal, Ne.symm hc]

theorem silent_nbspAt_escapeMarkupChar (c : Char) : Silent nbspAt (escapeMarkupChar c) := by
  have hguard : ∀ d cs, d ≠ '&' → nbspAt (d :: cs) = none := fun _ cs h => nbspAt_of_ne h cs
  unfold escapeMarkupChar
  split
  case h_5 hamp _ _ _ => exact silent_of_not_mem hguard fun h => hamp (List.mem_singleton.1 h).symm
  -- a reference starts with `&` followed by a letter other than `n`
  all_goals exact ⟨fun ys => by simp [literal], silent_of_not_mem hguard (by simp)⟩

theorem silent_nbspAt_escapeMarkup (cs : List Char) : Silent nbspAt (escapeMarkup cs) := by
  induction cs with
  | nil => trivial
  | cons c cs ih =>
    rw [escapeMarkup, List.flatMap_cons]
    exact (silent_nbspAt_escapeMarkupChar c).append ih

theorem replaceAll_nbsp_cellMarkup (lines : List String) :
    replaceAll "&nbsp;" " " (cellMarkup lines) = cellMarkup lines := by
  have hsep : Silent nbspAt lineBreakTag :=
    silent_of_not_mem (fun _ cs h => nbspAt_of_ne h cs) (by decide)
  have hsilent : Silent nbspAt (lineBreakTag.intercalate (lines.map fun l => escapeMarkup l.toList)) :=
    hsep.intercalate (by simp only [List.mem_map]; rintro _ ⟨l, -, rfl⟩; exact silent_nbspAt_escapeMarkup _)
  have h := substitute_append_of_silent hsilent []
  rw [List.append_nil, substitute_nil, List.append_nil] at h
  unfold replaceAll cellMarkup
  simp only [String.toList_ofList]
  exact congrArg String.ofList h

/-! ## The entity pass: each escaped character decoded once -/

theorem referenceAt_of_ne {c : Char} (hc : c ≠ '&') (cs : List Char) : referenceAt (c :: cs) = none := by
  unfold referenceAt CharRef.read?
  split <;> simp_all

theorem substitute_referenceAt_escapeMarkupChar (c : Char) (ys : List Char) :
    substitute referenceAt (escapeMarkupChar c ++ ys) = c :: substitute referenceAt ys := by
  -- a reference is decoded in one step, and the walk goes on after its `;`
  have hstep : ∀ {name : List Char} {d : Char}, CharRef.decode? (.named name) = some d →
      referenceAt ('&' :: name ++ ';' :: ys) = some ([d], ys) →
      substitute referenceAt ('&' :: name ++ ';' :: ys) = d :: substitute referenceAt ys :=
    fun _ href => substitute_cons_of_some href (by simp; omega)
  unfold escapeMarkupChar
  split
  · have hdec : CharRef.decode? (.named ['a', 'm', 'p']) = some '&' := by decide
    exact hstep hdec (by simp [referenceAt, CharRef.read?, closedRun, hdec])
  · have hdec : CharRef.decode? (.named ['l', 't']) = some '<' := by decide
    exact hstep hdec (by simp [referenceAt, CharRef.read?, closedRun, hdec])
  · have hdec : CharRef.decode? (.named ['g', 't']) = some '>' := by decide
    exact hstep hdec (by simp [referenceAt, CharRef.read?, closedRun, hdec])
  · have hdec : CharRef.decode? (.named ['q', 'u', 'o', 't']) = some '"' := by decide
    exact hstep hdec (by simp [referenceAt, CharRef.read?, closedRun, hdec])
  · rename_i hamp _ _ _
    rw [List.singleton_append, substitute_cons_of_none (referenceAt_of_ne hamp ys)]

theorem substitute_referenceAt_escapeMarkup (cs ys : List Char) :
    substitute referenceAt (escapeMarkup cs ++ ys) = cs ++ substitute referenceAt ys := by
  induction cs with
  | nil => rfl
  | cons c cs ih =>
    rw [escapeMarkup, List.flatMap_cons, List.append_assoc, ← escapeMarkup,
      substitute_referenceAt_escapeMarkupChar, ih, List.cons_append]

/-- Decoding the references of a written cell gives its lines with the separators. -/
theorem substitute_referenceAt_cell :
    ∀ ls : List (List Char),
      substitute referenceAt (lineBreakTag.intercalate (ls.map escapeMarkup)) = lineBreakTag.intercalate ls
  | [] => substitute_nil _
  | [l] => by
    have h := substitute_referenceAt_escapeMarkup l []
    rw [List.append_nil, substitute_nil, List.append_nil] at h
    simpa only [List.map_cons, List.map_nil, List.intercalate_singleton] using h
  | l :: l' :: ls => by
    have hsep : Silent referenceAt lineBreakTag :=
      silent_of_not_mem (fun _ cs h => referenceAt_of_ne h cs) (by decide)
    rw [List.map_cons, List.map_cons, List.intercalate_cons_cons, List.intercalate_cons_cons,
      List.append_assoc, substitute_referenceAt_escapeMarkup, substitute_append_of_silent hsep,
      ← List.map_cons, substitute_referenceAt_cell (l' :: ls), List.append_assoc]

theorem decodeEntities_cellMarkup (lines : List String) :
    (decodeEntities (cellMarkup lines)).toList = lineBreakTag.intercalate (lines.map String.toList) := by
  have hmap : lines.map (fun l => escapeMarkup l.toList) = (lines.map String.toList).map escapeMarkup := by
    simp
  unfold decodeEntities cellMarkup
  rw [String.toList_ofList, String.toList_ofList, hmap, substitute_referenceAt_cell]

/-! ## The line break pass: exactly the separators -/

/-- How a line break tag ends after its blanks: `>` or `/>`, and the text after it. -/
def tagClose? : List Char → Option (List Char)
  | '>' :: rest => some rest
  | '/' :: '>' :: rest => some rest
  | _ => none

theorem lineBreakAt?_lt (cs : List Char) :
    lineBreakAt? ('<' :: cs) =
      (stripCaseless "br".toList cs).bind fun r => tagClose? (r.dropWhile isBlank) := by
  simp only [lineBreakAt?]
  cases stripCaseless "br".toList cs <;> rfl

theorem lineBreakAt?_of_ne {c : Char} (hc : c ≠ '<') (cs : List Char) : lineBreakAt? (c :: cs) = none := by
  unfold lineBreakAt?
  split <;> simp_all

theorem stripCaseless_append {w cs r : List Char} (h : stripCaseless w cs = some r) (ys : List Char) :
    stripCaseless w (cs ++ ys) = some (r ++ ys) := by
  induction w generalizing cs with
  | nil =>
    simp only [stripCaseless, Option.some.injEq] at h ⊢
    rw [h]
  | cons p ps ih =>
    cases cs with
    | nil => simp [stripCaseless] at h
    | cons c cs =>
      simp only [stripCaseless] at h
      simp only [List.cons_append, stripCaseless]
      split at h
      · rename_i hpc
        rw [if_pos hpc]
        exact ih h
      · cases h

/-- A `<` after a text cannot finish a tag's end the text leaves open. -/
theorem tagClose?_append_lt {d : List Char} (h : tagClose? d = none) (u : List Char) :
    tagClose? (d ++ '<' :: u) = none := by
  match d with
  | [] => rfl
  | c :: d' =>
    by_cases hgt : c = '>'
    · subst hgt
      simp [tagClose?] at h
    · by_cases hsl : c = '/'
      · subst hsl
        match d' with
        | [] => rfl
        | e :: d'' =>
          by_cases he : e = '>'
          · subst he
            simp [tagClose?] at h
          · unfold tagClose?
            split <;> simp_all
      · unfold tagClose?
        split <;> simp_all

/-- A text in which no line break tag starts gains none from a `<` after it. -/
theorem lineBreakAt?_append_of_eq_none {t ys : List Char} (ht : t ≠ []) (h : lineBreakAt? t = none)
    (hys : ys = [] ∨ ys.head? = some '<') : lineBreakAt? (t ++ ys) = none := by
  rcases hys with rfl | hys
  · rwa [List.append_nil]
  obtain ⟨u, rfl⟩ : ∃ u, ys = '<' :: u := by
    cases ys with
    | nil => simp at hys
    | cons y u => simp only [List.head?_cons, Option.some.injEq] at hys; exact ⟨u, by rw [hys]⟩
  obtain ⟨c, t', rfl⟩ := List.exists_cons_of_ne_nil ht
  by_cases hc : c = '<'
  · subst hc
    rw [lineBreakAt?_lt] at h
    rw [List.cons_append, lineBreakAt?_lt]
    cases hs : stripCaseless "br".toList t' with
    | none =>
      have hbr : ∀ p ∈ "br".toList, matchesCaseless p '<' = false :=
        fun p hp => by simpa using List.all_eq_true.1 (by decide : ("br".toList.all fun p => !matchesCaseless p '<') = true) p hp
      rw [stripCaseless_append_cons_of_eq_none u hbr hs]
      rfl
    | some r =>
      rw [hs, Option.bind_some] at h
      rw [stripCaseless_append hs, Option.bind_some, List.dropWhile_append]
      split
      · -- only blanks stand before the `<`
        have hlt : isBlank '<' = false := by decide
        rw [List.dropWhile_cons_of_neg (by simp [hlt])]
        rfl
      · exact tagClose?_append_lt h u
  · rw [List.cons_append, lineBreakAt?_of_ne hc]

/-- The matcher of the line break pass. -/
abbrev breakAt (cs : List Char) : Option (List Char × List Char) :=
  (lineBreakAt? cs).map fun rest => (['\\', 'n'], rest)

theorem not_hasLineBreak_of_cons {c : Char} {l : List Char} (h : ¬ HasLineBreak (c :: l)) :
    ¬ HasLineBreak l := by
  rintro ⟨s, t, rfl, ht⟩
  exact h ⟨c :: s, t, rfl, ht⟩

theorem lineBreakAt?_eq_none_of_not_hasLineBreak {l : List Char} (h : ¬ HasLineBreak l) :
    lineBreakAt? l = none := by
  cases hl : lineBreakAt? l with
  | none => rfl
  | some r => exact absurd ⟨[], l, rfl, by simp [hl]⟩ h

/-- A line without line break tags passes the line break pass unchanged, when nothing or a
tag follows it. -/
theorem markLineBreaks_append_of_not_hasLineBreak {ys : List Char} (hys : ys = [] ∨ ys.head? = some '<') :
    ∀ {l : List Char}, ¬ HasLineBreak l → markLineBreaks (l ++ ys) = l ++ markLineBreaks ys
  | [], _ => rfl
  | c :: l, hl => by
    have hc : lineBreakAt? (c :: l ++ ys) = none :=
      lineBreakAt?_append_of_eq_none (List.cons_ne_nil c l) (lineBreakAt?_eq_none_of_not_hasLineBreak hl) hys
    have hstep : breakAt (c :: (l ++ ys)) = none := by
      rw [breakAt, ← List.cons_append, hc]
      rfl
    calc markLineBreaks (c :: l ++ ys)
        = c :: markLineBreaks (l ++ ys) := substitute_cons_of_none hstep
      _ = c :: l ++ markLineBreaks ys := by
        rw [markLineBreaks_append_of_not_hasLineBreak hys (not_hasLineBreak_of_cons hl), List.cons_append]

theorem markLineBreaks_lineBreakTag (ys : List Char) :
    markLineBreaks (lineBreakTag ++ ys) = ['\\', 'n'] ++ markLineBreaks ys := by
  have htag : breakAt (lineBreakTag ++ ys) = some (['\\', 'n'], ys) := by
    simp [breakAt, lineBreakTag, lineBreakAt?, stripCaseless, matchesCaseless, isBlank]
  exact substitute_cons_of_some htag (by simp; omega)

/-- The line break pass turns exactly the separators of the lines into `\n`. -/
theorem markLineBreaks_intercalate :
    ∀ ls : List (List Char), (∀ l ∈ ls, ¬ HasLineBreak l) →
      markLineBreaks (lineBreakTag.intercalate ls) = ['\\', 'n'].intercalate ls
  | [], _ => substitute_nil _
  | [l], h => by
    have hnil : markLineBreaks [] = [] := substitute_nil _
    simpa [hnil] using markLineBreaks_append_of_not_hasLineBreak (.inl rfl) (h l List.mem_cons_self)
  | l :: l' :: ls, h => by
    rw [List.intercalate_cons_cons, List.intercalate_cons_cons, List.append_assoc,
      markLineBreaks_append_of_not_hasLineBreak (.inr rfl) (h l List.mem_cons_self),
      markLineBreaks_lineBreakTag,
      markLineBreaks_intercalate (l' :: ls) fun x hx => h x (List.mem_cons_of_mem l hx),
      List.append_assoc]

/-! ## Reading the literal back -/

theorem quotedStep_plain {c : Char} {cs : List Char} (hq : c ≠ '"') (hb : c ≠ '\\') (hd : c ≠ '$')
    (hbrace : c = '\x7b' → cs.head? ≠ some '$') :
    quotedStep (c :: cs) = .bytes (String.utf8EncodeChar c) cs := by
  unfold quotedStep
  split <;> simp_all

theorem map_prepend_map_prepend (o : Option (List UInt8 × List Char)) (a b : List UInt8) :
    (o.map (Prod.map (a ++ ·) id)).map (Prod.map (b ++ ·) id) = o.map (Prod.map ((b ++ a) ++ ·) id) := by
  cases o with
  | none => rfl
  | some p =>
    obtain ⟨v, t⟩ := p
    simp [List.append_assoc]

theorem escapeQuotes_cons (c : Char) (cs : List Char) :
    escapeQuotes (c :: cs) = (if c == '"' then ['\\', '"'] else [c]) ++ escapeQuotes cs := by
  simp [escapeQuotes]

theorem escapeQuotes_append (xs ys : List Char) :
    escapeQuotes (xs ++ ys) = escapeQuotes xs ++ escapeQuotes ys := by
  simp [escapeQuotes]

theorem head?_escapeQuotes_append {l ys : List Char} (hd : '$' ∉ l) (hys : ys.head? ≠ some '$') :
    (escapeQuotes l ++ ys).head? ≠ some '$' := by
  cases l with
  | nil => simpa [escapeQuotes] using hys
  | cons c l =>
    rw [escapeQuotes_cons, List.append_assoc]
    split
    · simp
    · simp only [List.singleton_append, List.head?_cons, ne_eq, Option.some.injEq]
      exact fun h => hd (h ▸ List.mem_cons_self)

/-- A line without backslashes and `$`, its quotes escaped, stands for its UTF-8 bytes in a
double-quoted string, when no `$` follows it. -/
theorem readQuoted_escapeQuotes {ys : List Char} (hys : ys.head? ≠ some '$') :
    ∀ {l : List Char}, '\\' ∉ l → '$' ∉ l →
      readQuoted (escapeQuotes l ++ ys) =
        (readQuoted ys).map (Prod.map (l.flatMap String.utf8EncodeChar ++ ·) id)
  | [], _, _ => by
    simp only [escapeQuotes, List.flatMap_nil, List.nil_append]
    cases readQuoted ys <;> rfl
  | c :: l, hb, hd => by
    simp only [List.mem_cons, not_or] at hb hd
    have ih := readQuoted_escapeQuotes hys hb.2 hd.2
    rw [escapeQuotes_cons, List.append_assoc, List.flatMap_cons]
    split
    · -- an escaped quote stands for the quote's byte
      rename_i hq
      have hc : c = '"' := by simpa using hq
      subst hc
      have hstep : quotedStep ('\\' :: '"' :: (escapeQuotes l ++ ys)) = .bytes [34] (escapeQuotes l ++ ys) :=
        rfl
      rw [List.cons_append, List.cons_append, List.nil_append, readQuoted_of_bytes hstep, ih,
        map_prepend_map_prepend]
      rfl
    · rename_i hq
      have hstep : quotedStep (c :: (escapeQuotes l ++ ys)) =
          .bytes (String.utf8EncodeChar c) (escapeQuotes l ++ ys) :=
        quotedStep_plain (by simpa using hq) (Ne.symm hb.1) (Ne.symm hd.1)
          fun _ => head?_escapeQuotes_append hd.2 hys
      rw [List.singleton_append, readQuoted_of_bytes hstep, ih, map_prepend_map_prepend]

/-- The lines, their quotes escaped and `\n` between them, read as the lines joined by line
feeds up to the closing quote. -/
theorem readQuoted_lines :
    ∀ ls : List (List Char), (∀ l ∈ ls, '\\' ∉ l ∧ '$' ∉ l) →
      readQuoted (escapeQuotes (['\\', 'n'].intercalate ls) ++ ['"']) =
        some ((['\n'].intercalate ls).flatMap String.utf8EncodeChar, [])
  | [], _ => readQuoted_of_close rfl
  | [l], h => by
    rw [List.intercalate_singleton, List.intercalate_singleton,
      readQuoted_escapeQuotes (by decide) (h l List.mem_cons_self).1 (h l List.mem_cons_self).2,
      readQuoted_of_close rfl]
    simp
  | l :: l' :: ls, h => by
    have hl := h l List.mem_cons_self
    have hrest := readQuoted_lines (l' :: ls) fun x hx => h x (List.mem_cons_of_mem l hx)
    have hsep : quotedStep ('\\' :: 'n' :: (escapeQuotes (['\\', 'n'].intercalate (l' :: ls)) ++ ['"'])) =
        .bytes [10] (escapeQuotes (['\\', 'n'].intercalate (l' :: ls)) ++ ['"']) := rfl
    rw [List.intercalate_cons_cons, List.intercalate_cons_cons, escapeQuotes_append, escapeQuotes_append,
      List.append_assoc, List.append_assoc, readQuoted_escapeQuotes (by simp [escapeQuotes]) hl.1 hl.2]
    rw [show escapeQuotes ['\\', 'n'] ++ (escapeQuotes (['\\', 'n'].intercalate (l' :: ls)) ++ ['"']) =
      '\\' :: 'n' :: (escapeQuotes (['\\', 'n'].intercalate (l' :: ls)) ++ ['"']) from rfl,
      readQuoted_of_bytes hsep, hrest]
    have hlf : String.utf8EncodeChar '\n' = [10] := rfl
    simp [List.flatMap_append, hlf]

/-! ## The cell text channel -/

/-- The four passes over a written cell: its lines, quotes escaped, with `\n` between. -/
theorem decodeCellText_cellMarkup {lines : List String} (h : ∀ l ∈ lines, ¬ HasLineBreak l.toList) :
    (decodeCellText (cellMarkup lines)).toList =
      escapeQuotes (['\\', 'n'].intercalate (lines.map String.toList)) := by
  unfold decodeCellText
  simp only [String.toList_ofList]
  rw [replaceAll_nbsp_cellMarkup, decodeEntities_cellMarkup,
    markLineBreaks_intercalate _ (by simpa using h)]

/-- The cell text channel is faithful for lines without backslashes, `$` and line break tags:
between double quotes, the decoded text of the cell a recorder writes for them is one PHP
string literal, whose value is the UTF-8 form of the lines joined by line feeds. -/
theorem cell_lines_read_back (lines : List String)
    (h : ∀ l ∈ lines, '\\' ∉ l.toList ∧ '$' ∉ l.toList ∧ ¬ HasLineBreak l.toList) :
    doubleQuotedValue? ("\"" ++ decodeCellText (cellMarkup lines) ++ "\"").toList =
      some (("\n".intercalate lines).toList.flatMap String.utf8EncodeChar) := by
  have hplain : ∀ l ∈ lines.map String.toList, '\\' ∉ l ∧ '$' ∉ l := by
    simp only [List.mem_map]
    rintro _ ⟨l, hl, rfl⟩
    exact ⟨(h l hl).1, (h l hl).2.1⟩
  have hread := readQuoted_lines _ hplain
  rw [String.toList_append, String.toList_append, decodeCellText_cellMarkup fun l hl => (h l hl).2.2,
    String.toList_intercalate]
  simp only [doubleQuotedValue?, show "\"".toList = ['"'] from rfl, List.cons_append, List.nil_append, hread]
  rfl

/-- Two lines with a quote and markup characters read back through a cell. -/
theorem quoted_markup_lines_read_back :
    doubleQuotedValue? ("\"" ++ decodeCellText (cellMarkup ["say \"hi\"", "a < b & c"]) ++ "\"").toList =
      some (("\n".intercalate ["say \"hi\"", "a < b & c"]).toList.flatMap String.utf8EncodeChar) :=
  cell_lines_read_back _ (by decide)

/-- The three ways a line breaks the channel: a line `<br>` becomes a line feed, a line `$a`
interpolates a variable, and a line `a\` escapes the closing quote. -/
theorem cell_text_breaks_three_ways :
    doubleQuotedValue? ("\"" ++ decodeCellText (cellMarkup ["<br>"]) ++ "\"").toList = some [10] ∧
    doubleQuotedValue? ("\"" ++ decodeCellText (cellMarkup ["$a"]) ++ "\"").toList = none ∧
    doubleQuotedValue? ("\"" ++ decodeCellText (cellMarkup ["a\\"]) ++ "\"").toList = none := by
  decide +kernel

end Transcribe.Markup
