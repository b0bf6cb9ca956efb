import Transcribe.Proofs.TextConditions
/-!
# `Proofs.WildcardRegex` — what the regex of a confirmation check matches

`assertConfirmation` and `verifyConfirmation` match the confirmation against the step's
target, a recorder wildcard pattern in which `?` stands for any one character, with the code
`patternMatch p subject`:

    (bool)preg_match('/^R$/', subject)

where `R = patternToRegex p` is the pattern with each `?` replaced by `[\s\S]` and every other
character left as it is.

**PHP and PCRE, as far as these regexes go.** The single-quoted literal is read with
`singleValue` (`\\` and `\'` stand for one character). `preg_match` takes the first character
as the delimiter `/` and the text up to the next `/` as the pattern; nothing follows the
closing delimiter here, so there are no modifiers (`delimited`). PCRE then runs without
`u`, on bytes: a character of the pattern stands for its UTF-8 bytes, `.` for any byte but a
line feed, `[\s\S]` for any byte, `^` for the subject's start, and `$` for its end or the
position before a line feed that ends it (`parseRegex`, `matchHere`). `preg_match` tries
every start position (`searchFrom`). A regex outside this fragment is given no answer
(`pregMatch` is `none`).

## What is proved

`confirmation_regex_matches_bytes`: for every pattern `p` whose characters are `?` or no
PCRE operator, `/`, `'` or NUL (`isPlainChar`), the code is the call on the literal
`regexLiteral p`, which holds no quote, and for every subject of bytes `s` `preg_match`
answers whether `s`, or `s` without one final line feed, fits `p` byte by byte: as long as
`wildBytes p`, one byte for each `?` and the UTF-8 bytes of every other character, and equal
to it wherever it asks for a byte (`fitsLine`).

So for ASCII patterns and subjects that do not end in a line feed the regex matches exactly
when the subject is as long as the pattern and agrees with it wherever the pattern has no
`?` (`pregMatch_regexLiteral_ascii`). Outside those bounds it does not:

* the pattern is not escaped, so a `.` in it matches any character
  (`dot_in_pattern_matches_any_character`), and `*`, `+`, `(`, `[`, … are operators;
* `$` also matches before a final line feed, so `a` matches `a` followed by a line feed;
* PCRE without `u` reads bytes, so `?` takes one byte of a character and not the character.
-/

namespace Transcribe.Php

/-! ## The regexes -/

/-- The nodes of the regexes that a confirmation check is made of. -/
inductive Node where
  /-- `^` -/
  | start
  /-- `$` -/
  | finish
  | byte (b : UInt8)
  /-- `.`, any byte but a line feed. -/
  | dot
  /-- `[\s\S]`, any byte. -/
  | anyByte
  deriving DecidableEq, Repr

/-- The characters that PCRE reads as operators outside a class. -/
def regexSpecial : List Char := ['\\', '^', '$', '.', '|', '?', '*', '+', '(', ')', '[', '{']

/-- Reads a PCRE pattern of the fragment; `none` outside it. -/
def parseRegex : List Char → Option (List Node)
  | [] => some []
  | c :: r =>
    if c = '^' then (parseRegex r).map (.start :: ·)
    else if c = '$' then (parseRegex r).map (.finish :: ·)
    else if c = '.' then (parseRegex r).map (.dot :: ·)
    else if c = '[' then
      match r with
      | '\\' :: 's' :: '\\' :: 'S' :: ']' :: r' => (parseRegex r').map (.anyByte :: ·)
      | _ => none
    else if c ∈ regexSpecial then none
    else (parseRegex r).map ((String.utf8EncodeChar c).map .byte ++ ·)

/-- Whether the nodes match from a position of the subject: `first` says whether it is the
subject's start, and `rest` is the subject from there. -/
def matchHere : List Node → Bool → List UInt8 → Bool
  | [], _, _ => true
  | .start :: ns, first, rest => first && matchHere ns first rest
  | .finish :: ns, first, rest => (rest.isEmpty || rest == [10]) && matchHere ns first rest
  | .byte b :: ns, _, c :: rest => c == b && matchHere ns false rest
  | .dot :: ns, _, c :: rest => c != 10 && matchHere ns false rest
  | .anyByte :: ns, _, _ :: rest => matchHere ns false rest
  | _ :: _, _, [] => false

/-- Whether the nodes match from some position of the subject on. -/
def searchFrom (ns : List Node) : Bool → List UInt8 → Bool
  | first, [] => matchHere ns first []
  | first, c :: rest => matchHere ns first (c :: rest) || searchFrom ns false rest

/-- The pattern between the delimiters `/`, when nothing follows the closing one. -/
def delimited : List Char → Option (List Char)
  | '/' :: r =>
    match r.span (· != '/') with
    | (body, ['/']) => some body
    | _ => none
  | _ => none

/-- What `preg_match` answers for the single-quoted literal written `literal` and a subject of
bytes `s`; `none` when the regex is outside the fragment. -/
def pregMatch (literal : List Char) (s : List UInt8) : Option Bool :=
  (delimited (singleValue literal) >>= parseRegex).map fun ns => searchFrom ns true s

/-- The literal that `patternMatch` hands to `preg_match`. -/
def regexLiteral (p : String) : String := "/^" ++ patternToRegex p ++ "$/"

/-! ## The patterns -/

/-- A pattern character that reaches the regex as itself or as the wildcard: `?`, or no PCRE
operator, no `/` (the delimiter), no `'` (the quote of the literal) and no NUL. -/
def isPlainChar (c : Char) : Bool :=
  c == '?' || !(regexSpecial.contains c || c == '/' || c == '\'' || c.toNat == 0)

/-- What a pattern asks of the subject's bytes, one by one: `?` any byte (`none`), any other
character its own UTF-8 bytes. -/
def wildBytes (p : List Char) : List (Option UInt8) :=
  p.flatMap fun c => if c = '?' then [none] else (String.utf8EncodeChar c).map some

/-- Whether a byte is what `x` asks for. -/
def fitsByte : Option UInt8 → UInt8 → Bool
  | none, _ => true
  | some b, c => c == b

/-- Whether the bytes are as many as `w` asks for, each what it asks. -/
def fits : List (Option UInt8) → List UInt8 → Bool
  | [], [] => true
  | x :: w, c :: s => fitsByte x c && fits w s
  | _, _ => false

/-- The subject, or the subject without one final line feed, fits. -/
def fitsLine (w : List (Option UInt8)) (s : List UInt8) : Bool :=
  fits w s || (s.getLast? == some 10 && fits w s.dropLast)

/-- The recorder's reading of a wildcard pattern: as many characters, equal wherever the
pattern has no `?`. -/
def wildcardMatch : List Char → List Char → Bool
  | [], [] => true
  | c :: p, d :: s => (c == '?' || c == d) && wildcardMatch p s
  | _, _ => false

/-- The bytes PHP holds for a text: the UTF-8 bytes of its characters. -/
def utf8Bytes (cs : List Char) : List UInt8 := cs.flatMap String.utf8EncodeChar

/-- The node that asks what a byte of `wildBytes` asks. -/
def Node.ofWild : Option UInt8 → Node
  | none => .anyByte
  | some b => .byte b

/-- The characters of the regex that a pattern becomes. -/
def regexChars (p : List Char) : List Char :=
  p.flatMap fun c => if c = '?' then ['[', '\\', 's', '\\', 'S', ']'] else [c]

/-! ## The literal -/

section Plain

variable {p : List Char}

theorem toList_patternToRegex (p : String) : (patternToRegex p).toList = regexChars p.toList := by
  simp only [patternToRegex, regexChars, String.toList_ofList, beq_iff_eq]
  rfl

/-- The code of a confirmation check quotes `regexLiteral p`. -/
theorem patternMatch_eq (p subject : String) :
    patternMatch p subject = "(bool)preg_match('" ++ regexLiteral p ++ "', " ++ subject ++ ")" := by
  unfold patternMatch regexLiteral
  -- regrouped by hand: closing a goal between the two by reflexivity would evaluate the texts
  rewrite [← @String.append_assoc "(bool)preg_match('" (_ ++ _) "$/",
    ← @String.append_assoc "(bool)preg_match('" "/^", @String.append_assoc _ "$/" "', "]
  simp only [String.reduceAppend]

theorem toList_regexLiteral (p : String) :
    (regexLiteral p).toList = '/' :: '^' :: (regexChars p.toList ++ ['$', '/']) := by
  simp [regexLiteral, toList_patternToRegex]

theorem isPlainChar_iff {c : Char} :
    isPlainChar c = true ↔
      c = '?' ∨ (c ∉ regexSpecial ∧ c ≠ '/' ∧ c ≠ '\'' ∧ c.toNat ≠ 0) := by
  simp [isPlainChar, and_assoc]

/-- A plain character other than `?` is none of the characters that the reading of the
literal, the delimiters or the parser look at. -/
theorem ne_of_not_special {c : Char} (hs : c ∉ regexSpecial) :
    c ≠ '\\' ∧ c ≠ '^' ∧ c ≠ '$' ∧ c ≠ '.' ∧ c ≠ '[' ∧ c ≠ '?' := by
  refine ⟨?_, ?_, ?_, ?_, ?_, ?_⟩ <;> rintro rfl <;> exact hs (by decide)

theorem singleValue_cons_of_ne {c : Char} (hc : c ≠ '\\') (r : List Char) :
    singleValue (c :: r) = c :: singleValue r :=
  singleValue.eq_3 c r (fun _ h => absurd h hc) (fun _ h => absurd h hc)

/-- A backslash before anything but a backslash or a quote stands for itself. -/
theorem singleValue_backslash {d : Char} (hd : d ≠ '\\') (hq : d ≠ '\'') (r : List Char) :
    singleValue ('\\' :: d :: r) = '\\' :: singleValue (d :: r) :=
  singleValue.eq_3 '\\' (d :: r) (fun _ _ h => hd (List.cons.inj h).1)
    (fun _ _ h => hq (List.cons.inj h).1)

/-- `[\s\S]` is its own value in a single-quoted literal: its backslashes escape nothing. -/
theorem singleValue_anyByteClass (r : List Char) :
    singleValue ('[' :: '\\' :: 's' :: '\\' :: 'S' :: ']' :: r) =
      '[' :: '\\' :: 's' :: '\\' :: 'S' :: ']' :: singleValue r := by
  rw [singleValue_cons_of_ne (by decide), singleValue_backslash (by decide) (by decide),
    singleValue_cons_of_ne (by decide), singleValue_backslash (by decide) (by decide),
    singleValue_cons_of_ne (by decide), singleValue_cons_of_ne (by decide)]

/-- The literal holds the regex of a plain pattern as it is: its only backslashes are those of
`[\s\S]`, which escape nothing in a single-quoted literal. -/
theorem singleValue_regexChars (hp : p.all isPlainChar = true) (rest : List Char) :
    singleValue (regexChars p ++ rest) = regexChars p ++ singleValue rest := by
  induction p with
  | nil => rfl
  | cons c p ih =>
    simp only [List.all_cons, Bool.and_eq_true] at hp
    have hrest := ih hp.2
    rcases isPlainChar_iff.1 hp.1 with rfl | ⟨hs, -, -, -⟩
    · simp only [regexChars, List.flatMap_cons, if_pos, List.cons_append, List.nil_append]
        at hrest ⊢
      rw [singleValue_anyByteClass, hrest]
    · have hc := ne_of_not_special hs
      simp only [regexChars, List.flatMap_cons, if_neg hc.2.2.2.2.2, List.cons_append,
        List.nil_append] at hrest ⊢
      rw [singleValue_cons_of_ne hc.1, hrest]

theorem not_mem_regexChars {c : Char} (hc : c = '/' ∨ c = '\'') (hp : p.all isPlainChar = true) :
    c ∉ regexChars p := by
  simp only [regexChars, List.mem_flatMap, not_exists, not_and]
  intro d hd
  split
  · rcases hc with rfl | rfl <;> decide
  · rcases isPlainChar_iff.1 (List.all_eq_true.1 hp d hd) with h | ⟨-, hslash, hquote, -⟩
    · contradiction
    · rcases hc with rfl | rfl
      · simpa using Ne.symm hslash
      · simpa using Ne.symm hquote

theorem span_append_slash {body : List Char} (hb : '/' ∉ body) (rest : List Char) :
    (body ++ '/' :: rest).span (· != '/') = (body, '/' :: rest) := by
  induction body with
  | nil => simp [List.span_eq_takeWhile_dropWhile]
  | cons c body ih =>
    have hc : c ≠ '/' := fun h => hb (h ▸ List.mem_cons_self)
    have ih' := ih fun h => hb (List.mem_cons_of_mem c h)
    simp only [List.span_eq_takeWhile_dropWhile, Prod.mk.injEq] at ih' ⊢
    simp [hc, ih']

/-! ## The parse -/

/-- The class `[\s\S]` is one node that takes any byte. -/
theorem parseRegex_anyByte (r : List Char) :
    parseRegex ('[' :: '\\' :: 's' :: '\\' :: 'S' :: ']' :: r) =
      (parseRegex r).map (.anyByte :: ·) := by
  rw [parseRegex.eq_2]
  simp

/-- A character that is no operator stands for its own bytes. -/
theorem parseRegex_literal {c : Char} (hs : c ∉ regexSpecial) (r : List Char) :
    parseRegex (c :: r) = (parseRegex r).map ((String.utf8EncodeChar c).map .byte ++ ·) := by
  obtain ⟨-, h1, h2, h3, h4, -⟩ := ne_of_not_special hs
  rw [parseRegex.eq_def]
  simp only [if_neg h1, if_neg h2, if_neg h3, if_neg h4, if_neg hs]

theorem parseRegex_caret (r : List Char) : parseRegex ('^' :: r) = (parseRegex r).map (.start :: ·) := by
  rw [parseRegex.eq_def]
  rfl

/-- The regex of a plain pattern is one node for each byte that the pattern asks for. -/
theorem parseRegex_regexChars (hp : p.all isPlainChar = true) (rest : List Char) :
    parseRegex (regexChars p ++ rest) =
      (parseRegex rest).map ((wildBytes p).map Node.ofWild ++ ·) := by
  induction p with
  | nil => simp [regexChars, wildBytes]
  | cons c p ih =>
    simp only [List.all_cons, Bool.and_eq_true] at hp
    have hrest := ih hp.2
    rcases isPlainChar_iff.1 hp.1 with rfl | ⟨hs, -, -, -⟩
    · simp only [regexChars, wildBytes, List.flatMap_cons, if_pos, List.cons_append,
        List.nil_append] at hrest ⊢
      rw [parseRegex_anyByte, hrest, Option.map_map]
      rfl
    · have hc := (ne_of_not_special hs).2.2.2.2.2
      simp only [regexChars, wildBytes, List.flatMap_cons, if_neg hc, List.cons_append,
        List.nil_append] at hrest ⊢
      rw [parseRegex_literal hs, hrest, Option.map_map]
      simp [Function.comp_def, Node.ofWild]

end Plain

/-! ## The match -/

theorem fitsLine_nil (s : List UInt8) : fitsLine [] s = (s == [] || s == [10]) := by
  match s with
  | [] => rfl
  | [c] => by_cases h : c = 10 <;> simp [fitsLine, fits, h]
  | c :: d :: s => simp [fitsLine, fits]

theorem fitsLine_cons_nil (x : Option UInt8) (w : List (Option UInt8)) :
    fitsLine (x :: w) [] = false := rfl

/-- A byte that fits its node leaves the rest to fit, final line feed and all. -/
theorem fitsLine_cons_cons (x : Option UInt8) (w : List (Option UInt8)) (c : UInt8)
    (s : List UInt8) : fitsLine (x :: w) (c :: s) = (fitsByte x c && fitsLine w s) := by
  cases s with
  | nil => simp [fitsLine, fits]
  | cons d s =>
    simp only [fitsLine, fits, List.getLast?_cons_cons, List.dropLast_cons_cons]
    cases fitsByte x c <;> simp

/-- Anchored at the end, the nodes of a pattern match exactly the subjects that fit it, with or
without one final line feed. -/
theorem matchHere_wild (w : List (Option UInt8)) (first : Bool) (s : List UInt8) :
    matchHere (w.map Node.ofWild ++ [.finish]) first s = fitsLine w s := by
  induction w generalizing first s with
  | nil =>
    rw [fitsLine_nil]
    cases s <;> simp [matchHere]
  | cons x w ih =>
    cases s with
    | nil => cases x <;> rfl
    | cons c s =>
      rw [fitsLine_cons_cons, ← ih false s]
      cases x <;> rfl

theorem searchFrom_start_false (ns : List Node) (s : List UInt8) :
    searchFrom (.start :: ns) false s = false := by
  induction s with
  | nil => rfl
  | cons c s ih => simp [searchFrom, matchHere, ih]

/-- A regex anchored with `^` is tried at the subject's start only. -/
theorem searchFrom_start (ns : List Node) (s : List UInt8) :
    searchFrom (.start :: ns) true s = matchHere ns true s := by
  cases s with
  | nil => simp [searchFrom, matchHere]
  | cons c s => simp [searchFrom, matchHere, searchFrom_start_false]

section Plain

variable {p : String}

theorem quote_not_mem_regexLiteral (hp : p.toList.all isPlainChar = true) :
    '\'' ∉ (regexLiteral p).toList := by
  rw [toList_regexLiteral]
  simpa using not_mem_regexChars (Or.inr rfl) hp

/-- `preg_match` on the literal of a plain pattern answers whether the subject fits the pattern
byte by byte, with or without one final line feed. -/
theorem pregMatch_regexLiteral (hp : p.toList.all isPlainChar = true) (s : List UInt8) :
    pregMatch (regexLiteral p).toList s = some (fitsLine (wildBytes p.toList) s) := by
  -- the literal's value is its text, its delimiters are the outer `/`, and the pattern
  -- between them is `^`, the nodes of `p`, then `$`
  have hvalue : singleValue (regexLiteral p).toList = (regexLiteral p).toList := by
    rw [toList_regexLiteral, singleValue_cons_of_ne (by decide), singleValue_cons_of_ne (by decide),
      singleValue_regexChars hp]
    rfl
  have hbody : delimited (regexLiteral p).toList = some ('^' :: (regexChars p.toList ++ ['$'])) := by
    have hsplit : '^' :: (regexChars p.toList ++ ['$', '/']) =
        ('^' :: (regexChars p.toList ++ ['$'])) ++ '/' :: [] := by
      simp
    have hslash : '/' ∉ '^' :: (regexChars p.toList ++ ['$']) := by
      simpa using not_mem_regexChars (Or.inl rfl) hp
    rw [toList_regexLiteral, hsplit, delimited, span_append_slash hslash]
    rfl
  have hparse : parseRegex ('^' :: (regexChars p.toList ++ ['$'])) =
      some (.start :: ((wildBytes p.toList).map Node.ofWild ++ [.finish])) := by
    rw [parseRegex_caret, parseRegex_regexChars hp]
    rfl
  rw [pregMatch, hvalue, hbody, Option.bind_eq_bind, Option.bind_some, hparse, Option.map_some,
    searchFrom_start, matchHere_wild]

/-- For a plain pattern `p`, the code is `preg_match` on the literal `regexLiteral p`, which holds
no quote, and `preg_match` answers for every subject of bytes whether it fits `p` byte by byte,
with or without one final line feed. -/
theorem confirmation_regex_matches_bytes (hp : p.toList.all isPlainChar = true)
    (subject : String) :
    patternMatch p subject = "(bool)preg_match('" ++ regexLiteral p ++ "', " ++ subject ++ ")" ∧
      '\'' ∉ (regexLiteral p).toList ∧
      ∀ s : List UInt8, pregMatch (regexLiteral p).toList s = some (fitsLine (wildBytes p.toList) s) :=
  ⟨patternMatch_eq p subject, quote_not_mem_regexLiteral hp, pregMatch_regexLiteral hp⟩

end Plain

/-- The test's pattern `Delete item?`, plain, with any subject. -/
theorem delete_item_regex_matches_bytes :
    "Delete item?".toList.all isPlainChar = true ∧
      (patternMatch "Delete item?" "$this->getConfirmation()" =
          "(bool)preg_match('" ++ regexLiteral "Delete item?" ++ "', " ++
            "$this->getConfirmation()" ++ ")" ∧
        '\'' ∉ (regexLiteral "Delete item?").toList ∧
        ∀ s : List UInt8, pregMatch (regexLiteral "Delete item?").toList s =
          some (fitsLine (wildBytes "Delete item?".toList) s)) :=
  have hp : "Delete item?".toList.all isPlainChar = true := by
    rw [Transcribe.toList_eq_of_eq_ofList rfl]
    decide
  ⟨hp, confirmation_regex_matches_bytes hp "$this->getConfirmation()"⟩

/-! ## ASCII patterns and subjects -/

/-- A character of ASCII. -/
def isAsciiChar (c : Char) : Bool := c.toNat < 128

theorem utf8EncodeChar_of_ascii {c : Char} (h : isAsciiChar c = true) :
    String.utf8EncodeChar c = [c.toUInt8] := by
  have hc : c.utf8Size = 1 := by
    rw [Char.utf8Size_eq_one_iff, UInt32.le_iff_toNat_le]
    have hlt : c.val.toNat < 128 := by simpa [isAsciiChar] using h
    have h127 : (127 : UInt32).toNat = 127 := rfl
    omega
  rw [String.utf8EncodeChar_eq_singleton hc, Char.toUInt8_val]

/-- Two ASCII characters have the same byte exactly when they are the same. -/
theorem toUInt8_eq_iff_of_ascii {c d : Char} (hc : isAsciiChar c = true)
    (hd : isAsciiChar d = true) : c.toUInt8 = d.toUInt8 ↔ c = d := by
  refine ⟨fun h => ?_, fun h => h ▸ rfl⟩
  have hc' : c.val.toNat < 128 := by simpa [isAsciiChar] using hc
  have hd' : d.val.toNat < 128 := by simpa [isAsciiChar] using hd
  have hnat := congrArg UInt8.toNat h
  rw [← Char.toUInt8_val, ← Char.toUInt8_val, UInt32.toNat_toUInt8, UInt32.toNat_toUInt8] at hnat
  exact Char.ext (UInt32.toNat_inj.1 (by omega))

theorem utf8Bytes_of_ascii {cs : List Char} (h : cs.all isAsciiChar = true) :
    utf8Bytes cs = cs.map Char.toUInt8 := by
  induction cs with
  | nil => rfl
  | cons c cs ih =>
    simp only [List.all_cons, Bool.and_eq_true] at h
    rw [utf8Bytes, List.flatMap_cons, utf8EncodeChar_of_ascii h.1, ← utf8Bytes, ih h.2]
    rfl

theorem wildBytes_of_ascii {p : List Char} (h : p.all isAsciiChar = true) :
    wildBytes p = p.map fun c => if c = '?' then none else some c.toUInt8 := by
  induction p with
  | nil => rfl
  | cons c p ih =>
    simp only [List.all_cons, Bool.and_eq_true] at h
    rw [wildBytes, List.flatMap_cons, ← wildBytes, ih h.2]
    by_cases hq : c = '?'
    · simp [hq]
    · simp [hq, utf8EncodeChar_of_ascii h.1]

/-- On ASCII characters, fitting byte by byte is the recorder's reading of the pattern. -/
theorem fits_of_ascii {p s : List Char} (hp : p.all isAsciiChar = true)
    (hs : s.all isAsciiChar = true) :
    fits (p.map fun c => if c = '?' then none else some c.toUInt8) (s.map Char.toUInt8) =
      wildcardMatch p s := by
  induction p generalizing s with
  | nil => cases s <;> rfl
  | cons c p ih =>
    cases s with
    | nil => rfl
    | cons d s =>
      simp only [List.all_cons, Bool.and_eq_true] at hp hs
      simp only [List.map_cons, fits, wildcardMatch, ih hp.2 hs.2]
      by_cases hq : c = '?'
      · simp [hq, fitsByte]
      · have hcd : (d.toUInt8 == c.toUInt8) = (c == d) := by
          rw [Bool.eq_iff_iff, beq_iff_eq, beq_iff_eq, toUInt8_eq_iff_of_ascii hs.1 hp.1]
          exact eq_comm
        have hq' : (c == '?') = false := by simpa using hq
        simp [hq, hq', fitsByte, hcd]

/-- A subject whose last byte is no line feed fits a line only as it is. -/
theorem fitsLine_of_getLast? {w : List (Option UInt8)} {s : List UInt8}
    (h : s.getLast? ≠ some 10) : fitsLine w s = fits w s := by
  simp [fitsLine, h]

/-- For ASCII, the regex of a plain pattern is the recorder's reading of it on every subject
that does not end in a line feed: as long as the pattern, and equal to it wherever it has no
`?`. -/
theorem pregMatch_regexLiteral_ascii {p s : String} (hp : p.toList.all isPlainChar = true)
    (hpa : p.toList.all isAsciiChar = true) (hsa : s.toList.all isAsciiChar = true)
    (hnl : s.toList.getLast? ≠ some '\n') :
    pregMatch (regexLiteral p).toList (utf8Bytes s.toList) = some (wildcardMatch p.toList s.toList) := by
  have hlast : (s.toList.map Char.toUInt8).getLast? ≠ some 10 := by
    rw [List.getLast?_map]
    intro h
    obtain ⟨d, hd, hd10⟩ := Option.map_eq_some_iff.1 h
    have hda : isAsciiChar d = true := List.all_eq_true.1 hsa d (List.mem_of_getLast? hd)
    exact hnl (hd ▸ congrArg some ((toUInt8_eq_iff_of_ascii hda (by decide)).1 hd10))
  rw [pregMatch_regexLiteral hp, utf8Bytes_of_ascii hsa, fitsLine_of_getLast? hlast,
    wildBytes_of_ascii hpa, fits_of_ascii hpa hsa]

/-- The pattern is pasted into the regex unescaped, so its `.` is PCRE's: `a.c` matches `abc`,
which the recorder's reading of the pattern does not. -/
theorem dot_in_pattern_matches_any_character :
    pregMatch (regexLiteral "a.c").toList (utf8Bytes "abc".toList) = some true ∧
      wildcardMatch "a.c".toList "abc".toList = false := by
  rw [toList_regexLiteral, @Transcribe.toList_eq_of_eq_ofList "a.c" _ rfl,
    @Transcribe.toList_eq_of_eq_ofList "abc" _ rfl]
  decide

end Transcribe.Php
