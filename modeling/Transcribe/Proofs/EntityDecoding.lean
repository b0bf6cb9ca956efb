import Transcribe.Proofs.CellText
/-!
# `Proofs.EntityDecoding` — character references decoded by the rules, left to right

`decodeEntities` replaces the character references of a text. This module states the rules
of that replacement without the decoder's reader, and proves that the decoder follows them
on every text.

**The rules.** A reference is written `&#` and decimal digits, `&#x` or `&#X` and hexadecimal
digits, or `&`, a letter and letters and digits, closed by `;` (`CharRef.WellFormed`); the
digits and the name are maximal runs, as nothing of their class is `;`. A numeric reference
stands for the character whose code its digits write in their base, read as a number
without bound (`CharRef.code?`), when that code is a Unicode scalar value: at most
U+10FFFF and no surrogate (`IsScalarValue`). A named reference stands for the character of
its name in `namedTable`, the case of the name included. Any other reference stands for
itself as written (`CharRef.meaning`). A text is read from the left (`Decodes`): a
reference at the front is replaced by what it stands for and reading goes on after its
`;`, so what it stands for is never read again; a character that starts no reference is
copied.

## What is proved

`decodeEntities_follows_reference_rules`: for every text `s`, `decodeEntities s` is the one
text that `s` decodes to by the rules; and decoding undoes the escaping of `&`, `<`, `>`,
`"` and `'` as `&amp;`, `&lt;`, `&gt;`, `&quot;` and `&apos;` (`xmlEscape`).

In particular a number of `2^32` or more never wraps around to a character, and surrogates
and codes past U+10FFFF are kept as written (the examples below the theorem).

## How

The decoder's reader is described once in each direction: it reads a reference exactly when
the text starts with a well-formed one (`CharRef.read?_eq_some_iff`), and then the
decoding step gives what that reference stands for (`referenceAt_eq_some_iff`): the number
the decoder folds up is the one `Nat.ofDigits` writes (`digitsValue_eq_ofDigits`). The walk
`substitute referenceAt` then meets the rules by functional induction, and a decoding by the
rules is the walk's by induction on the rules.
-/

namespace Transcribe.Markup

open Transcribe.Text

/-! ## The rules -/

/-- A reference as written follows the grammar: one or more decimal digits after `&#`, one
or more hexadecimal digits after `&#x` or `&#X`, or a name that is a letter followed by
letters and digits. -/
def CharRef.WellFormed : CharRef → Prop
  | .decimal ds => ds ≠ [] ∧ ds.all Char.isDigit = true
  | .hex x ds => (x = 'x' ∨ x = 'X') ∧ ds ≠ [] ∧ ds.all isHexDigit = true
  | .named [] => False
  | .named (c :: n) => c.isAlpha = true ∧ n.all Char.isAlphanum = true

instance : DecidablePred CharRef.WellFormed
  | .decimal _ => inferInstanceAs (Decidable (_ ∧ _))
  | .hex _ _ => inferInstanceAs (Decidable (_ ∧ _))
  | .named [] => inferInstanceAs (Decidable False)
  | .named (_ :: _) => inferInstanceAs (Decidable (_ ∧ _))

/-- The code a numeric reference writes: its digits in base ten or sixteen, most
significant first, as a number without bound. -/
def CharRef.code? : CharRef → Option Nat
  | .decimal ds => some (Nat.ofDigits 10 (ds.map fun d => d.toNat - '0'.toNat).reverse)
  | .hex _ ds => some (Nat.ofDigits 16 (ds.map hexValue).reverse)
  | .named _ => none

/-- A Unicode scalar value: a code point that is not a surrogate. -/
def IsScalarValue (n : Nat) : Prop := n < 0xD800 ∨ (0xDFFF < n ∧ n ≤ 0x10FFFF)

instance : DecidablePred IsScalarValue := fun _ => inferInstanceAs (Decidable (_ ∨ _))

/-- The character a reference stands for, if any: that of its code when the code is a scalar
value, or that of its name in the table. -/
def CharRef.character? : CharRef → Option Char
  | .named n => namedTable.lookup (String.ofList n)
  | r => r.code?.bind fun n => if IsScalarValue n then some (Char.ofNat n) else none

/-- What a reference stands for: its character, or else itself as written. -/
def CharRef.meaning (r : CharRef) : List Char :=
  match r.character? with
  | some c => [c]
  | none => r.text

/-- How a text decodes by the rules, read from the left: a well-formed reference at the
front stands for its meaning and reading goes on after its `;`; a character that starts no
well-formed reference is copied. -/
inductive Decodes : List Char → List Char → Prop
  | nil : Decodes [] []
  | reference {r : CharRef} {rest out : List Char} :
      r.WellFormed → Decodes rest out → Decodes (r.text ++ rest) (r.meaning ++ out)
  | copy {c : Char} {cs out : List Char} :
      (∀ (r : CharRef) rest, r.WellFormed → c :: cs ≠ r.text ++ rest) → Decodes cs out →
      Decodes (c :: cs) (c :: out)

/-! ## The decoder's reader -/

theorem CharRef.text_eq_cons (r : CharRef) : ∃ t, r.text = '&' :: t := by
  cases r <;> exact ⟨_, rfl⟩

/-- A closed run read by `closedRun` is a non-empty run of the class followed by `;`, which
is not of the class. -/
theorem closedRun_eq_some_iff {p : Char → Bool} (hp : p ';' = false) (cs run rest : List Char) :
    closedRun p cs = some (run, rest) ↔ run ≠ [] ∧ run.all p = true ∧ cs = run ++ ';' :: rest := by
  constructor
  · intro h
    dsimp only [closedRun] at h
    split at h
    case h_1 x xs rest' hrun hdrop =>
      cases h
      refine ⟨by simp [hrun], List.all_eq_true.2 fun y hy => List.mem_takeWhile_imp hy, ?_⟩
      rw [← hdrop, List.takeWhile_append_dropWhile]
    case h_2 => cases h
  · rintro ⟨hne, hall, rfl⟩
    have hrun : (run ++ ';' :: rest).takeWhile p = run := by
      rw [List.takeWhile_append_of_pos (List.all_eq_true.1 hall), List.takeWhile_cons_of_neg
        (by simp [hp]), List.append_nil]
    have hdrop : (run ++ ';' :: rest).dropWhile p = ';' :: rest := by
      rw [List.dropWhile_append_of_pos (List.all_eq_true.1 hall), List.dropWhile_cons_of_neg
        (by simp [hp])]
    obtain ⟨x, xs, rfl⟩ := List.exists_cons_of_ne_nil hne
    simp only [closedRun, hrun, hdrop]

theorem closedRun_of_not {p : Char → Bool} {c : Char} (hc : p c = false) (cs : List Char) :
    closedRun p (c :: cs) = none := by
  simp [closedRun, hc]

/-- What the reader reads is a well-formed reference at the front of the text. -/
theorem CharRef.wellFormed_of_read? {cs rest : List Char} {r : CharRef}
    (h : CharRef.read? cs = some (r, rest)) : r.WellFormed ∧ cs = r.text ++ rest := by
  unfold CharRef.read? at h
  split at h
  case h_1 cs' =>
    split at h
    case h_1 ds rest' hrun =>
      cases h
      obtain ⟨hne, hall, rfl⟩ := (closedRun_eq_some_iff (by decide) _ _ _).1 hrun
      exact ⟨⟨hne, hall⟩, by simp [CharRef.text]⟩
    case h_2 =>
      split at h
      case h_1 x cs'' =>
        split at h
        case isTrue hx =>
          obtain ⟨⟨ds, rest'⟩, hrun, he⟩ := Option.map_eq_some_iff.1 h
          cases he
          obtain ⟨hne, hall, rfl⟩ := (closedRun_eq_some_iff (by decide) _ _ _).1 hrun
          exact ⟨⟨by simpa using hx, hne, hall⟩, by simp [CharRef.text]⟩
        case isFalse => cases h
      case h_2 => cases h
  case h_2 c cs' hnot =>
    split at h
    case isTrue hc =>
      obtain ⟨⟨n, rest'⟩, hrun, he⟩ := Option.map_eq_some_iff.1 h
      cases he
      obtain ⟨hne, hall, hcs⟩ := (closedRun_eq_some_iff (by decide) _ _ _).1 hrun
      -- the name starts with the letter that the reader saw
      obtain ⟨d, n, rfl⟩ := List.exists_cons_of_ne_nil hne
      obtain ⟨rfl, rfl⟩ := List.cons.inj hcs
      simp only [List.all_cons, Bool.and_eq_true] at hall
      exact ⟨⟨hc, hall.2⟩, by simp [CharRef.text]⟩
    case isFalse => cases h
  case h_3 => cases h

/-- The reader reads a well-formed reference at the front of the text, and stops after its
`;`. -/
theorem CharRef.read?_text {r : CharRef} (hwf : r.WellFormed) (rest : List Char) :
    CharRef.read? (r.text ++ rest) = some (r, rest) := by
  cases r with
  | decimal ds =>
    obtain ⟨hne, hall⟩ := hwf
    simp [CharRef.read?, CharRef.text,
      (closedRun_eq_some_iff (by decide) _ ds rest).2 ⟨hne, hall, rfl⟩]
  | hex x ds =>
    obtain ⟨hx, hne, hall⟩ := hwf
    -- `x` is no digit, so the decimal reading fails at once
    have hxd : Char.isDigit x = false := by rcases hx with rfl | rfl <;> decide
    have hxx : (x == 'x' || x == 'X') = true := by rcases hx with rfl | rfl <;> decide
    simp [CharRef.read?, CharRef.text, closedRun_of_not hxd, hxx,
      (closedRun_eq_some_iff (by decide) _ ds rest).2 ⟨hne, hall, rfl⟩]
  | named n =>
    obtain _ | ⟨c, n⟩ := n
    · exact hwf.elim
    obtain ⟨hc, hall⟩ := hwf
    have hsharp : c ≠ '#' := by
      rintro rfl
      cases hc
    have hrun := (@closedRun_eq_some_iff Char.isAlphanum (by decide) (c :: (n ++ ';' :: rest))
      (c :: n) rest).2
      ⟨by simp, by simp [hall, Char.isAlphanum, hc], rfl⟩
    simp only [CharRef.text, List.cons_append, List.append_assoc]
    unfold CharRef.read?
    split
    case h_1 hcs => exact absurd (List.cons.inj (List.cons.inj hcs).2).1 hsharp
    case h_2 c' cs' _ hcs =>
      obtain ⟨rfl, rfl⟩ := List.cons.inj (List.cons.inj hcs).2
      rw [List.nil_append, if_pos hc, hrun]
      rfl
    case h_3 hno => exact absurd rfl (hno c (n ++ ';' :: rest))

/-- The reader reads a reference exactly where the text starts with a well-formed one. -/
theorem CharRef.read?_eq_some_iff (cs rest : List Char) (r : CharRef) :
    CharRef.read? cs = some (r, rest) ↔ r.WellFormed ∧ cs = r.text ++ rest :=
  ⟨CharRef.wellFormed_of_read?, fun ⟨hwf, hcs⟩ => hcs ▸ CharRef.read?_text hwf rest⟩

/-! ## What the decoder makes of a reference -/

/-- The decoder's fold over digits writes the number `Nat.ofDigits` writes. -/
theorem digitsValue_eq_ofDigits (base : Nat) (value : Char → Nat) (ds : List Char) :
    digitsValue base value ds = Nat.ofDigits base (ds.map value).reverse := by
  rw [Nat.ofDigits_eq_foldr, List.foldr_reverse, List.foldl_map, digitsValue]
  congr 1
  funext n d
  simp [Nat.mul_comm, Nat.add_comm]

theorem scalar?_eq (n : Nat) : scalar? n = if IsScalarValue n then some (Char.ofNat n) else none := by
  have h : n.isValidChar ↔ IsScalarValue n := by
    simp only [Nat.isValidChar, IsScalarValue]
    omega
  unfold scalar?
  by_cases hn : IsScalarValue n
  · rw [if_pos (h.2 hn), if_pos hn]
  · rw [if_neg (mt h.1 hn), if_neg hn]

theorem CharRef.decode?_eq_character? (r : CharRef) : r.decode? = r.character? := by
  cases r <;> simp [CharRef.decode?, CharRef.character?, CharRef.code?, scalar?_eq,
    digitsValue_eq_ofDigits]

/-- The decoding step is the reader, with each reference replaced by what it stands for. -/
theorem referenceAt_eq_map (cs : List Char) :
    referenceAt cs = (CharRef.read? cs).map fun (r, rest) => (r.meaning, rest) := by
  unfold referenceAt
  congr 1
  funext ⟨r, rest⟩
  dsimp only [CharRef.meaning]
  rw [← CharRef.decode?_eq_character?]
  cases r.decode? <;> rfl

/-- The decoding step reads a reference exactly where the text starts with a well-formed
one, and gives what it stands for. -/
theorem referenceAt_eq_some_iff (cs out rest : List Char) :
    referenceAt cs = some (out, rest) ↔
      ∃ r : CharRef, r.WellFormed ∧ cs = r.text ++ rest ∧ out = r.meaning := by
  rw [referenceAt_eq_map, Option.map_eq_some_iff]
  constructor
  · rintro ⟨⟨r, rest'⟩, hr, he⟩
    obtain ⟨hwf, rfl⟩ := (CharRef.read?_eq_some_iff _ _ _).1 hr
    obtain ⟨rfl, rfl⟩ := Prod.mk.inj he
    exact ⟨r, hwf, rfl, rfl⟩
  · rintro ⟨r, hwf, rfl, rfl⟩
    exact ⟨(r, rest), (CharRef.read?_eq_some_iff _ _ _).2 ⟨hwf, rfl⟩, rfl⟩

theorem referenceAt_eq_none_iff (cs : List Char) :
    referenceAt cs = none ↔ ∀ r rest, CharRef.WellFormed r → cs ≠ r.text ++ rest := by
  constructor
  · intro h r rest hwf hcs
    have hsome := (referenceAt_eq_some_iff cs r.meaning rest).2 ⟨r, hwf, hcs, rfl⟩
    rw [h] at hsome
    cases hsome
  · intro h
    cases hr : referenceAt cs with
    | none => rfl
    | some p =>
      obtain ⟨r, hwf, hcs, -⟩ := (referenceAt_eq_some_iff cs p.1 p.2).1 hr
      exact absurd hcs (h r p.2 hwf)

/-! ## The walk follows the rules -/

/-- A reference at the front is decoded in one step, and the walk goes on after its `;`. -/
theorem substitute_reference {r : CharRef} (hwf : r.WellFormed) (rest : List Char) :
    substitute referenceAt (r.text ++ rest) = r.meaning ++ substitute referenceAt rest := by
  obtain ⟨t, ht⟩ := r.text_eq_cons
  have hstep := (referenceAt_eq_some_iff (r.text ++ rest) r.meaning rest).2 ⟨r, hwf, rfl, rfl⟩
  rw [ht, List.cons_append] at hstep ⊢
  exact substitute_cons_of_some hstep (by simp only [List.length_append]; omega)

theorem decodes_substitute (cs : List Char) : Decodes cs (substitute referenceAt cs) := by
  fun_induction substitute referenceAt cs with
  | case1 => exact .nil
  | case2 c cs out rest hm _ ih =>
    obtain ⟨r, hwf, hcs, rfl⟩ := (referenceAt_eq_some_iff _ _ _).1 hm
    rw [hcs]
    exact .reference hwf ih
  | case3 c cs out rest hm hlong _ =>
    -- a reference is at least three characters long, so the rest is shorter
    obtain ⟨r, -, hcs, -⟩ := (referenceAt_eq_some_iff _ _ _).1 hm
    obtain ⟨t, ht⟩ := r.text_eq_cons
    have hlen := congrArg List.length hcs
    simp only [ht, List.cons_append, List.length_cons, List.length_append] at hlen
    omega
  | case4 c cs hm ih => exact .copy ((referenceAt_eq_none_iff _).1 hm) ih

theorem Decodes.eq_substitute {cs out : List Char} (h : Decodes cs out) :
    out = substitute referenceAt cs := by
  induction h with
  | nil => rw [substitute_nil]
  | reference hwf _ ih => rw [substitute_reference hwf, ih]
  | copy hno _ ih => rw [substitute_cons_of_none ((referenceAt_eq_none_iff _).2 hno), ih]

theorem decodes_iff (cs out : List Char) : Decodes cs out ↔ substitute referenceAt cs = out :=
  ⟨fun h => h.eq_substitute.symm, fun h => h ▸ decodes_substitute cs⟩

/-! ## Escaped text -/

/-- How XML escapes a character: `&`, `<`, `>`, `"` and `'` by their named references. -/
def xmlEscapeChar : Char → List Char
  | '&' => (CharRef.named ['a', 'm', 'p']).text
  | '<' => (CharRef.named ['l', 't']).text
  | '>' => (CharRef.named ['g', 't']).text
  | '"' => (CharRef.named ['q', 'u', 'o', 't']).text
  | '\'' => (CharRef.named ['a', 'p', 'o', 's']).text
  | c => [c]

/-- A text with every character escaped as XML escapes it. -/
def xmlEscape (cs : List Char) : List Char := cs.flatMap xmlEscapeChar

/-- A character that is not `&` starts no reference. -/
theorem not_reference_of_ne {c : Char} (hc : c ≠ '&') (cs : List Char) :
    ∀ r rest, CharRef.WellFormed r → c :: cs ≠ r.text ++ rest := by
  intro r rest _ h
  obtain ⟨t, ht⟩ := r.text_eq_cons
  rw [ht, List.cons_append, List.cons.injEq] at h
  exact hc h.1

theorem decodes_xmlEscape (cs : List Char) : Decodes (xmlEscape cs) cs := by
  induction cs with
  | nil => exact .nil
  | cons c cs ih =>
    rw [xmlEscape, List.flatMap_cons, ← xmlEscape]
    -- an escaped character is one named reference, which stands for that character
    have hname : ∀ n : List Char, CharRef.WellFormed (.named n) →
        (CharRef.named n).meaning = [c] →
        Decodes ((CharRef.named n).text ++ xmlEscape cs) (c :: cs) :=
      fun n hwf hm => by
        have h := Decodes.reference hwf ih
        rw [hm] at h
        exact h
    unfold xmlEscapeChar
    split
    case h_6 hamp _ _ _ _ => exact .copy (not_reference_of_ne hamp _) ih
    -- the five escaped characters
    all_goals exact hname _ (by decide) (by decide)

/-- `decodeEntities` is the decoding by the rules, on every text: the text it gives is the one
the rules give, and it undoes XML escaping. -/
theorem decodeEntities_follows_reference_rules (s : String) :
    (∀ t : String, decodeEntities s = t ↔ Decodes s.toList t.toList) ∧
      decodeEntities (String.ofList (xmlEscape s.toList)) = s := by
  refine ⟨fun t => ?_, ?_⟩
  · rw [decodes_iff, decodeEntities]
    constructor
    · rintro rfl
      rw [String.toList_ofList]
    · intro h
      rw [h, String.ofList_toList]
  · rw [decodeEntities, String.toList_ofList, (decodes_iff _ _).1 (decodes_xmlEscape _),
      String.ofList_toList]

/- A code of `2^32 + 65` is kept, not wrapped to `A`; so are a surrogate, a code past U+10FFFF,
an unknown one-letter name and a known name in the wrong case. -/
example : decodeEntities "&#4294967361;&#xD800;&#1114112;&a;&AMP;&#x41;" =
    "&#4294967361;&#xD800;&#1114112;&a;&AMP;A" := by decide +kernel

end Transcribe.Markup
