import Transcribe.Unicode.Category
import Transcribe.Unicode.Script
import Transcribe.Unicode.Property
import Transcribe.Unicode.Age
import Transcribe.Unicode.Segment
import Transcribe.Unicode.Names
/-!
# `Regex.Property` — the sets of characters a class `\p{…}` names

A Unicode class names a set in one of three ways.

* One letter, `\pL`, or a name, `\p{Greek}`, is looked up first as a yes-or-no
  property (`Alphabetic`, `White_Space`, …), then as a general category (`Lu`, `Letter`,
  and the three extras `Any`, `ASCII` and `Assigned`), then as a script. `cf`, `sc` and
  `lc` skip the first step: as property names they stand for case folding, the script
  property and lower-case mapping, but here they mean the categories Cf, Sc and LC.
* A name and a value, `\p{gc=Lu}`, `\p{sc:Greek}` or `\p{sc!=Latin}`, take the
  property by name and then the value: the general category, the script, the script
  extensions, the age (all code points assigned up to that version), and the three
  segmentation properties.

A name that no property has is refused as a property not found. So is a property that
is known but not a yes-or-no one, named alone (`\p{Block}`). A value that the property
does not have is refused as a property value not found, and so is any value of a known
property that cannot be used here (`\p{Block=Greek}`). Scripts that no character has
(Katakana_Or_Hiragana, Unknown) and values that no character has are not found either.
-/

namespace Transcribe.Regex

open Transcribe.Unicode

/-- What a class `\p…` asks for, as written. -/
inductive PropertyQuery where
  | oneLetter (c : Char)
  | named (name : String)
  | byValue (name value : String)
  deriving DecidableEq, Repr

/-- A set of characters named by a Unicode property. -/
inductive PropertySet where
  | any
  | ascii
  | assigned
  | category (cs : List GeneralCategory)
  | script (k : Nat)
  | extension (k : Nat)
  | binary (p : BinaryProperty)
  /-- The characters assigned by the version at position `k` of `ageNames` or earlier. -/
  | age (k : Nat)
  | graphemeBreak (k : Nat)
  | wordBreak (k : Nat)
  | sentenceBreak (k : Nat)
  deriving DecidableEq, Repr

/-- Whether a character is in a set named by a property. -/
def PropertySet.holds : PropertySet → Char → Bool
  | .any, _ => true
  | .ascii, c => c.toNat < 0x80
  | .assigned, c => generalCategory c != .unassigned
  | .category cs, c => cs.contains (generalCategory c)
  | .script k, c => script? c == some k
  | .extension k, c => (scriptExtensions c).contains k
  | .binary p, c => p.holds c
  | .age k, c => Unicode.age c ≤ k
  | .graphemeBreak k, c => graphemeBreakRuns.get graphemeBreakNames.size c.toNat == k
  | .wordBreak k, c => wordBreakRuns.get wordBreakNames.size c.toNat == k
  | .sentenceBreak k, c => sentenceBreakRuns.get sentenceBreakNames.size c.toNat == k

/-- Why a query names no set. -/
inductive PropertyError where
  | propertyNotFound
  | valueNotFound
  deriving DecidableEq, Repr

/-- The message of a query that names no set. -/
def PropertyError.message : PropertyError → String
  | .propertyNotFound => "Unicode property not found"
  | .valueNotFound => "Unicode property value not found"

/-- The categories a canonical category name stands for. -/
def categoriesOf? : String → Option (List GeneralCategory)
  | "Letter" => some GeneralCategory.letters
  | "Cased_Letter" => some GeneralCategory.casedLetters
  | "Mark" => some GeneralCategory.marks
  | "Number" => some GeneralCategory.numbers
  | "Punctuation" => some GeneralCategory.punctuation
  | "Symbol" => some GeneralCategory.symbols
  | "Separator" => some GeneralCategory.separators
  | "Other" => some GeneralCategory.others
  | name =>
    let single := [("Uppercase_Letter", GeneralCategory.uppercaseLetter),
      ("Lowercase_Letter", .lowercaseLetter), ("Titlecase_Letter", .titlecaseLetter),
      ("Modifier_Letter", .modifierLetter), ("Other_Letter", .otherLetter),
      ("Nonspacing_Mark", .nonspacingMark), ("Spacing_Mark", .spacingMark),
      ("Enclosing_Mark", .enclosingMark), ("Decimal_Number", .decimalNumber),
      ("Letter_Number", .letterNumber), ("Other_Number", .otherNumber),
      ("Connector_Punctuation", .connectorPunctuation), ("Dash_Punctuation", .dashPunctuation),
      ("Open_Punctuation", .openPunctuation), ("Close_Punctuation", .closePunctuation),
      ("Initial_Punctuation", .initialPunctuation), ("Final_Punctuation", .finalPunctuation),
      ("Other_Punctuation", .otherPunctuation), ("Math_Symbol", .mathSymbol),
      ("Currency_Symbol", .currencySymbol), ("Modifier_Symbol", .modifierSymbol),
      ("Other_Symbol", .otherSymbol), ("Space_Separator", .spaceSeparator),
      ("Line_Separator", .lineSeparator), ("Paragraph_Separator", .paragraphSeparator),
      ("Control", .control), ("Format", .format), ("Surrogate", .surrogate),
      ("Private_Use", .privateUse), ("Unassigned", .unassigned)]
    (single.lookup name).map fun g => [g]

/-- The set of a general category's loose name, with `Any`, `ASCII` and `Assigned`:
none when the name is not a category's. -/
def categorySet? (loose : String) : Option PropertySet :=
  match loose with
  | "any" => some .any
  | "assigned" => some .assigned
  | "ascii" => some .ascii
  | _ => (categoryNames.lookup loose).bind fun canon => (categoriesOf? canon).map .category

/-- The position of a value's canonical name in a table of names, by its loose name. -/
def valuePosition? (names : List (String × String)) (table : Array String) (loose : String) :
    Option Nat :=
  (names.lookup loose).bind fun canon => table.findIdx? (· == canon)

/-- The yes-or-no property of a canonical name. -/
def binaryProperty? (canon : String) : Option BinaryProperty :=
  BinaryProperty.all.find? (·.name == canon)

/-- The set a single name stands for: a yes-or-no property, a general category, or a
script, tried in that order. -/
def singleNameSet (name : String) : Except PropertyError PropertySet :=
  let loose := looseName name
  let asProperty := if loose == "cf" || loose == "sc" || loose == "lc" then none
    else propertyNames.lookup loose
  match asProperty with
  | some canon =>
    match binaryProperty? canon with
    | some p => .ok (.binary p)
    | none => .error .propertyNotFound
  | none =>
    match categorySet? loose with
    | some s => .ok s
    | none =>
      match scriptValueNames.lookup loose with
      | some canon =>
        match scriptNumber? canon with
        | some k => .ok (.script k)
        | none => .error .valueNotFound
      | none => .error .propertyNotFound

/-- The set a property name and value stand for. -/
def valueSet (name value : String) : Except PropertyError PropertySet :=
  let value := looseName value
  let found (r : Option PropertySet) : Except PropertyError PropertySet :=
    match r with
    | some s => .ok s
    | none => .error .valueNotFound
  match propertyNames.lookup (looseName name) with
  | none => .error .propertyNotFound
  | some "General_Category" => found (categorySet? value)
  | some "Script" => found ((valuePosition? scriptValueNames scriptNames value).map .script)
  | some "Script_Extensions" =>
    found ((valuePosition? scriptValueNames scriptNames value).map .extension)
  | some "Age" => found ((valuePosition? ageValueNames ageNames value).map .age)
  | some "Grapheme_Cluster_Break" =>
    found ((valuePosition? graphemeBreakValueNames graphemeBreakNames value).map .graphemeBreak)
  | some "Word_Break" =>
    found ((valuePosition? wordBreakValueNames wordBreakNames value).map .wordBreak)
  | some "Sentence_Break" =>
    found ((valuePosition? sentenceBreakValueNames sentenceBreakNames value).map .sentenceBreak)
  | some _ => .error .valueNotFound

/-- The set a query names. -/
def PropertyQuery.resolve : PropertyQuery → Except PropertyError PropertySet
  | .oneLetter c => singleNameSet (String.singleton c)
  | .named name => singleNameSet name
  | .byValue name value => valueSet name value

end Transcribe.Regex
