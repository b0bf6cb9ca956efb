import Transcribe.Yaml.Parser
import Transcribe.Yaml.Scalar
import Transcribe.Config.OfData
import Transcribe.Text.Blank
/-!
# `Config.OfYaml` — a configuration from a YAML text

A configuration file is a YAML mapping from setting names to values, read from the
events of the text's first document. A blank text is the default configuration, as is
a text with no document. Names that are not settings are skipped with their values;
a setting named twice is refused. A setting's value is read by its kind:

* a text: any scalar, whatever it would resolve to (`123` is the text `123`);
* a number: a plain scalar in one of the core schema's integer forms, in range, or a
  literal block scalar so written under the integer tag;
* a truth value: a plain `true` or `false` in one of their spellings, or a literal
  block scalar so written under the truth-value tag;
* an optional setting: nothing for a null, else the value;
* a list of texts, the timing settings: a sequence, a mapping; an empty plain scalar
  stands for an empty one;
* the variant: a scalar naming it, or a tag naming it on an empty scalar.

An alias is read as its anchor's value. When a value is refused, the message says
what was found — a plain scalar described as the core schema resolves it — and what
was expected, then where: the path of names and indices from the top (left out at the
top itself) and the line and column (left out at the very start of the text). A
syntax error is reported only where reading reaches it, and a second document is
refused once the first has been read.
-/

namespace Transcribe

open Transcribe.Yaml

/-- Where a value sits in a document. -/
inductive ValuePath where
  | root
  | index (parent : ValuePath) (i : Nat)
  | key (parent : ValuePath) (name : String)
  /-- Reached through an alias: written as the alias's own path. -/
  | alias (parent : ValuePath)
  /-- The value of a key that is not a scalar. -/
  | unknownKey (parent : ValuePath)

/-- A path as messages write it: `.` for the top, `a.b[2]` below it. -/
def ValuePath.text : ValuePath → String
  | .root => "."
  | .index p i => p.text ++ "[" ++ toString i ++ "]"
  | .key p k => (match p with | .root => "" | _ => p.text ++ ".") ++ k
  | .alias p => p.text
  | .unknownKey p => (match p with | .root => "" | _ => p.text ++ ".") ++ "?"

/-- Why a YAML text is not a configuration. -/
inductive YamlError where
  /-- A syntax error or an alias without anchor. -/
  | load (e : LoadError)
  /-- The events ran out. -/
  | endOfStream
  | moreThanOneDocument
  /-- A refused value, and where it is once known. -/
  | refused (e : DecodeError) (place : Option (ValuePath × Mark))

/-- The message of an error. -/
def YamlError.message : YamlError → String
  | .load e => e.message
  | .endOfStream => "EOF while parsing a value"
  | .moreThanOneDocument => "deserializing from YAML containing more than one document is not supported"
  | .refused e none => e.message FoundStyle.yaml
  | .refused e (some (path, mark)) =>
    let p := path.text
    (if p == "." then "" else p ++ ": ") ++ e.message FoundStyle.yaml ++
      (if mark.isStart then "" else " at " ++ mark.text)

/-- A refusal that has no place yet gets the place of the value being read. -/
def YamlError.place (path : ValuePath) (mark : Mark) : YamlError → YamlError
  | .refused e none => .refused e (some (path, mark))
  | e => e

/-- Gives a reading's refusals the place of the value being read. -/
def placed {α : Type} (path : ValuePath) (mark : Mark) (r : Except YamlError α) : Except YamlError α :=
  r.mapError (YamlError.place path mark)

/-- The standard tags that decide how a tagged scalar is described. -/
def boolTag : String := "tag:yaml.org,2002:bool"
def intTag : String := "tag:yaml.org,2002:int"
def floatTag : String := "tag:yaml.org,2002:float"
def nullTag : String := "tag:yaml.org,2002:null"

/-- How a resolved plain scalar is described; integers beyond 64 bits are named with
their width. -/
def Yaml.Plain.found : Plain → Found
  | .null => .unit
  | .bool b => .bool b
  | .unsigned n => .unsigned n
  | .signed n => .signed n
  | .wideUnsigned n => .other ("integer `" ++ toString n ++ "` as u128")
  | .wideSigned n => .other ("integer `" ++ toString n ++ "` as i128")
  | .float f => .float f
  | .text s => .str s

/-- What a scalar is, for a message: a standard tag decides, and a scalar that does not
fit its tag is refused as such; a plain scalar, also with a local tag, resolves by the
core schema; any other is text. -/
def scalarFound (tag : Option String) (text : String) (style : ScalarStyle) : Except DecodeError Found :=
  match tag with
  | some t =>
    if t == boolTag then
      match boolOfText? text with
      | some b => .ok (.bool b)
      | none => .error (.invalidValue (.str text) "a boolean")
    else if t == intTag then
      match integerOfText? text with
      | some p => .ok p.found
      | none => .error (.invalidValue (.str text) "an integer")
    else if t == floatTag then
      match floatOfText? text with
      | some f => .ok (.float f)
      | none => .error (.invalidValue (.str text) "a float")
    else if t == nullTag then
      if isNullText text then .ok .unit else .error (.invalidValue (.str text) "null")
    else if t.startsWith "!" && style == .plain then .ok (Plain.resolve text).found
    else .ok (.str text)
  | none => if style == .plain then .ok (Plain.resolve text).found else .ok (.str text)

/-- Whether a scalar is read by its text where a number or truth value is expected: a
plain one, whatever its tag, or a literal block scalar under the expected tag. -/
def readsAs (expectedTag : String) (tag : Option String) (style : ScalarStyle) : Bool :=
  style == .plain || (style == .literal && tag == some expectedTag)

/-- The refusal of an event where something else was expected. -/
def refusal (ev : Loaded) (expected : String) : YamlError :=
  match ev with
  | .scalar tag text style =>
    match scalarFound tag text style with
    | .ok f => .refused (.invalidType f expected) none
    | .error e => .refused e none
  | .sequenceStart _ => .refused (.invalidType .seq expected) none
  | .mappingStart _ => .refused (.invalidType .map expected) none
  | _ => .endOfStream

/-- The events of a loaded document and the error that ended them early, if any. -/
structure Events where
  items : Array (Loaded × Mark)
  error : Option LoadError

/-- Changes the value of a reading, which gives a value and the position after it. -/
def Step.map {α β : Type} (f : α → β) (s : Except YamlError (α × Nat)) : Except YamlError (β × Nat) :=
  (fun (a, p) => (f a, p)) <$> s

namespace Events

/-- The event at a position; past the end, the error that ended the events. -/
def get (evs : Events) (pos : Nat) : Except YamlError (Loaded × Mark) :=
  match evs.items[pos]? with
  | some e => .ok e
  | none => .error (match evs.error with | some e => .load e | none => .endOfStream)

/-- Reads a value, through an alias at the anchor's value; reading goes on after the
alias. -/
def follow {α : Type} (evs : Events) (path : ValuePath) (pos : Nat)
    (read : ValuePath → Nat → Except YamlError (α × Nat)) : Except YamlError (α × Nat) :=
  match evs.items[pos]? with
  | some (.alias target, _) => do
    let (a, _) ← read (.alias path) target
    pure (a, pos + 1)
  | _ => read path pos

/-- Skips a value: a scalar, an alias, or a whole collection. -/
def skip (evs : Events) (pos : Nat) : Except YamlError Nat :=
  go pos 0 (evs.items.size + 1)
where
  go (pos depth : Nat) : Nat → Except YamlError Nat
    | 0 => .error .endOfStream
    | n + 1 => do
      let (ev, _) ← evs.get pos
      let depth := match ev with
        | .sequenceStart _ | .mappingStart _ => depth + 1
        | .sequenceEnd | .mappingEnd => depth - 1
        | _ => depth
      if depth == 0 then pure (pos + 1) else go (pos + 1) depth n

/-- A text: any scalar. -/
def text (evs : Events) (expected : String) (path : ValuePath) (pos : Nat) : Except YamlError (String × Nat) :=
  evs.follow path pos fun path pos => do
    let (ev, mark) ← evs.get pos
    placed path mark <| match ev with
      | .scalar _ s _ => .ok (s, pos + 1)
      | ev => .error (refusal ev expected)

/-- An integer below `2^bits`, named `name` in messages. -/
def unsigned (evs : Events) (bits : Nat) (name : String) (path : ValuePath) (pos : Nat) : Except YamlError (Nat × Nat) :=
  evs.follow path pos fun path pos => do
    let (ev, mark) ← evs.get pos
    placed path mark <| match ev with
      | .scalar tag s style =>
        match (if readsAs intTag tag style then unsignedOfText? 64 s else none) with
        | some n =>
          if n < Nat.pow 2 bits then .ok (n, pos + 1)
          else .error (.refused (.invalidValue (.unsigned n) name) none)
        | none => .error (refusal ev name)
      | ev => .error (refusal ev name)

/-- A truth value. -/
def flag (evs : Events) (path : ValuePath) (pos : Nat) : Except YamlError (Bool × Nat) :=
  evs.follow path pos fun path pos => do
    let (ev, mark) ← evs.get pos
    placed path mark <| match ev with
      | .scalar tag s style =>
        match (if readsAs boolTag tag style then boolOfText? s else none) with
        | some b => .ok (b, pos + 1)
        | none => .error (refusal ev "a boolean")
      | ev => .error (refusal ev "a boolean")

/-- Nothing for a null (an empty or null plain scalar, or a scalar tagged null), else
a value. -/
def optional {α : Type} (evs : Events) (read : ValuePath → Nat → Except YamlError (α × Nat)) (path : ValuePath)
    (pos : Nat) : Except YamlError ((Option α) × Nat) :=
  evs.follow path pos fun path pos => do
    let (ev, _) ← evs.get pos
    let present ← match ev with
      | .scalar tag s style =>
        if style != .plain then pure true
        else match tag with
          | some t =>
            if t != nullTag then pure true
            else if isNullText s then pure false
            else throw (.refused (.invalidValue (.str s) "null") none)
          | none => pure !(s.isEmpty || isNullText s)
      | .void => pure false
      | _ => pure true
    if present then Step.map some (read path pos) else pure (none, pos + 1)

/-- A list of texts. -/
def lines (evs : Events) (path : ValuePath) (pos : Nat) : Except YamlError ((List String) × Nat) :=
  evs.follow path pos fun path pos => do
    let (ev, mark) ← evs.get pos
    placed path mark <| match ev with
      | .sequenceStart _ => items path 0 [] (pos + 1) (evs.items.size + 1)
      | .scalar _ "" .plain | .void => .ok ([], pos + 1)
      | ev => .error (refusal ev "a sequence")
where
  items (path : ValuePath) (i : Nat) (acc : List String) (pos : Nat) : Nat → Except YamlError ((List String) × Nat)
    | 0 => .error .endOfStream
    | n + 1 => do
      let (ev, _) ← evs.get pos
      match ev with
      | .sequenceEnd | .void => pure (acc.reverse, pos + 1)
      | _ =>
        let (s, pos) ← evs.text "a string" (.index path i) pos
        items path (i + 1) (s :: acc) pos n

/-- A record of named fields: a mapping from field names to values, read in order.
Names not in `fields` are skipped; a name given twice is refused. -/
def record {σ : Type} (evs : Events) (name : String) (fields : List String)
    (readField : σ → String → ValuePath → Nat → Except YamlError (σ × Nat)) (init : σ) (path : ValuePath) (pos : Nat) :
    Except YamlError (σ × Nat) :=
  evs.follow path pos fun path pos => do
    let (ev, mark) ← evs.get pos
    placed path mark <| match ev with
      | .mappingStart _ => entries path init [] (pos + 1) (evs.items.size + 1)
      | .scalar _ "" .plain | .void => .ok (init, pos + 1)
      | ev => .error (refusal ev ("struct " ++ name))
where
  entries (path : ValuePath) (acc : σ) (seen : List String) (pos : Nat) : Nat → Except YamlError (σ × Nat)
    | 0 => .error .endOfStream
    | n + 1 => do
      let (ev, _) ← evs.get pos
      match ev with
      | .mappingEnd | .void => pure (acc, pos + 1)
      | _ =>
        let (key, pos) ← evs.text "field identifier" path pos
        let valuePath : ValuePath := match ev with
          | .scalar _ s _ => .key path s
          | _ => .unknownKey path
        if fields.contains key then
          if seen.contains key then throw (.refused (.duplicateField key) none)
          let (acc, pos) ← readField acc key valuePath pos
          entries path acc (key :: seen) pos n
        else
          let pos ← evs.skip pos
          entries path acc seen pos n

/-- The variant named by a tag: `!name` names `name`. -/
def tagName? (tag : Option String) : Option String :=
  match tag with
  | some t =>
    match t.toList with
    | '!' :: rest => some (if rest.isEmpty then t else String.ofList rest)
    | _ => none
  | none => none

/-- The variant: a scalar naming it, or a tag naming it on an empty or null scalar. A
collection may only name it by a tag, and then is refused for not being empty. -/
def variant (evs : Events) (path : ValuePath) (pos : Nat) : Except YamlError (Variant × Nat) :=
  evs.follow path pos fun path pos => do
    let (ev, mark) ← evs.get pos
    let named (name : String) : Except YamlError Variant :=
      match Variant.ofName? name with
      | some v => .ok v
      | none => .error (.refused (.unknownVariant name variantNames) none)
    match ev with
    | .scalar tag s style =>
      match tagName? tag with
      | some name =>
        let v ← named name
        placed path mark <|
          if style == .plain && (s.isEmpty || isNullText s) then .ok (v, pos + 1)
          else .error (.refused (.invalidValue (.str s) "null") none)
      | none => placed path mark <| (fun v => (v, pos + 1)) <$> named s
    | .sequenceStart tag =>
      match tagName? tag with
      | some name => do
        let _ ← named name
        placed path mark (.error (refusal ev "unit"))
      | none => placed path mark (.error (.refused (.invalidType .seq "a YAML tag starting with '!'") none))
    | .mappingStart tag =>
      match tagName? tag with
      | some name => do
        let _ ← named name
        placed path mark (.error (refusal ev "unit"))
      | none => placed path mark (.error (.refused (.invalidType .map "a YAML tag starting with '!'") none))
    | _ => .error .endOfStream

/-- The timing settings. -/
def timing (evs : Events) (path : ValuePath) (pos : Nat) : Except YamlError (Timing × Nat) :=
  evs.record "Timing" (timingFields.map (·.1))
    (fun t name path pos =>
      let bits := (timingFields.lookup name).getD 64
      Step.map (t.setField name) (evs.unsigned bits ("u" ++ toString bits) path pos))
    {} path pos

/-- A setting of a kind. -/
def field (evs : Events) (kind : FieldKind) (path : ValuePath) (pos : Nat) : Except YamlError (FieldValue × Nat) :=
  match kind with
  | .variant => Step.map .variant (evs.variant path pos)
  | .text => Step.map .text (evs.text "a string" path pos)
  | .optText => Step.map .optText (evs.optional (evs.text "a string") path pos)
  | .optPort => Step.map (fun o => .optPort (o.map Nat.toUInt16))
      (evs.optional (evs.unsigned 16 "u16") path pos)
  | .lines => Step.map .lines (evs.lines path pos)
  | .optPath => Step.map .optText (evs.optional (evs.text "path string") path pos)
  | .flag => Step.map .flag (evs.flag path pos)
  | .timing => Step.map .timing (evs.timing path pos)

/-- A configuration. -/
def config (evs : Events) (path : ValuePath) (pos : Nat) : Except YamlError (Config × Nat) :=
  evs.record "ConverterConfig" (configFields.map (·.1))
    (fun c name path pos =>
      Step.map (c.setField name) (evs.field ((configFields.lookup name).getD .text) path pos))
    {} path pos

end Events

/-- Reads a configuration from a YAML text; a blank text is the default one. -/
def Config.ofYaml (text : String) : Except YamlError Config :=
  if (Text.trimString text).isEmpty then .ok {}
  else
    let doc := Document.load text
    match (Events.mk doc.events doc.error).config .root 0 with
    | .error e => .error e
    | .ok (c, _) =>
      match doc.error with
      | some e => .error (.load e)
      | none => if doc.more then .error .moreThanOneDocument else .ok c

end Transcribe
