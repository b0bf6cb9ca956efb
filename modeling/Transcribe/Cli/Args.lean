import Transcribe.Decimal.Nearest
/-!
# `Cli.Args` — reading the command line

The program takes an input (a recorded test or a directory of them), an optional
output file, options with a value (`--browser <BROWSER>`, or `--browser=…`; the short
`-c` also as `-cFILE` or `-c=FILE`), switches (`-r`, `--selenium2`, …), `-h`/`--help`
and `-V`/`--version`. Short switches may be grouped (`-rc FILE`). After `--` every
argument is positional.

Arguments are read left to right. A value given with its option is taken at once;
a value in the next argument, and a positional argument, are taken when the next
argument is read, or at the end. Taking a value checks it: an option given twice, an
empty path, or a remotePort value that is not a number from 0 to 65535 is refused.
Help and the version stop the reading where they appear, once the values before them
are taken.

An unknown argument is refused with a hint: the known option most like it (by the
Jaro similarity of the names, above 0.7), or how to pass it as a value. Refusals
that concern the command as a whole show a usage line. An unknown long option, a
value given to a switch and a missing input show the options given so far, then the
positional arguments; a repeated argument, an unknown short option and a surplus
positional argument show the usage line of the help text, as does the first kind when
nothing was given. A value given to a switch after some argument was already taken
shows every argument as one group instead.
-/

namespace Transcribe.Cli

/-- The options that take a value. -/
inductive Setting where
  | dest
  | phpPrefix
  | phpPostfix
  | browser
  | browserUrl
  | remoteHost
  | remotePort
  | classPrefix
  | tpl
  | customParam1
  | customParam2
  | parentClass
  | config
  deriving DecidableEq, Repr

/-- The switches. -/
inductive Switch where
  | recursive
  | selenium2
  | continueOnError
  deriving DecidableEq, Repr

/-- An argument of the command line. -/
inductive ArgName where
  | input
  | output
  | setting (s : Setting)
  | switch (s : Switch)
  | help
  | version
  deriving DecidableEq, Repr

/-- The kind of value an argument takes. -/
inductive ValueKind where
  /-- A path: any text but the empty one. -/
  | path
  /-- Any text. -/
  | text
  /-- A number from 0 to 65535. -/
  | uint16
  deriving DecidableEq, Repr

namespace Setting

/-- The option's long name. -/
def long : Setting → String
  | .dest => "dest"
  | .phpPrefix => "php-prefix"
  | .phpPostfix => "php-postfix"
  | .browser => "browser"
  | .browserUrl => "browser-url"
  | .remoteHost => "remote-host"
  | .remotePort => "remote-port"
  | .classPrefix => "class-prefix"
  | .tpl => "tpl"
  | .customParam1 => "custom-param1"
  | .customParam2 => "custom-param2"
  | .parentClass => "parent-class"
  | .config => "config"

/-- The name of the option's value. -/
def valueName (s : Setting) : String :=
  String.ofList (s.long.toList.map fun c => if c == '-' then '_' else c.toUpper)

/-- The kind of value the option takes. -/
def kind : Setting → ValueKind
  | .dest | .tpl | .config => .path
  | .remotePort => .uint16
  | _ => .text

end Setting

/-- The switch's long name. -/
def Switch.long : Switch → String
  | .recursive => "recursive"
  | .selenium2 => "selenium2"
  | .continueOnError => "continue-on-error"

/-- The arguments in the order they are declared; help and version come last. -/
def declared : List ArgName :=
  [.input, .output, .setting .dest, .setting .phpPrefix, .setting .phpPostfix, .setting .browser,
   .setting .browserUrl, .setting .remoteHost, .setting .remotePort, .switch .recursive,
   .setting .classPrefix, .switch .selenium2, .setting .tpl, .setting .customParam1,
   .setting .customParam2, .setting .parentClass, .setting .config, .switch .continueOnError,
   .help, .version]

namespace ArgName

/-- The long name of an option or switch. -/
def long? : ArgName → Option String
  | .setting s => some s.long
  | .switch s => some s.long
  | .help => some "help"
  | .version => some "version"
  | _ => none

/-- The short name of an option or switch. -/
def short? : ArgName → Option Char
  | .switch .recursive => some 'r'
  | .setting .config => some 'c'
  | .help => some 'h'
  | .version => some 'V'
  | _ => none

/-- Whether the argument takes a value. -/
def takesValue : ArgName → Bool
  | .input | .output | .setting _ => true
  | _ => false

/-- Whether the argument is positional. -/
def isPositional : ArgName → Bool
  | .input | .output => true
  | _ => false

/-- The kind of the argument's value. -/
def kind : ArgName → ValueKind
  | .setting s => s.kind
  | _ => .path

/-- The argument as messages name it. -/
def display : ArgName → String
  | .input => "<INPUT>"
  | .output => "[OUTPUT]"
  | .setting s => "--" ++ s.long ++ " <" ++ s.valueName ++ ">"
  | .switch s => "--" ++ s.long
  | .help => "--help"
  | .version => "--version"

/-- The argument in a usage line, as given. -/
def given : ArgName → String
  | .output => "<OUTPUT>"
  | a => a.display

end ArgName

/-- The argument with a long name. -/
def byLong? (name : String) : Option ArgName := declared.find? (·.long? == some name)

/-- The argument with a short name. -/
def byShort? (c : Char) : Option ArgName := declared.find? (·.short? == some c)

/-- The positional argument at a position, counted from one. -/
def positionalAt? : Nat → Option ArgName
  | 1 => some .input
  | 2 => some .output
  | _ => none

/-- Why a command line is refused. -/
inductive ArgError where
  /-- An unknown argument, with a similar option, whether to hint at `--`, and the
  arguments given so far. -/
  | unknown (arg : String) (similar : Option String) (hintDashes : Bool) (used : List ArgName)
  /-- An option or positional argument without a value. -/
  | emptyValue (arg : ArgName)
  /-- A value that the argument does not take. -/
  | invalidValue (arg : ArgName) (value : String) (reason : String)
  /-- An argument given twice. -/
  | repeated (arg : ArgName)
  /-- A value given to a switch, with the arguments given before it and whether any of
  them was taken already. -/
  | unexpectedValue (value : String) (arg : ArgName) (used : List ArgName) (afterTaken : Bool)
  /-- The input is missing. -/
  | missingInput (used : List ArgName)
  deriving DecidableEq, Repr

/-- The usage line of the help text. -/
def fullUsage : String := "Usage: selenium2php [OPTIONS] <INPUT> [OUTPUT]"

/-- The usage line for the arguments given: the options given, in order, then the
positional arguments, the output as required once given. Without any argument given
it is the usage line of the help text. -/
def usageLine (used : List ArgName) : String :=
  if used.isEmpty then fullUsage
  else
    let options := (used.filter fun a => !a.isPositional).map (·.given)
    let options := options.foldl (fun acc o => if acc.contains o then acc else acc ++ [o]) []
    "Usage: selenium2php" ++ String.join (options.map (" " ++ ·)) ++ " <INPUT> " ++
      (if used.contains .output then "<OUTPUT>" else "[OUTPUT]")

/-- The usage line that names every argument of the command as one group: positional
arguments by their value names, options as messages name them. -/
def groupUsage : String :=
  let names := (declared.filter fun a => a != .help && a != .version).map fun a =>
    match a with
    | .input => "INPUT"
    | .output => "OUTPUT"
    | a => a.display
  "Usage: selenium2php <" ++ "|".intercalate names ++ ">"

/-- The closing line of every refusal. -/
def moreInformation : String := "\n\nFor more information, try '--help'.\n"

/-- The text that refuses a command line. -/
def ArgError.render : ArgError → String
  | .unknown arg similar hint used =>
    "error: unexpected argument '" ++ arg ++ "' found" ++
      (match similar with
       | some s => "\n\n  tip: a similar argument exists: '" ++ s ++ "'"
       | none => "") ++
      (if hint then "\n\n  tip: to pass '" ++ arg ++ "' as a value, use '-- " ++ arg ++ "'" else "") ++
      "\n\n" ++ usageLine used ++ moreInformation
  | .emptyValue a =>
    "error: a value is required for '" ++ a.display ++ "' but none was supplied" ++ moreInformation
  | .invalidValue a v reason =>
    "error: invalid value '" ++ v ++ "' for '" ++ a.display ++ "': " ++ reason ++ moreInformation
  | .repeated a =>
    "error: the argument '" ++ a.display ++ "' cannot be used multiple times\n\n" ++ usageLine [] ++
      moreInformation
  | .unexpectedValue v a used afterTaken =>
    "error: unexpected value '" ++ v ++ "' for '" ++ a.display ++ "' found; no more were expected\n\n" ++
      (if afterTaken then groupUsage else usageLine used) ++ moreInformation
  | .missingInput used =>
    "error: the following required arguments were not provided:\n  <INPUT>\n\n" ++ usageLine used ++
      moreInformation

/-- Reads a signed 64-bit integer as integer types read text; the error is the
reason. -/
def readInt64 (s : String) : Except String Int :=
  let (negative, digits) := match s.toList with
    | '+' :: rest => (false, rest)
    | '-' :: rest => (true, rest)
    | cs => (false, cs)
  if s.isEmpty then .error "cannot parse integer from empty string"
  else if digits.isEmpty || !digits.all Char.isDigit then .error "invalid digit found in string"
  else
    let n : Int := (digits.foldl (fun acc c => acc * 10 + (c.toNat - '0'.toNat)) 0 : Nat)
    let v := if negative then -n else n
    if v ≥ Int.pow 2 63 then .error "number too large to fit in target type"
    else if v < -(Int.pow 2 63) then .error "number too small to fit in target type"
    else .ok v

/-- Checks a value for an argument. -/
def checkValue (a : ArgName) (v : String) : Except ArgError Unit :=
  match a.kind with
  | .path => if v.isEmpty then .error (.emptyValue a) else .ok ()
  | .text => .ok ()
  | .uint16 =>
    match readInt64 v with
    | .error reason => .error (.invalidValue a v reason)
    | .ok n =>
      if 0 ≤ n && n ≤ 65535 then .ok ()
      else .error (.invalidValue a v (toString n ++ " is not in 0..=65535"))

/-- The Jaro similarity of two names, computed in doubles. -/
def jaro (a b : List Char) : Float :=
  let la := a.length
  let lb := b.length
  if la == 0 && lb == 0 then 1.0
  else if la == 0 || lb == 0 then 0.0
  else
    let range := max la lb / 2 - 1
    -- each character of `a` takes the first free equal character of `b` within range
    let (flagsA, flagsB) := a.zipIdx.foldl (fun (fa, fb) (c, i) =>
      let lo := i - range
      let hi := min lb (i + range + 1)
      match (List.range hi).find? fun j => lo ≤ j && b[j]? == some c && !(fb[j]?.getD true) with
      | some j => (fa ++ [true], fb.set j true)
      | none => (fa ++ [false], fb)) (([] : List Bool), List.replicate lb false)
    let matchedA := (a.zip flagsA).filterMap fun (c, f) => if f then some c else none
    let matchedB := (b.zip flagsB).filterMap fun (c, f) => if f then some c else none
    let hits := matchedA.length
    if hits == 0 then 0.0
    else
      let transpositions := ((matchedA.zip matchedB).filter fun (x, y) => x != y).length / 2
      (hits.toFloat / la.toFloat + hits.toFloat / lb.toFloat +
        (hits - transpositions).toFloat / hits.toFloat) / 3.0

/-- The known long name most like an unknown one, if any is like it enough; of equally
like names the last declared. -/
def similarLong? (name : String) : Option ArgName :=
  let threshold := Decimal.nearest 7 (-1)
  let scored := declared.filterMap fun a => a.long?.bind fun l =>
    let c := jaro name.toList l.toList
    if threshold < c then some (a, c) else none
  scored.foldl (fun best x => match best with
    | some (_, c) => if c ≤ x.2 then some x else best
    | none => some x) none |>.map (·.1)

/-- The state of reading a command line. -/
structure Reading where
  /-- The arguments taken so far, with their values. -/
  taken : List (ArgName × Option String) := []
  /-- An argument whose values are not taken yet. -/
  pending : Option (ArgName × List String) := none
  /-- An option still waiting for its value. -/
  awaiting : Option ArgName := none
  /-- The position of the next positional argument. -/
  position : Nat := 1
  /-- Whether a `--` was read. -/
  afterDashes : Bool := false

/-- Why reading stops early. -/
inductive Stop where
  | help
  | version
  | refused (e : ArgError)
  deriving DecidableEq, Repr

namespace Reading

/-- Whether an argument was taken. -/
def has (r : Reading) (a : ArgName) : Bool := r.taken.any (·.1 == a)

/-- Takes an argument with its values. -/
def apply (r : Reading) (a : ArgName) (values : List String) : Except Stop Reading :=
  match a with
  | .help => .error .help
  | .version => .error .version
  | .switch _ =>
    if r.has a then .error (.refused (.repeated a)) else .ok { r with taken := r.taken ++ [(a, none)] }
  | _ =>
    if r.has a then .error (.refused (.repeated a))
    else match values with
      | [] => .error (.refused (.emptyValue a))
      | v :: _ =>
        match checkValue a v with
        | .error e => .error (.refused e)
        | .ok () => .ok { r with taken := r.taken ++ [(a, some v)] }

/-- Takes the pending argument. -/
def settle (r : Reading) : Except Stop Reading :=
  match r.pending with
  | none => .ok r
  | some (a, vs) => { r with pending := none }.apply a vs

/-- Takes the pending argument as far as it goes, before a refusal. An option without
a value is not given; one given a second time is not given at all; one refused for its
value still counts as given. -/
def settleQuietly (r : Reading) : Reading :=
  match r.pending with
  | none => r
  | some (a, vs) =>
    let r := { r with pending := none }
    if vs.isEmpty then r
    else if r.has a then { r with taken := r.taken.filter (·.1 != a) }
    else
      match r.apply a vs with
      | .ok r => r
      | .error _ => { r with taken := r.taken ++ [(a, none)] }

/-- Takes an argument now, after the pending one. -/
def react (r : Reading) (a : ArgName) (values : List String) : Except Stop Reading := do
  let r ← r.settle
  let r ← r.apply a values
  pure { r with awaiting := none }

/-- Starts an option whose value comes in the next argument. -/
def await (r : Reading) (a : ArgName) : Except Stop Reading := do
  let r ← r.settle
  pure { r with pending := some (a, []), awaiting := some a }

/-- The arguments given so far. -/
def given (r : Reading) : List ArgName := r.taken.map (·.1)

/-- The arguments given so far but the input, which is required anyway. -/
def optionalGiven (r : Reading) : List ArgName := r.given.filter (· != .input)

/-- Refuses an unknown long option. -/
def unknownLong (r : Reading) (name : String) : Stop :=
  let r := r.settleQuietly
  let similar := similarLong? name
  let r := match similar with
    | some a => if r.has a then r else { r with taken := r.taken ++ [(a, none)] }
    | none => r
  .refused (.unknown ("--" ++ name) ((similar.bind (·.long?)).map ("--" ++ ·))
    (similar.isNone && !r.afterDashes) r.given)

/-- Reads a positional argument. -/
def positional (r : Reading) (arg : String) : Except Stop Reading :=
  match positionalAt? r.position with
  | some a => do
    let r ← r.settle
    pure { r with pending := some (a, [arg]), position := r.position + 1 }
  | none =>
    let looksLikeOption := arg.startsWith "-" && arg != "-"
    .error (.refused (.unknown arg none (!r.afterDashes && looksLikeOption) []))

/-- Reads a group of short switches, which may end in `-c` and its value. -/
def shorts (r : Reading) : List Char → Except Stop Reading
  | [] => .ok r
  | c :: rest =>
    match byShort? c with
    | some a =>
      if !a.takesValue then do
        let r ← r.react a []
        shorts r rest
      else
        match rest with
        | [] => r.await a
        | '=' :: v => r.react a [String.ofList v]
        | v => r.react a [String.ofList v]
    | none =>
      .error (.refused (.unknown ("-" ++ String.singleton c) none (!r.afterDashes) []))

/-- Reads a long option, with its value after `=` if any. -/
def longOption (r : Reading) (body : String) : Except Stop Reading :=
  let name := String.ofList (body.toList.takeWhile (· != '='))
  let value := if body.toList.contains '=' then
      some (String.ofList ((body.toList.dropWhile (· != '=')).drop 1))
    else none
  match byLong? name with
  | some a =>
    if a.takesValue then
      match value with
      | some v => r.react a [v]
      | none => r.await a
    else
      match value with
      | some v => .error (.refused (.unexpectedValue v a (r.optionalGiven ++ [a]) !r.taken.isEmpty))
      | none => r.react a []
  | none => .error (r.unknownLong name)

/-- Reads one argument. -/
def step (r : Reading) (arg : String) : Except Stop Reading :=
  if r.afterDashes then r.positional arg
  else if arg == "--" then .ok { r with afterDashes := true }
  else if arg.startsWith "--" then r.longOption (String.ofList (arg.toList.drop 2))
  else if arg.startsWith "-" && arg.length > 1 then r.shorts (arg.toList.drop 1)
  else match r.awaiting with
    | some a =>
      let values := match r.pending with
        | some (_, vs) => vs
        | none => []
      .ok { r with pending := some (a, values ++ [arg]), awaiting := none }
    | none => r.positional arg

/-- The value given to an argument. -/
def valueOf (r : Reading) (a : ArgName) : Option String :=
  (r.taken.find? (·.1 == a)).bind (·.2)

end Reading

/-- What a command line asks for. -/
structure Invocation where
  input : String
  output : Option String := none
  dest : Option String := none
  phpPrefix : Option String := none
  phpPostfix : Option String := none
  browser : Option String := none
  browserUrl : Option String := none
  remoteHost : Option String := none
  remotePort : Option Nat := none
  recursive : Bool := false
  classPrefix : Option String := none
  selenium2 : Bool := false
  tpl : Option String := none
  customParam1 : Option String := none
  customParam2 : Option String := none
  parentClass : Option String := none
  config : Option String := none
  continueOnError : Bool := false
  deriving DecidableEq, Repr

/-- What reading a command line gives. -/
inductive Request where
  | run (inv : Invocation)
  | help
  | version
  | refused (e : ArgError)
  deriving DecidableEq, Repr

/-- Reads all arguments, one after the other. -/
def readAll (r : Reading) : List String → Except Stop Reading
  | [] => r.settle
  | a :: rest => do readAll (← r.step a) rest

/-- Reads a command line. -/
def readArgs (args : List String) : Request :=
  match readAll {} args with
  | .error .help => .help
  | .error .version => .version
  | .error (.refused e) => .refused e
  | .ok r =>
    match r.valueOf .input with
    | none => .refused (.missingInput (r.given ++ [.input]))
    | some input =>
      let text (s : Setting) := r.valueOf (.setting s)
      .run {
        input
        output := r.valueOf .output
        dest := text .dest
        phpPrefix := text .phpPrefix
        phpPostfix := text .phpPostfix
        browser := text .browser
        browserUrl := text .browserUrl
        remoteHost := text .remoteHost
        remotePort := (text .remotePort).bind fun v => (readInt64 v).toOption.map Int.toNat
        recursive := r.has (.switch .recursive)
        classPrefix := text .classPrefix
        selenium2 := r.has (.switch .selenium2)
        tpl := text .tpl
        customParam1 := text .customParam1
        customParam2 := text .customParam2
        parentClass := text .parentClass
        config := text .config
        continueOnError := r.has (.switch .continueOnError) }

/-- The help text. -/
def helpText : String :=
  "Converts Selenium IDE html test cases into PHPUnit test cases\n\n" ++
  "Usage: selenium2php [OPTIONS] <INPUT> [OUTPUT]\n\n" ++
  "Arguments:\n" ++
  "  <INPUT>   Html test case file, or a directory of them\n" ++
  "  [OUTPUT]  Output file (single file input only)\n\n" ++
  "Options:\n" ++
  "      --dest <DEST>                    Destination directory for generated files\n" ++
  "      --php-prefix <PHP_PREFIX>        Prefix of generated file names\n" ++
  "      --php-postfix <PHP_POSTFIX>      Postfix of generated file names\n" ++
  "      --browser <BROWSER>              Browser string passed to setBrowser (e.g. \"*firefox\")\n" ++
  "      --browser-url <BROWSER_URL>      Test URL; overrides the base URL recorded in the document\n" ++
  "      --remote-host <REMOTE_HOST>      Selenium server host\n" ++
  "      --remote-port <REMOTE_PORT>      Selenium server port\n" ++
  "  -r, --recursive                      Scan subdirectories too\n" ++
  "      --class-prefix <CLASS_PREFIX>    Prefix of generated class names\n" ++
  "      --selenium2                      Generate PHPUnit_Extensions_Selenium2TestCase (WebDriver) code\n" ++
  "      --tpl <TPL>                      Template file with \x7b$placeholder\x7d markers\n" ++
  "      --custom-param1 <CUSTOM_PARAM1>  Value of \x7b$customParam1\x7d in templates\n" ++
  "      --custom-param2 <CUSTOM_PARAM2>  Value of \x7b$customParam2\x7d in templates\n" ++
  "      --parent-class <PARENT_CLASS>    Parent class of generated test cases\n" ++
  "  -c, --config <CONFIG>                YAML file with converter settings\n" ++
  "      --continue-on-error              Replace untranslatable commands with a comment instead of failing\n" ++
  "  -h, --help                           Print help\n" ++
  "  -V, --version                        Print version\n"

/-- The version line. -/
def versionText : String := "selenium2php 0.1.0\n"

end Transcribe.Cli
