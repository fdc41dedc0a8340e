import ClassAtlas.Settings

/-!
# Command line arguments

Words are read from left to right. A value that stands as a word of its own
after its option is only looked at when the next option comes, or the end: an
unknown word in between is reported first.
-/

namespace ClassAtlas.Cli

structure Arguments where
  input : Path
  classpath : List Path
  settings : Option Path
  javaVersion : Option Nat
  output : Option Path
  quiet : Bool
  timing : Bool
deriving DecidableEq

/-- How much is logged. -/
def Arguments.logLevel (a : Arguments) : String :=
  if a.quiet then "error" else if a.timing then "info" else "warn"

/-- Why the words are not run; asking for help or the version counts, too. -/
inductive UsageError where
  | unknownArgument
  /-- An option lacks its value, or a path is empty. -/
  | invalidValue
  /-- A version is not a number in range. -/
  | badVersion
  | repeatedOption
  /-- A value is attached to an option that has none. -/
  | unexpectedValue
  | helpRequested
  | versionRequested
  | noInput
deriving DecidableEq

def UsageError.message : UsageError → String
  | unknownArgument => "unexpected argument"
  | invalidValue => "an option needs a value"
  | badVersion => "the version must be a number from 0 to " ++ toString maxVersion
  | repeatedOption => "an option was given more than once"
  | unexpectedValue => "a value was given to an option that takes none"
  | helpRequested =>
    "Usage: [OPTIONS] --input <PATH>\n\n" ++
    "  --input <PATH>       a folder, a .jar or a .class file\n" ++
    "  --classpath <PATH>   a library; may be repeated\n" ++
    "  --config <FILE>      settings in JSON\n" ++
    "  --java-version <N>   version of the language\n" ++
    "  --output <PATH>      where the report goes\n" ++
    "  --quiet              log errors only\n" ++
    "  --timing             log how long it takes"
  | versionRequested => "version 0.1.0"
  | noInput => "an input is required: --input <PATH>"

/-- Whether the words asked for a text, which is then no error. -/
def UsageError.isRequest : UsageError → Bool
  | helpRequested | versionRequested => true
  | _ => false

-- ---------------------------------------------------------------------------
-- Options
-- ---------------------------------------------------------------------------

inductive ValueOption where
  | input
  | classpath
  | settings
  | javaVersion
  | output
deriving DecidableEq

inductive Flag where
  | quiet
  | timing
  | help
  | version
deriving DecidableEq

/-- What a long option says. -/
inductive LongOption where
  | value (option : ValueOption)
  | flag (flag : Flag)

def longOption? : String → Option LongOption
  | "input" => some (.value .input)
  | "classpath" => some (.value .classpath)
  | "config" => some (.value .settings)
  | "java-version" => some (.value .javaVersion)
  | "output" => some (.value .output)
  | "quiet" => some (.flag .quiet)
  | "timing" => some (.flag .timing)
  | "help" => some (.flag .help)
  | "version" => some (.flag .version)
  | _ => none

inductive Word where
  /-- `--name` or `--name=value`. -/
  | long (name : String) (attached : Option String)
  /-- `-x…`, by its first letter. -/
  | short (letter : Char)
  /-- A lone `--`: all words after it are plain. -/
  | divider
  | plain (text : String)

def Word.ofString (word : String) : Word :=
  match word.toList with
  | ['-', '-'] => .divider
  | '-' :: '-' :: rest =>
    match Text.splitFirst '=' rest with
    | some (name, value) => .long (String.ofList name) (some (String.ofList value))
    | none => .long (String.ofList rest) none
  | '-' :: letter :: _ => .short letter
  | _ => .plain word

-- ---------------------------------------------------------------------------
-- Values
-- ---------------------------------------------------------------------------

/-- Decimal digits, at least one. -/
def digitsValue? (ds : List Char) : Option Nat :=
  if ds ≠ [] ∧ ds.all Json.isDigit then
    some (ds.foldl (fun n c => n * 10 + (c.toNat - '0'.toNat)) 0)
  else none

/-- A version may have a sign, as long as it is no number below zero. -/
def version? (text : String) : Option Nat :=
  let value := match text.toList with
    | '+' :: ds => digitsValue? ds
    | '-' :: ds => (digitsValue? ds).filter (· == 0)
    | ds => digitsValue? ds
  value.filter (· ≤ maxVersion)

def pathOf (text : String) : Except UsageError Path :=
  if text = "" then .error .invalidValue else .ok ⟨text⟩

/-- The options seen so far. -/
structure Draft where
  input : Option Path
  classpath : List Path
  settings : Option Path
  javaVersion : Option Nat
  output : Option Path
  quiet : Bool
  timing : Bool

namespace Draft

def empty : Draft := ⟨none, [], none, none, none, false, false⟩

/-- Gives an option its value. Only the classpath may be given more than once. -/
def assign (d : Draft) (option : ValueOption) (value : String) : Except UsageError Draft :=
  match option with
  | .input =>
    if d.input.isSome then .error .repeatedOption
    else (pathOf value).map fun path => { d with input := some path }
  | .classpath => (pathOf value).map fun path => { d with classpath := d.classpath ++ [path] }
  | .settings =>
    if d.settings.isSome then .error .repeatedOption
    else (pathOf value).map fun path => { d with settings := some path }
  | .javaVersion =>
    if d.javaVersion.isSome then .error .repeatedOption
    else
      match version? value with
      | some version => .ok { d with javaVersion := some version }
      | none => .error .badVersion
  | .output =>
    if d.output.isSome then .error .repeatedOption
    else (pathOf value).map fun path => { d with output := some path }

def setFlag (d : Draft) : Flag → Except UsageError Draft
  | .quiet => if d.quiet then .error .repeatedOption else .ok { d with quiet := true }
  | .timing => if d.timing then .error .repeatedOption else .ok { d with timing := true }
  | .help => .error .helpRequested
  | .version => .error .versionRequested

def finish (d : Draft) : Except UsageError Arguments :=
  match d.input with
  | some input =>
    .ok ⟨input, d.classpath, d.settings, d.javaVersion, d.output, d.quiet, d.timing⟩
  | none => .error .noInput

end Draft

-- ---------------------------------------------------------------------------
-- Reading words
-- ---------------------------------------------------------------------------

/-- An option that was given as a word of its own, and its value if that has come. -/
structure Pending where
  option : ValueOption
  value : Option String

def settle (d : Draft) : Option Pending → Except UsageError Draft
  | none => .ok d
  | some ⟨_, none⟩ => .error .invalidValue
  | some ⟨option, some value⟩ => d.assign option value

/-- Takes a flag after settling what is pending. -/
def takeFlag (d : Draft) (pending : Option Pending) (flag : Flag) : Except UsageError Draft := do
  let d ← settle d pending
  d.setFlag flag

def readWords : Draft → Option Pending → List String → Except UsageError Draft
  | d, pending, [] => settle d pending
  | d, pending, word :: words =>
    match Word.ofString word with
    | .divider => if words.isEmpty then settle d pending else .error .unknownArgument
    | .long name attached =>
      match longOption? name, attached with
      | none, _ => .error .unknownArgument
      | some (.flag _), some _ => .error .unexpectedValue
      | some (.flag flag), none => do
        let d ← takeFlag d pending flag
        readWords d none words
      | some (.value option), some value => do
        let d ← settle d pending
        let d ← d.assign option value
        readWords d none words
      | some (.value option), none => do
        let d ← settle d pending
        readWords d (some ⟨option, none⟩) words
    | .short 'h' => do
      let d ← takeFlag d pending .help
      readWords d none words
    | .short 'V' => do
      let d ← takeFlag d pending .version
      readWords d none words
    | .short _ => .error .unknownArgument
    | .plain text =>
      match pending with
      | some ⟨option, none⟩ => readWords d (some ⟨option, some text⟩) words
      | _ => .error .unknownArgument

/-- The arguments that the words after the program's name give. -/
def Arguments.parse (words : List String) : Except UsageError Arguments := do
  let d ← readWords .empty none words
  d.finish

end ClassAtlas.Cli
