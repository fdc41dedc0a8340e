/-!
# JSON

Documents, the strict reader for them and the writer that lays them out. A
number is kept as it is spelled. A string may hold escapes of lone surrogates,
which stand for no text: such a string can be passed over but not used.
-/

namespace ClassAtlas

inductive Json where
  | null
  | bool (value : Bool)
  | number (spelling : String)
  /-- A string, or none for one that is no text. -/
  | string (text : Option String)
  | array (items : List Json)
  | object (fields : List (Option String × Json))

namespace Json

-- ---------------------------------------------------------------------------
-- Reading strings
-- ---------------------------------------------------------------------------

/-- What is read, and what is left of the text. -/
abbrev Read (α : Type) := List Char → Option (α × List Char)

def isBlank (c : Char) : Bool :=
  c == ' ' || c == '\n' || c == '\t' || c == '\r'

def skipBlanks (cs : List Char) : List Char :=
  cs.dropWhile isBlank

def hexValue? (c : Char) : Option Nat :=
  if '0' ≤ c ∧ c ≤ '9' then some (c.toNat - '0'.toNat)
  else if 'a' ≤ c ∧ c ≤ 'f' then some (c.toNat - 'a'.toNat + 10)
  else if 'A' ≤ c ∧ c ≤ 'F' then some (c.toNat - 'A'.toNat + 10)
  else none

/-- A unit of a string: a character, or what one escape of four digits says. -/
inductive StringUnit where
  | char (c : Char)
  | code (n : Nat)

/-- The number in four hexadecimal digits. -/
def fourDigits : Read Nat
  | a :: b :: c :: d :: rest => do
    let a ← hexValue? a
    let b ← hexValue? b
    let c ← hexValue? c
    let d ← hexValue? d
    return (((a * 16 + b) * 16 + c) * 16 + d, rest)
  | _ => none

/-- The characters that a backslash and a letter stand for. -/
def shortEscape? : Char → Option Char
  | '"' => some '"'
  | '\\' => some '\\'
  | '/' => some '/'
  | 'b' => some '\x08'
  | 'f' => some '\x0c'
  | 'n' => some '\n'
  | 'r' => some '\r'
  | 't' => some '\t'
  | _ => none

/-- The units up to the closing quotation mark, at most `fuel` of them. -/
def stringUnits : Nat → Read (List StringUnit)
  | 0, _ => none
  | _ + 1, [] => none
  | _ + 1, '"' :: rest => some ([], rest)
  | fuel + 1, '\\' :: 'u' :: rest => do
    let (n, rest) ← fourDigits rest
    let (units, rest) ← stringUnits fuel rest
    return (.code n :: units, rest)
  | fuel + 1, '\\' :: c :: rest => do
    let c ← shortEscape? c
    let (units, rest) ← stringUnits fuel rest
    return (.char c :: units, rest)
  | fuel + 1, c :: rest =>
    if c.toNat < 0x20 ∨ c = '\\' then none
    else do
      let (units, rest) ← stringUnits fuel rest
      return (.char c :: units, rest)

def isLeading (n : Nat) : Bool :=
  0xD800 ≤ n && n ≤ 0xDBFF

def isTrailing (n : Nat) : Bool :=
  0xDC00 ≤ n && n ≤ 0xDFFF

/-- The text of units, if every surrogate has its partner. -/
def unitsText? : List StringUnit → Option (List Char)
  | [] => some []
  | .char c :: units => (unitsText? units).map (c :: ·)
  | .code m :: .code n :: units =>
    if isLeading m then
      if isTrailing n then
        (unitsText? units).map (Char.ofNat (0x10000 + (m - 0xD800) * 1024 + (n - 0xDC00)) :: ·)
      else none
    else if isTrailing m then none
    else (unitsText? (.code n :: units)).map (Char.ofNat m :: ·)
  | .code m :: units =>
    if isLeading m || isTrailing m then none else (unitsText? units).map (Char.ofNat m :: ·)

/-- A string after its opening quotation mark. -/
def readString : Read (Option String) := fun cs => do
  let (units, rest) ← stringUnits (cs.length + 1) cs
  return ((unitsText? units).map String.ofList, rest)

-- ---------------------------------------------------------------------------
-- Reading numbers
-- ---------------------------------------------------------------------------

def isDigit (c : Char) : Bool :=
  '0' ≤ c && c ≤ '9'

/-- At least one digit. -/
def digits : Read (List Char) := fun cs =>
  match cs.takeWhile isDigit with
  | [] => none
  | ds => some (ds, cs.dropWhile isDigit)

/-- Digits without a zero in front of others. -/
def wholePart : Read (List Char) := fun cs => do
  let (ds, rest) ← digits cs
  match ds with
  | '0' :: _ :: _ => none
  | ds => some (ds, rest)

def fraction : Read (List Char)
  | '.' :: rest => (digits rest).map fun (ds, rest) => ('.' :: ds, rest)
  | rest => some ([], rest)

def exponentDigits : Read (List Char)
  | '+' :: rest => (digits rest).map fun (ds, rest) => ('+' :: ds, rest)
  | '-' :: rest => (digits rest).map fun (ds, rest) => ('-' :: ds, rest)
  | rest => digits rest

def exponent : Read (List Char)
  | 'e' :: rest => (exponentDigits rest).map fun (ds, rest) => ('e' :: ds, rest)
  | 'E' :: rest => (exponentDigits rest).map fun (ds, rest) => ('E' :: ds, rest)
  | rest => some ([], rest)

def sign (cs : List Char) : List Char × List Char :=
  match cs with
  | '-' :: rest => (['-'], rest)
  | rest => ([], rest)

def readNumber : Read String := fun cs => do
  let (minus, rest) := sign cs
  let (whole, rest) ← wholePart rest
  let (fraction, rest) ← fraction rest
  let (exponent, rest) ← exponent rest
  return (String.ofList (minus ++ whole ++ fraction ++ exponent), rest)

-- ---------------------------------------------------------------------------
-- Reading documents
-- ---------------------------------------------------------------------------

mutual

/-- A value, with at most `fuel` steps. -/
def readValue : Nat → Read Json
  | 0, _ => none
  | fuel + 1, cs =>
    match skipBlanks cs with
    | 'n' :: 'u' :: 'l' :: 'l' :: rest => some (.null, rest)
    | 't' :: 'r' :: 'u' :: 'e' :: rest => some (.bool true, rest)
    | 'f' :: 'a' :: 'l' :: 's' :: 'e' :: rest => some (.bool false, rest)
    | '"' :: rest => (readString rest).map fun (text, rest) => (.string text, rest)
    | '[' :: rest =>
      match skipBlanks rest with
      | ']' :: rest => some (.array [], rest)
      | rest => (readItems fuel rest).map fun (items, rest) => (.array items, rest)
    | '\x7b' :: rest =>
      match skipBlanks rest with
      | '\x7d' :: rest => some (.object [], rest)
      | rest => (readFields fuel rest).map fun (fields, rest) => (.object fields, rest)
    | rest => (readNumber rest).map fun (spelling, rest) => (.number spelling, rest)

/-- The items up to the end of an array. -/
def readItems : Nat → Read (List Json)
  | 0, _ => none
  | fuel + 1, cs => do
    let (item, rest) ← readValue fuel cs
    match skipBlanks rest with
    | ']' :: rest => return ([item], rest)
    | ',' :: rest =>
      let (items, rest) ← readItems fuel rest
      return (item :: items, rest)
    | _ => none

/-- The fields up to the end of an object. -/
def readFields : Nat → Read (List (Option String × Json))
  | 0, _ => none
  | fuel + 1, cs => do
    match skipBlanks cs with
    | '"' :: rest =>
      let (key, rest) ← readString rest
      match skipBlanks rest with
      | ':' :: rest =>
        let (value, rest) ← readValue fuel rest
        match skipBlanks rest with
        | '\x7d' :: rest => return ([(key, value)], rest)
        | ',' :: rest =>
          let (fields, rest) ← readFields fuel rest
          return ((key, value) :: fields, rest)
        | _ => none
      | _ => none
    | _ => none

end

/-- A document and nothing else. Every two steps take a character, which bounds their number. -/
def parse? (text : String) : Option Json := do
  let cs := text.toList
  let (value, rest) ← readValue (2 * cs.length + 2) cs
  if (skipBlanks rest).isEmpty then some value else none

-- ---------------------------------------------------------------------------
-- Writing
-- ---------------------------------------------------------------------------

def hexDigit (n : Nat) : Char :=
  if n < 10 then Char.ofNat ('0'.toNat + n) else Char.ofNat ('a'.toNat + n - 10)

/-- Only what a string cannot hold is escaped. -/
def escape (c : Char) : List Char :=
  match c with
  | '"' => ['\\', '"']
  | '\\' => ['\\', '\\']
  | '\x08' => ['\\', 'b']
  | '\x0c' => ['\\', 'f']
  | '\n' => ['\\', 'n']
  | '\r' => ['\\', 'r']
  | '\t' => ['\\', 't']
  | c =>
    if c.toNat < 0x20 then
      ['\\', 'u', '0', '0', hexDigit (c.toNat / 16), hexDigit (c.toNat % 16)]
    else [c]

def quoted (s : String) : String :=
  String.ofList ('"' :: s.toList.flatMap escape ++ ['"'])

def newline (indent : Nat) : String :=
  "\n" ++ String.ofList (List.replicate (2 * indent) ' ')

/-- The parts with a comma and a new line between them. -/
def commaLines (indent : Nat) : List String → String
  | [] => ""
  | [s] => newline indent ++ s
  | s :: t :: rest => newline indent ++ s ++ "," ++ commaLines indent (t :: rest)

mutual

/-- The document with two blanks for every level, `indent` levels deep. -/
def prettyAt (indent : Nat) : Json → String
  | .null => "null"
  | .bool value => if value then "true" else "false"
  | .number spelling => spelling
  | .string text => quoted (text.getD "")
  | .array [] => "[]"
  | .array items => "[" ++ commaLines (indent + 1) (prettyItems (indent + 1) items) ++
      newline indent ++ "]"
  | .object [] => "\x7b\x7d"
  | .object fields => "\x7b" ++ commaLines (indent + 1) (prettyFields (indent + 1) fields) ++
      newline indent ++ "\x7d"

def prettyItems (indent : Nat) : List Json → List String
  | [] => []
  | item :: items => prettyAt indent item :: prettyItems indent items

def prettyFields (indent : Nat) : List (Option String × Json) → List String
  | [] => []
  | (key, value) :: fields =>
    (quoted (key.getD "") ++ ": " ++ prettyAt indent value) :: prettyFields indent fields

end

def pretty (j : Json) : String :=
  prettyAt 0 j

/-- A string that is a text. -/
def text (s : String) : Json :=
  .string (some s)

def nat (n : Nat) : Json :=
  .number (toString n)

def record (fields : List (String × Json)) : Json :=
  .object (fields.map fun (key, value) => (some key, value))

end Json

end ClassAtlas
