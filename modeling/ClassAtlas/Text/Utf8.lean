import ClassAtlas.Bytes.Reader

/-!
# UTF-8

Bytes are scanned into characters, with a gap for every run of bytes that
starts like a character and is no character. Strict decoding refuses gaps,
lossy decoding marks them. Encoding leaves none.
-/

namespace ClassAtlas.Text.Utf8

def encode (text : String) : Bytes :=
  text.toList.flatMap String.utf8EncodeChar

/-- A character of which some bytes are still to come. -/
structure Pending where
  /-- What the bytes so far say. -/
  code : Nat
  /-- How many bytes are to come after the next one. -/
  more : Nat
  /-- The bytes that may come next. -/
  low : UInt8
  high : UInt8

/-- What one byte adds to the characters read, and the character that then waits for more. -/
abbrev Step := List (Option Char) × Option Pending

/-- A byte that no character waits for. The range of the next byte leaves out what has a shorter
form, surrogates, and what is beyond the last character. -/
def start (b : UInt8) : Step :=
  if b < 0x80 then ([some (Char.ofNat b.toNat)], none)
  else if b < 0xC2 then ([none], none)
  else if b < 0xE0 then ([], some ⟨b.toNat - 0xC0, 0, 0x80, 0xBF⟩)
  else if b < 0xF0 then
    ([], some ⟨b.toNat - 0xE0, 1, if b = 0xE0 then 0xA0 else 0x80,
      if b = 0xED then 0x9F else 0xBF⟩)
  else if b < 0xF5 then
    ([], some ⟨b.toNat - 0xF0, 2, if b = 0xF0 then 0x90 else 0x80,
      if b = 0xF4 then 0x8F else 0xBF⟩)
  else ([none], none)

/-- A byte that does not go on with the waiting character leaves a gap and starts anew. -/
def step : Option Pending → UInt8 → Step
  | none, b => start b
  | some p, b =>
    if p.low ≤ b ∧ b ≤ p.high then
      let code := p.code * 64 + (b.toNat - 0x80)
      match p.more with
      | 0 => ([some (Char.ofNat code)], none)
      | more + 1 => ([], some ⟨code, more, 0x80, 0xBF⟩)
    else
      match start b with
      | (read, next) => (none :: read, next)

/-- The characters of the bytes, `none` for every gap. -/
def scan : Option Pending → Bytes → List (Option Char)
  | none, [] => []
  | some _, [] => [none]
  | pending, b :: bs =>
    match step pending b with
    | (read, next) => read ++ scan next bs

/-- The text, if the bytes have no gap. -/
def decode? (bytes : Bytes) : Option String :=
  ((scan none bytes).mapM id).map String.ofList

/-- The mark of a gap. -/
def replacement : Char := '�'

def decodeLossy (bytes : Bytes) : String :=
  String.ofList ((scan none bytes).map (·.getD replacement))

end ClassAtlas.Text.Utf8
