import ClassAtlas.Archive.Record

/-!
# Extra fields

What the header of an entry holds beyond its fixed fields: sizes that do not
fit there, times, names in UTF-8, and how the content is encrypted. A field that
is not understood is passed over, one that is and breaks its rules is refused.
-/

namespace ClassAtlas.Archive

inductive ExtraKind where
  | wideSizes
  | fileTimes
  | timestamps
  | unicodeComment
  | unicodeName
  | encryption
  | other
deriving DecidableEq

def ExtraKind.ofCode (code : Nat) : ExtraKind :=
  match code with
  | 0x0001 => wideSizes
  | 0x000A => fileTimes
  | 0x5455 => timestamps
  | 0x6375 => unicodeComment
  | 0x7075 => unicodeName
  | 0x9901 => encryption
  | _ => other

structure ExtraField where
  kind : ExtraKind
  content : Bytes

/-- The fields one after the other, each with a code and the size of its content in front. A byte
that is left over is ignored; more than one is refused if they are no field. -/
def extraFields? : Bytes → Option (List ExtraField)
  | [] | [_] => some []
  | [_, _] | [_, _, _] => none
  | c₀ :: c₁ :: s₀ :: s₁ :: rest =>
    let size := littleEndian [s₀, s₁]
    if size ≤ rest.length then
      (extraFields? (rest.drop size)).map
        (⟨.ofCode (littleEndian [c₀, c₁]), rest.take size⟩ :: ·)
    else none
termination_by bytes => bytes.length
decreasing_by simp only [List.length_drop, List.length_cons]; omega

-- ---------------------------------------------------------------------------
-- Times
-- ---------------------------------------------------------------------------

/-- Three times of eight bytes, as the first and only attribute. -/
def isFileTimes (content : Bytes) : Bool :=
  content.length == 32 && fieldAt content 4 2 == 1 && fieldAt content 6 2 == 24

/-- How many of the eight bits of a byte are set. -/
def bitCount (n : Nat) : Nat :=
  ((List.range 8).filter n.testBit).length

/-- A byte of flags, and a time of four bytes for each that is set. The flags may speak of the
entry's other header, so a single time goes with any flags. -/
def isTimestamps (content : Bytes) : Bool :=
  match content with
  | [] => false
  | flags :: times => times.length == 4 || times.length == 4 * bitCount flags.toNat

-- ---------------------------------------------------------------------------
-- Encryption
-- ---------------------------------------------------------------------------

/-- The code of the method by which the encrypted content is compressed. -/
def encryptedMethod? (content : Bytes) : Option Nat :=
  let version := fieldAt content 0 2
  let strength := fieldAt content 4 1
  if content.length = 7 ∧ (version = 1 ∨ version = 2) ∧ fieldAt content 2 2 = 0x4541 ∧
      1 ≤ strength ∧ strength ≤ 3 then
    some (fieldAt content 5 2)
  else none

end ClassAtlas.Archive
