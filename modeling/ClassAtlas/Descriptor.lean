import ClassAtlas.JavaType.Array

/-!
# Descriptors

The short spelling that class files give types: one letter for a primitive
type, `L` and `;` around a class name, one bracket a dimension. Not all that
can be spelled is a type: a class needs a name, and nothing is an array of
void.
-/

namespace ClassAtlas

/-- A text that is no descriptor of what it is meant for. -/
structure InvalidDescriptor where
  text : String
deriving DecidableEq

def InvalidDescriptor.message (e : InvalidDescriptor) : String :=
  "invalid descriptor `" ++ e.text ++ "`"

/-- What a descriptor spells. -/
inductive TypeDescriptor where
  | primitive (p : Primitive)
  | void
  | object (internal : String)
  | array (element : TypeDescriptor) (dimensions : UInt8)
deriving DecidableEq

structure MethodDescriptor where
  params : List TypeDescriptor
  result : TypeDescriptor
deriving DecidableEq

namespace TypeDescriptor

/-- The type that is spelled, if it is one. -/
def type? : TypeDescriptor → Option JavaType
  | primitive p => some (.primitive p)
  | void => some .void
  | object internal => if internal = "" then none else some (.named (.ofInternal internal))
  | array element dimensions => do
    let element ← element.type?
    let array ← (ArrayType.of element dimensions.toUInt32).toOption
    return .array array

/-- The type that is spelled, if values can have it. -/
def valueType? (d : TypeDescriptor) : Option JavaType :=
  d.type?.filter (· ≠ .void)

end TypeDescriptor

/-- The types of the parameters and of the result. Only the result may be void. -/
def MethodDescriptor.types? (d : MethodDescriptor) : Option (List JavaType × JavaType) := do
  let params ← d.params.mapM TypeDescriptor.valueType?
  let result ← d.result.type?
  return (params, result)

namespace Descriptor

-- ---------------------------------------------------------------------------
-- Writing
-- ---------------------------------------------------------------------------

def letter : Primitive → Char
  | .boolean => 'Z'
  | .byte => 'B'
  | .char => 'C'
  | .short => 'S'
  | .int => 'I'
  | .long => 'J'
  | .float => 'F'
  | .double => 'D'

def writeBase : BaseType → List Char
  | .primitive p => [letter p]
  | .named c => 'L' :: c.internal.toList ++ [';']

/-- The descriptor of a type; the null type and the unknown type have none. -/
def write? : JavaType → Option (List Char)
  | .primitive p => some (writeBase (.primitive p))
  | .named c => some (writeBase (.named c))
  | .array a => some (List.replicate a.dimensions.toNat '[' ++ writeBase a.base)
  | .void => some ['V']
  | .null | .unknown => none

-- ---------------------------------------------------------------------------
-- Parsing
-- ---------------------------------------------------------------------------

def primitive? (c : Char) : Option Primitive :=
  Primitive.all.find? (letter · == c)

/-- The descriptor at the head of a text, if it is not that of an array, and the rest. -/
def base? : List Char → Option (TypeDescriptor × List Char)
  | [] => none
  | 'V' :: cs => some (.void, cs)
  | 'L' :: cs => (Text.splitFirst ';' cs).map fun (name, rest) =>
    (.object (String.ofList name), rest)
  | c :: cs => (primitive? c).map fun p => (.primitive p, cs)

/-- How many brackets head the text, and the rest. -/
def dimensions : List Char → Nat × List Char
  | '[' :: cs => ((dimensions cs).1 + 1, (dimensions cs).2)
  | cs => (0, cs)

def withDimensions (base : TypeDescriptor) (dimensions : Nat) : TypeDescriptor :=
  if dimensions = 0 then base else .array base (.ofNat dimensions)

/-- The descriptor at the head of a text, and the rest. Brackets are counted in a byte. -/
def one? (cs : List Char) : Option (TypeDescriptor × List Char) :=
  match dimensions cs with
  | (n, rest) =>
    if n < UInt8.size then (base? rest).map fun (base, rest) => (withDimensions base n, rest)
    else none

/-- The descriptors up to the closing parenthesis, at most `fuel` of them, and the rest. -/
def many? : Nat → List Char → Option (List TypeDescriptor × List Char)
  | _, ')' :: rest => some ([], rest)
  | 0, _ => none
  | fuel + 1, cs => do
    let (first, rest) ← one? cs
    let (others, rest) ← many? fuel rest
    return (first :: others, rest)

/-- The descriptor that a text opens with. What follows it is left alone. -/
def parseType? (text : String) : Option TypeDescriptor :=
  (one? text.toList).map (·.1)

/-- The descriptor of a method that a text opens with. -/
def parseMethod? (text : String) : Option MethodDescriptor :=
  match text.toList with
  | '(' :: cs => do
    let (params, rest) ← many? cs.length cs
    let (result, _) ← one? rest
    return ⟨params, result⟩
  | _ => none

end Descriptor

end ClassAtlas
