import ClassAtlas.Expr.Arena
import ClassAtlas.Quoting

/-!
# Printing of expressions

Expressions describe themselves to a sink, piece by piece. One sink keeps the
pieces, another writes them as text, with or without quotation of names.
-/

namespace ClassAtlas

/-- Takes the pieces of a printed expression one after the other. -/
structure Sink (σ : Type) where
  literal : String → σ → σ
  type : JavaType → σ → σ
  var : Local → σ → σ
  const : Constant → σ → σ
  method : MethodRef → σ → σ

-- ---------------------------------------------------------------------------
-- What is printed
-- ---------------------------------------------------------------------------

namespace Sink

variable {σ : Type}

/-- Every size between brackets. -/
def sizes (sink : Sink σ) : List (σ → σ) → σ → σ
  | [], s => s
  | size :: rest, s => sink.sizes rest (sink.literal "]" (size (sink.literal "[" s)))

/-- A pair of brackets for every dimension without a size. -/
def unsized (sink : Sink σ) : Nat → σ → σ
  | 0, s => s
  | n + 1, s => sink.unsized n (sink.literal "[]" s)

/-- The arguments with commas between them. -/
def args (sink : Sink σ) : List (σ → σ) → σ → σ
  | [], s => s
  | [arg], s => arg s
  | arg :: next :: rest, s => sink.args (next :: rest) (sink.literal ", " (arg s))

def base (sink : Sink σ) : Option (σ → σ) → σ → σ
  | none, s => s
  | some base, s => sink.literal "." (base s)

/-- Prints an expression whose operands print themselves. -/
def node (sink : Sink σ) : Node (σ → σ) → σ → σ
  | .binary op left right, s => right (sink.literal op.symbol (left s))
  | .unary op operand, s => operand (sink.literal " " (sink.literal op.keyword s))
  | .cast operand type, s => operand (sink.literal ") " (sink.type type (sink.literal "(" s)))
  | .instanceOf operand type, s => sink.type type (sink.literal " instanceof " (operand s))
  | .new name, s => sink.type (.named name) (sink.literal "new " s)
  | .newArray element size, s =>
    sink.literal "]" (size (sink.literal ")[" (sink.type element (sink.literal "newarray (" s))))
  | .newMultiArray type sizes, s =>
    sink.unsized (type.dimensions.toNat - sizes.length) <| sink.sizes sizes <| sink.literal ")" <|
      sink.type type.base.type <| sink.literal "newmultiarray (" s
  | .invoke kind method base args, s =>
    sink.literal ")" <| sink.args args <| sink.literal "(" <| sink.method method <|
      sink.base base <| sink.literal " " <| sink.literal kind.keyword s

def leaf (sink : Sink σ) : Leaf → σ → σ
  | .var l => sink.var l
  | .const c => sink.const c

end Sink

def Tree.print {σ : Type} (sink : Sink σ) : Tree → σ → σ :=
  fold sink.leaf fun n => sink.node (n.map (·.2))

-- ---------------------------------------------------------------------------
-- Recorded pieces
-- ---------------------------------------------------------------------------

inductive Event where
  | literal (text : String)
  | type (type : JavaType)
  | var (l : Local)
  | const (c : Constant)
  | method (m : MethodRef)
deriving DecidableEq

/-- Keeps the pieces in the order in which they come. -/
def Sink.recorder : Sink (List Event) where
  literal text events := events ++ [.literal text]
  type type events := events ++ [.type type]
  var l events := events ++ [.var l]
  const c events := events ++ [.const c]
  method m events := events ++ [.method m]

def Tree.events (t : Tree) : List Event :=
  t.print Sink.recorder []

-- ---------------------------------------------------------------------------
-- Text
-- ---------------------------------------------------------------------------

/-- How names are written. -/
inductive NameStyle where
  | plain
  | quoted
deriving DecidableEq

namespace NameStyle

def name : NameStyle → String → String
  | plain, name => name
  | quoted, name => Quoting.quote name

def base (style : NameStyle) : BaseType → String
  | .named c => style.name c.dotted
  | .primitive p => p.name

def type (style : NameStyle) : JavaType → String
  | .named c => style.name c.dotted
  | .array a => style.base a.base ++ brackets a.dimensions.toNat
  | other => other.text

/-- The types with commas between them. -/
def types (style : NameStyle) : List JavaType → String
  | [] => ""
  | [t] => style.type t
  | t :: next :: rest => style.type t ++ "," ++ style.types (next :: rest)

def method (style : NameStyle) (m : MethodRef) : String :=
  "<" ++ style.type (.named m.owner) ++ ": " ++ style.type m.result ++ " " ++
    style.name m.name ++ "(" ++ style.types m.params ++ ")>"

end NameStyle

/-- Appends every piece to a text. -/
def Sink.text (style : NameStyle) : Sink String where
  literal text out := out ++ text
  type type out := out ++ style.type type
  var l out := out ++ style.name l.name
  const c out := out ++ c.text
  method m out := out ++ style.method m

def Tree.text (style : NameStyle) (t : Tree) : String :=
  t.print (Sink.text style) ""

namespace Arena

def events (a : Arena) (v : Value) : List Event :=
  (a.tree v).events

def text (a : Arena) (style : NameStyle) (v : Value) : String :=
  (a.tree v).text style

end Arena

end ClassAtlas
