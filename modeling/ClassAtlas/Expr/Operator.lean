/-!
# Operators

The operators of expressions and the ways to invoke a method, with the words
and signs that print them.
-/

namespace ClassAtlas

inductive BinaryOp where
  | add
  | sub
  | mul
  | div
  | rem
  | and
  | or
  | xor
  | shl
  | shr
  | ushr
  | cmp
  | cmpg
  | cmpl
  | eq
  | ne
  | lt
  | le
  | gt
  | ge
deriving DecidableEq, Inhabited

/-- The sign between the operands, blanks included. -/
def BinaryOp.symbol : BinaryOp → String
  | add => " + "
  | sub => " - "
  | mul => " * "
  | div => " / "
  | rem => " % "
  | and => " & "
  | or => " | "
  | xor => " ^ "
  | shl => " << "
  | shr => " >> "
  | ushr => " >>> "
  | cmp => " cmp "
  | cmpg => " cmpg "
  | cmpl => " cmpl "
  | eq => " == "
  | ne => " != "
  | lt => " < "
  | le => " <= "
  | gt => " > "
  | ge => " >= "

inductive UnaryOp where
  | neg
  | length
deriving DecidableEq, Inhabited

def UnaryOp.keyword : UnaryOp → String
  | neg => "neg"
  | length => "lengthof"

/-- How a call finds its method. -/
inductive InvokeKind where
  | virtual
  | special
  | interface
  | static
deriving DecidableEq, Inhabited

namespace InvokeKind

def keyword : InvokeKind → String
  | virtual => "virtualinvoke"
  | special => "specialinvoke"
  | interface => "interfaceinvoke"
  | static => "staticinvoke"

/-- Whether the call is made on an object. -/
def hasBase (k : InvokeKind) : Bool :=
  k != static

end InvokeKind

end ClassAtlas
