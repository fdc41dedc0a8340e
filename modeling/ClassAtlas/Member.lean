import ClassAtlas.JavaType
import ClassAtlas.Modifier

/-!
# Members

Fields and methods as classes declare them, and references to methods.
-/

namespace ClassAtlas

structure Field where
  name : String
  type : JavaType
  modifiers : Modifiers
deriving DecidableEq

def Field.isStatic (f : Field) : Bool :=
  f.modifiers.contains .static

/-- A method as seen from outside its class. -/
structure MethodRef where
  owner : ClassName
  name : String
  params : List JavaType
  result : JavaType
deriving DecidableEq, Inhabited

/-- The types with commas between them. -/
def typeList : List JavaType → String
  | [] => ""
  | [t] => t.text
  | t :: ts => t.text ++ "," ++ typeList ts

def MethodRef.text (m : MethodRef) : String :=
  "<" ++ m.owner.dotted ++ ": " ++ m.result.text ++ " " ++ m.name ++
    "(" ++ typeList m.params ++ ")>"

structure Method where
  name : String
  params : List JavaType
  result : JavaType
  modifiers : Modifiers
deriving DecidableEq

namespace Method

def isStatic (m : Method) : Bool :=
  m.modifiers.contains .static

def isConstructor (m : Method) : Bool :=
  m.name == "<init>"

def reference (m : Method) (owner : ClassName) : MethodRef :=
  ⟨owner, m.name, m.params, m.result⟩

end Method

end ClassAtlas
