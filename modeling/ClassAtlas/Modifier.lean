/-!
# Modifiers

Declaration modifiers, the sets of them, and the tables that read them off
access flags. One bit means different things on different declarations, so
every kind of declaration has a table of its own.
-/

namespace ClassAtlas

inductive Modifier where
  | publicAccess
  | privateAccess
  | protectedAccess
  | static
  | final
  | synchronized
  | volatile
  | transient
  | native
  | interface
  | abstract
  | strict
  | synthetic
  | annotationType
  | enumType
  | module
  | openModule
  | transitive
  | mandated
  | bridge
  | varargs
deriving DecidableEq, Inhabited

namespace Modifier

/-- Every modifier, in the order in which sets of them are listed. -/
def all : List Modifier := [
  publicAccess, privateAccess, protectedAccess, static, final, synchronized, volatile, transient,
  native, interface, abstract, strict, synthetic, annotationType, enumType, module, openModule,
  transitive, mandated, bridge, varargs]

theorem mem_all (m : Modifier) : m ∈ all := by
  cases m <;> decide

/-- The word that declares the modifier in source text. -/
def keyword : Modifier → String
  | publicAccess => "public"
  | privateAccess => "private"
  | protectedAccess => "protected"
  | static => "static"
  | final => "final"
  | synchronized => "synchronized"
  | volatile => "volatile"
  | transient => "transient"
  | native => "native"
  | interface => "interface"
  | abstract => "abstract"
  | strict => "strictfp"
  | synthetic => "synthetic"
  | annotationType => "annotation"
  | enumType => "enum"
  | module => "module"
  | openModule => "open"
  | transitive => "transitive"
  | mandated => "mandated"
  | bridge => "bridge"
  | varargs => "varargs"

/-- The word that stands for the modifier in reports. -/
def reportName : Modifier → String
  | strict => "strict"
  | m => m.keyword

def ofKeyword? (word : String) : Option Modifier :=
  all.find? (·.keyword == word)

end Modifier

-- ---------------------------------------------------------------------------
-- Sets of modifiers
-- ---------------------------------------------------------------------------

/-- A set of modifiers, held as its members in the order of `Modifier.all`. -/
structure Modifiers where
  toList : List Modifier
  canonical : toList = Modifier.all.filter toList.contains
deriving DecidableEq

namespace Modifiers

def ofList (members : List Modifier) : Modifiers where
  toList := Modifier.all.filter members.contains
  canonical := by
    apply List.filter_congr
    intro m hm
    simp [hm]

def empty : Modifiers := ofList []

instance : Inhabited Modifiers := ⟨empty⟩

def contains (s : Modifiers) (m : Modifier) : Bool :=
  s.toList.contains m

@[simp] theorem contains_ofList (members : List Modifier) (m : Modifier) :
    (ofList members).contains m = members.contains m := by
  rw [Bool.eq_iff_iff]
  simp [ofList, contains, Modifier.mem_all]

end Modifiers

-- ---------------------------------------------------------------------------
-- Access flags
-- ---------------------------------------------------------------------------

/-- Which bit of an access flag word sets which modifier. -/
abbrev FlagTable := List (UInt16 × Modifier)

namespace FlagTable

def module : FlagTable :=
  [(0x0020, .openModule), (0x1000, .synthetic), (0x8000, .mandated)]

def requires : FlagTable :=
  [(0x0020, .transitive), (0x0040, .static), (0x1000, .synthetic), (0x8000, .mandated)]

/-- For the packages that a module exports or opens. -/
def package : FlagTable :=
  [(0x1000, .synthetic), (0x8000, .mandated)]

def classFlags : FlagTable :=
  [(0x0001, .publicAccess), (0x0010, .final), (0x0200, .interface), (0x0400, .abstract),
   (0x1000, .synthetic), (0x2000, .annotationType), (0x4000, .enumType)]

def field : FlagTable :=
  [(0x0001, .publicAccess), (0x0002, .privateAccess), (0x0004, .protectedAccess),
   (0x0008, .static), (0x0010, .final), (0x0040, .volatile), (0x0080, .transient),
   (0x1000, .synthetic), (0x4000, .enumType)]

def method : FlagTable :=
  [(0x0001, .publicAccess), (0x0002, .privateAccess), (0x0004, .protectedAccess),
   (0x0008, .static), (0x0010, .final), (0x0020, .synchronized), (0x0040, .bridge),
   (0x0080, .varargs), (0x0100, .native), (0x0400, .abstract), (0x0800, .strict),
   (0x1000, .synthetic)]

end FlagTable

/-- The modifiers whose bits are set; bits that the table does not know are ignored. -/
def Modifiers.ofFlags (table : FlagTable) (flags : UInt16) : Modifiers :=
  ofList ((table.filter fun (bit, _) => flags &&& bit != 0).map (·.2))

namespace Modifiers

variable {table : FlagTable} {flags : UInt16}

theorem contains_ofFlags_iff {m : Modifier} :
    (ofFlags table flags).contains m = true ↔ ∃ bit, (bit, m) ∈ table ∧ flags &&& bit ≠ 0 := by
  simp [ofFlags]

/-- The modifiers whose bits are set, by the table. -/
def AreSet (s : Modifiers) (table : FlagTable) (flags : UInt16) : Prop :=
  ∀ m, s.contains m = true ↔ ∃ bit, (bit, m) ∈ table ∧ flags &&& bit ≠ 0

theorem areSet_ofFlags (table : FlagTable) (flags : UInt16) :
    (ofFlags table flags).AreSet table flags :=
  fun _ => contains_ofFlags_iff

theorem areSet_iff {s : Modifiers} :
    s.AreSet table flags ↔ s = ofFlags table flags := by
  constructor
  · intro h
    have hsame (m : Modifier) : s.contains m = (ofFlags table flags).contains m :=
      Bool.eq_iff_iff.mpr ((h m).trans contains_ofFlags_iff.symm)
    have hlist : s.toList = (ofFlags table flags).toList := by
      rw [s.canonical, (ofFlags table flags).canonical]
      exact List.filter_congr fun m _ => hsame m
    cases s
    cases hlist
    rfl
  · rintro rfl
    exact areSet_ofFlags table flags

end Modifiers

end ClassAtlas
