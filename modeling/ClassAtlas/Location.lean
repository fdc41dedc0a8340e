import ClassAtlas.Source

/-!
# Locations

A location offers classes: one by its name, or all that it has. What it
answers may depend on how often it was asked before, as with a medium that
fails now and then.
-/

namespace ClassAtlas

structure Location where
  name : String
  /-- No more classes than this are ever offered by name. -/
  size : Nat
  /-- The class with this name, the number of earlier look-ups given. -/
  lookup : Nat → ClassName → LoadOptions → Except Failure (Option Source)
  /-- All classes, the number of earlier enumerations given. -/
  enumerate : Nat → LoadOptions → Except Failure (List Source)

/-- The location with a failure in place of its first answers. -/
def Location.failingFirst (lookups enumerations : Nat) (failure : Failure) (l : Location) :
    Location where
  name := l.name
  size := l.size
  lookup n name options := if n < lookups then .error failure else l.lookup n name options
  enumerate n options := if n < enumerations then .error failure else l.enumerate n options

/-- Refuses a source that declares another class than its path says. -/
def Source.expect (name : ClassName) (s : Source) : Except Failure Source :=
  if s.name = name then .ok s
  else .error (.undecodable s.origin.path.text (.declares s.name name))

/-- Whether a path is that of a class: module descriptors are no classes. -/
def isClassEntry (path : String) : Bool :=
  classSuffix.toList.isSuffixOf path.toList &&
    !moduleFilePath.text.toList.isSuffixOf path.toList

end ClassAtlas
