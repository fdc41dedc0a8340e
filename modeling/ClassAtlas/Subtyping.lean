import ClassAtlas.JavaType

/-!
# Subtyping

When a value of one type may be assigned to a place of another. Classes are
related by a search through declared supertypes. The supertypes of a class are
asked for, one class at a time, and an answer may change the state of whoever
is asked, so the search passes that state along.
-/

namespace ClassAtlas

/-- A way to ask for the direct supertypes of a class. -/
abbrev SupertypeQuery (σ : Type) := ClassName → σ → List ClassName × σ

namespace Subtyping

variable {σ : Type}

-- ---------------------------------------------------------------------------
-- Classes
-- ---------------------------------------------------------------------------

/-- The classes that were not seen before, each once. -/
def fresh (seen : List ClassName) : List ClassName → List ClassName
  | [] => []
  | c :: cs => if seen.contains c then fresh seen cs else c :: fresh (c :: seen) cs

/-- Asks every class of one generation in turn, and stops with `none` at a class with the target
among its supertypes. Otherwise gives all classes seen so far and the next generation. -/
def generation (ask : SupertypeQuery σ) (target : ClassName) :
    List ClassName → List ClassName → List ClassName → σ →
      Option (List ClassName × List ClassName) × σ
  | [], seen, next, s => (some (seen, next), s)
  | c :: cs, seen, next, s =>
    match ask c s with
    | (supers, s) =>
      if supers.contains target then (none, s)
      else generation ask target cs (seen ++ fresh seen supers) (next ++ fresh seen supers) s

/-- Searches `fuel` generations for the target. -/
def search (ask : SupertypeQuery σ) (target : ClassName) :
    Nat → List ClassName → List ClassName → σ → Bool × σ
  | 0, _, _, s => (false, s)
  | _ + 1, _, [], s => (false, s)
  | fuel + 1, seen, c :: cs, s =>
    match generation ask target (c :: cs) seen [] s with
    | (none, s) => (true, s)
    | (some (seen, next), s) => search ask target fuel seen next s

/-- Whether `sub` is `super` or declares it as a supertype, at first or further hand. Every class
is below `Object`, declared or not. The start does not count as seen: a cycle leads back to it. -/
def isSubclass (ask : SupertypeQuery σ) (fuel : Nat) (sub super : ClassName) (s : σ) : Bool × σ :=
  if sub = super ∨ super = ClassName.object then (true, s)
  else search ask super fuel [] [sub] s

-- ---------------------------------------------------------------------------
-- All types
-- ---------------------------------------------------------------------------

/-- The classes that every array type is below. -/
def isArraySupertype (c : ClassName) : Bool :=
  c == ClassName.object || c == ClassName.cloneable || c == ClassName.serializable

/-- Arrays of as many dimensions compare by their bases, and primitive bases do not widen. With
more dimensions than the target, the rest is an array itself, which only a supertype of arrays
can hold. -/
def arrayAssignable (ask : SupertypeQuery σ) (fuel : Nat) (source target : ArrayType) (s : σ) :
    Bool × σ :=
  if source.dimensions = target.dimensions then
    match source.base, target.base with
    | .primitive p, .primitive q => (p == q, s)
    | .named c, .named d => isSubclass ask fuel c d s
    | _, _ => (false, s)
  else if target.dimensions < source.dimensions then
    match target.base with
    | .named c => (isArraySupertype c, s)
    | .primitive _ => (false, s)
  else (false, s)

/-- Whether a value of type `source` may be assigned to a place of type `target`. -/
def assignable (ask : SupertypeQuery σ) (fuel : Nat) (source target : JavaType) (s : σ) :
    Bool × σ :=
  match source, target with
  | .unknown, _ | _, .unknown => (false, s)
  | .void, _ | _, .void => (false, s)
  | .null, .null => (true, s)
  | _, .null => (false, s)
  | .primitive p, .primitive q => (p.widensTo q, s)
  | .primitive _, _ | _, .primitive _ => (false, s)
  | .null, _ => (true, s)
  | .named c, .named d => isSubclass ask fuel c d s
  | .named _, .array _ => (false, s)
  | .array _, .named c => (isArraySupertype c, s)
  | .array a, .array b => arrayAssignable ask fuel a b s

end Subtyping

-- ---------------------------------------------------------------------------
-- Written hierarchies
-- ---------------------------------------------------------------------------

/-- The declared supertypes of finitely many classes. -/
structure Hierarchy where
  entries : List (ClassName × List ClassName)

namespace Hierarchy

/-- The later of two entries for a class counts; a class without entry has no supertypes. -/
def supertypes (h : Hierarchy) (c : ClassName) : List ClassName :=
  (h.entries.reverse.lookup c).getD []

/-- Answers from the hierarchy and keeps record of the classes asked for. -/
def query (h : Hierarchy) : SupertypeQuery (List ClassName) :=
  fun c asked => (h.supertypes c, asked ++ [c])

/-- More generations than any search through the hierarchy has: each needs a class with an entry
of its own, but for the start, which may be met again, and the last. -/
def depth (h : Hierarchy) : Nat :=
  h.entries.length + 2

/-- Whether `source` may be assigned to `target`, and the classes asked for on the way. -/
def assignable (h : Hierarchy) (source target : JavaType) : Bool × List ClassName :=
  Subtyping.assignable h.query h.depth source target []

end Hierarchy

end ClassAtlas
