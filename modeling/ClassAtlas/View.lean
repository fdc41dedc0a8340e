import ClassAtlas.Location
import ClassAtlas.Subtyping

/-!
# Views

A view resolves the classes of a program from an ordered list of locations,
each class once. Asking for one class asks every location and fails if more
than one has it; resolving all classes goes through the locations in order and
keeps the first source of every name. Whatever is done is recorded.
-/

namespace ClassAtlas

/-- A location and the part of the program that it holds. -/
structure Registered where
  location : Location
  role : Role

structure View where
  /-- In the order in which they are asked. -/
  locations : List Registered
  /-- The options for a location; without any, everything is loaded. -/
  options : Location → Option LoadOptions

-- ---------------------------------------------------------------------------
-- States
-- ---------------------------------------------------------------------------

/-- What a view does. Locations are given by their places in the list. -/
inductive Action where
  | lookup (location : Nat) (name : ClassName) (options : LoadOptions)
  | enumeration (location : Nat) (options : LoadOptions)
  | build (name : ClassName)
deriving DecidableEq

namespace Action

/-- The options of a look-up at a location. -/
def lookupAt? (location : Nat) : Action → Option LoadOptions
  | lookup l _ options => if l = location then some options else none
  | _ => none

/-- The options of an enumeration of a location. -/
def enumerationAt? (location : Nat) : Action → Option LoadOptions
  | enumeration l options => if l = location then some options else none
  | _ => none

end Action

structure ViewState where
  /-- The units built so far, in the order of their building. -/
  cache : List (ClassName × ResolvedUnit)
  /-- Whether all classes are resolved. -/
  resolved : Bool
  trace : List Action

namespace ViewState

def initial : ViewState := ⟨[], false, []⟩

def cached? (s : ViewState) (name : ClassName) : Option ResolvedUnit :=
  s.cache.lookup name

def record (s : ViewState) (action : Action) : ViewState :=
  { s with trace := s.trace ++ [action] }

/-- The options of all look-ups at a location so far. -/
def lookups (s : ViewState) (location : Nat) : List LoadOptions :=
  s.trace.filterMap (Action.lookupAt? location)

/-- The options of all enumerations of a location so far. -/
def enumerations (s : ViewState) (location : Nat) : List LoadOptions :=
  s.trace.filterMap (Action.enumerationAt? location)

/-- Builds the unit of a source and keeps it under a name. -/
def build (s : ViewState) (name : ClassName) (role : Role) (source : Source) :
    ResolvedUnit × ViewState :=
  (source.build role,
    { s.record (.build name) with cache := s.cache ++ [(name, source.build role)] })

/-- The classes built so far. -/
def classes (s : ViewState) : List ClassUnit :=
  s.cache.filterMap (·.2.standard?)

end ViewState

namespace View

def optionsFor (v : View) (l : Location) : LoadOptions :=
  (v.options l).getD .full

-- ---------------------------------------------------------------------------
-- One class
-- ---------------------------------------------------------------------------

/-- A source and the location that offers it. -/
structure Candidate where
  registered : Registered
  source : Source

/-- Asks locations for a class, the first of them being number `i`. A failure ends it. -/
def candidates (v : View) (name : ClassName) :
    Nat → List Registered → ViewState → Except Failure (List Candidate) × ViewState
  | _, [], s => (.ok [], s)
  | i, r :: rs, s =>
    let options := v.optionsFor r.location
    let answer := r.location.lookup (s.lookups i).length name options
    let s := s.record (.lookup i name options)
    match answer with
    | .error failure => (.error failure, s)
    | .ok found =>
      match v.candidates name (i + 1) rs s with
      | (.error failure, s) => (.error failure, s)
      | (.ok others, s) => (.ok ((found.map (⟨r, ·⟩)).toList ++ others), s)

/-- The unit of a class, built when it is asked for first. -/
def unit (v : View) (name : ClassName) (s : ViewState) : Except Failure ResolvedUnit × ViewState :=
  match s.cached? name with
  | some u => (.ok u, s)
  | none =>
    match v.candidates name 0 v.locations s with
    | (.error failure, s) => (.error failure, s)
    | (.ok [], s) => (.error (.notFound name), s)
    | (.ok [c], s) =>
      match s.build name c.registered.role c.source with
      | (u, s) => (.ok u, s)
    | (.ok cs, s) => (.error (.ambiguous name (cs.map (·.registered.location.name))), s)

/-- The unit of a class, which must be a class proper. -/
def standard (v : View) (name : ClassName) (s : ViewState) :
    Except Failure ClassUnit × ViewState :=
  match v.unit name s with
  | (.error failure, s) => (.error failure, s)
  | (.ok (.standard c), s) => (.ok c, s)
  | (.ok u, s) => (.error (.wrongKind name .standard u.kind), s)

/-- The unit of a class, which must be a module. -/
def module (v : View) (name : ClassName) (s : ViewState) :
    Except Failure ModuleUnit × ViewState :=
  match v.unit name s with
  | (.error failure, s) => (.error failure, s)
  | (.ok (.module m), s) => (.ok m, s)
  | (.ok u, s) => (.error (.wrongKind name .module u.kind), s)

-- ---------------------------------------------------------------------------
-- All classes
-- ---------------------------------------------------------------------------

/-- Builds the sources whose names are new. -/
def absorb (role : Role) : List Source → ViewState → ViewState
  | [], s => s
  | source :: sources, s =>
    match s.cached? source.name with
    | some _ => absorb role sources s
    | none => absorb role sources (s.build source.name role source).2

/-- Goes through all classes of locations, the first of them being number `i`. A failure ends it. -/
def resolveAll (v : View) : Nat → List Registered → ViewState → Except Failure Unit × ViewState
  | _, [], s => (.ok (), { s with resolved := true })
  | i, r :: rs, s =>
    let options := v.optionsFor r.location
    let answer := r.location.enumerate (s.enumerations i).length options
    let s := s.record (.enumeration i options)
    match answer with
    | .error failure => (.error failure, s)
    | .ok sources => v.resolveAll (i + 1) rs (absorb r.role sources s)

/-- All classes, in the order of their building. -/
def classes (v : View) (s : ViewState) : Except Failure (List ClassUnit) × ViewState :=
  if s.resolved then (.ok s.classes, s)
  else
    match v.resolveAll 0 v.locations s with
    | (.error failure, s) => (.error failure, s)
    | (.ok (), s) => (.ok s.classes, s)

-- ---------------------------------------------------------------------------
-- What follows from single classes
-- ---------------------------------------------------------------------------

/-- The annotations of a package; a package that has no unit of its own has none. -/
def packageAnnotations (v : View) (package : String) (s : ViewState) :
    Except Failure (List Annotation) × ViewState :=
  match v.standard (.packageInfo package) s with
  | (.ok c, s) => (.ok c.decl.annotations, s)
  | (.error (.notFound _), s) => (.ok [], s)
  | (.error failure, s) => (.error failure, s)

/-- The declared supertypes of a class; none if it cannot be resolved. -/
def supertypes (v : View) : SupertypeQuery ViewState := fun name s =>
  match v.standard name s with
  | (.ok c, s) => (c.decl.supertypes, s)
  | (.error _, s) => ([], s)

/-- More generations than any search has: each needs a class that is resolved already or that some
location offers, but for the start, which may be met again, and the last. -/
def depth (v : View) (s : ViewState) : Nat :=
  v.locations.foldr (·.location.size + ·) (s.cache.length + 2)

/-- Whether `source` may be assigned to `target`. -/
def assignable (v : View) (source target : JavaType) (s : ViewState) : Bool × ViewState :=
  Subtyping.assignable v.supertypes (v.depth s) source target s

end View

end ClassAtlas
