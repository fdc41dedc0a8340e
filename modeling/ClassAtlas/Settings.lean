import ClassAtlas.Declaration
import ClassAtlas.Json
import ClassAtlas.Path

/-!
# Settings

What a settings file says about the language, the classpath and how locations
are loaded. A record is written as an object or as an array of its values in
order; what is missing has its default.
-/

namespace ClassAtlas

/-- The largest language version there can be. -/
def maxVersion : Nat := 4294967295

namespace Json

def text? : Json → Option String
  | .string text => text
  | _ => none

def bool? : Json → Option Bool
  | .bool value => some value
  | _ => none

/-- A whole number that is spelled with digits only and is no larger than a version can be. -/
def version? : Json → Option Nat
  | .number spelling =>
    let ds := spelling.toList
    let value := ds.foldl (fun n c => n * 10 + (c.toNat - '0'.toNat)) 0
    if ds.all isDigit ∧ value ≤ maxVersion then some value else none
  | _ => none

def array? {α : Type} (item? : Json → Option α) : Json → Option (List α)
  | .array items => items.mapM item?
  | _ => none

/-- The fields with these keys, each at most once. Another key is skipped or refused, but it must
be a text. -/
def recordFields? (keys : List String) (skipOthers : Bool) :
    List (Option String × Json) → Option (List (String × Json))
  | [] => some []
  | (key, value) :: fields => do
    let key ← key
    let others ← recordFields? keys skipOthers fields
    if keys.contains key then
      if (others.lookup key).isSome then none else some ((key, value) :: others)
    else if skipOthers then some others
    else none

/-- The values of a record under their keys. -/
def record? (keys : List String) (skipOthers : Bool) : Json → Option (List (String × Json))
  | .object fields => recordFields? keys skipOthers fields
  | .array items => if items.length ≤ keys.length then some (keys.zip items) else none
  | _ => none

/-- The value under a key, or the default if there is none. -/
def fieldD {α : Type} (value? : Json → Option α) (default : α) (fields : List (String × Json))
    (key : String) : Option α :=
  match fields.lookup key with
  | none => some default
  | some value => value? value

end Json

/-- Null stands for no version. -/
def Language.ofJson? : Json → Option (Option Nat)
  | .null => some none
  | value => value.version?.map some

def LoadOptions.ofJson? (j : Json) : Option LoadOptions := do
  let fields ← j.record? ["resolve_members", "include_synthetic"] true
  let members ← Json.fieldD Json.bool? full.members fields "resolve_members"
  let synthetic ← Json.fieldD Json.bool? full.synthetic fields "include_synthetic"
  return ⟨members, synthetic⟩

structure Settings where
  javaVersion : Option Nat
  classpath : List Path
  /-- By the names of the locations, in increasing order. -/
  locationOptions : List (String × LoadOptions)
deriving DecidableEq

namespace Settings

def empty : Settings := ⟨none, [], []⟩

instance : Inhabited Settings := ⟨empty⟩

/-- Puts options under a name, in the place of what was there. -/
def insertOptions (name : String) (options : LoadOptions) :
    List (String × LoadOptions) → List (String × LoadOptions)
  | [] => [(name, options)]
  | (n, o) :: rest =>
    if name = n then (name, options) :: rest
    else if name < n then (name, options) :: (n, o) :: rest
    else (n, o) :: insertOptions name options rest

def optionsOfFields? : List (Option String × Json) → List (String × LoadOptions) →
    Option (List (String × LoadOptions))
  | [], found => some found
  | (key, value) :: fields, found => do
    let key ← key
    let options ← LoadOptions.ofJson? value
    optionsOfFields? fields (insertOptions key options found)

/-- The later of two fields with one name counts. -/
def options? : Json → Option (List (String × LoadOptions))
  | .object fields => optionsOfFields? fields []
  | _ => none

def ofJson? (j : Json) : Option Settings := do
  let fields ← j.record? ["java_version", "classpath", "location_options"] false
  let version ← Json.fieldD Language.ofJson? none fields "java_version"
  let classpath ← Json.fieldD (Json.array? Json.text?) [] fields "classpath"
  let options ← Json.fieldD options? [] fields "location_options"
  return ⟨version, classpath.map Path.mk, options⟩

def parse? (text : String) : Option Settings :=
  (Json.parse? text).bind ofJson?

def optionsFor (s : Settings) (location : String) : Option LoadOptions :=
  s.locationOptions.lookup location

end Settings

end ClassAtlas
