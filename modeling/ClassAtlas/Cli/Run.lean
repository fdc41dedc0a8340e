import ClassAtlas.Cli.Arguments
import ClassAtlas.Cli.Report
import ClassAtlas.Place
import ClassAtlas.View

/-!
# Running the command

Resolves all classes of an input and its classpath and reports them. The
classpath is sorted, so the report does not depend on the order in which it was
given.
-/

namespace ClassAtlas.Cli

/-- Why a run fails. -/
inductive RunError where
  | unreadableSettings (path : Path)
  | badSettings (path : Path)
  | noInput (path : Path)
  | noClasspathEntry (path : Path)
  | unsupported (path : Path)
  | unresolved (failure : Failure)
  | unwritable (path : Path)
deriving DecidableEq

def RunError.message : RunError → String
  | unreadableSettings path => "failed to read " ++ path.text
  | badSettings path => "failed to parse " ++ path.text
  | noInput path => "input not found: " ++ path.text
  | noClasspathEntry path => "classpath entry not found: " ++ path.text
  | unsupported path => "unsupported input file: " ++ path.text
  | unresolved _ => "failed to resolve classes"
  | unwritable path => "failed to open " ++ path.text

/-- The failure behind the error, if it came up in loading. -/
def RunError.failure? : RunError → Option Failure
  | unresolved failure => some failure
  | _ => none

-- ---------------------------------------------------------------------------
-- Settings
-- ---------------------------------------------------------------------------

/-- The settings in a file. It must be text. -/
def loadSettings (fs : FileSystem) (path : Path) : Except RunError Settings :=
  match (fs.read? path).bind Text.Utf8.decode? with
  | none => .error (.unreadableSettings path)
  | some text =>
    match Settings.parse? text with
    | none => .error (.badSettings path)
    | some settings => .ok settings

def Arguments.loadSettings (a : Arguments) (fs : FileSystem) : Except RunError Settings :=
  match a.settings with
  | none => .ok .empty
  | some path => Cli.loadSettings fs path

/-- The entries from the command line, then those of the settings. -/
def Arguments.mergedClasspath (a : Arguments) (settings : Settings) : List Path :=
  a.classpath ++ settings.classpath

def Arguments.language (a : Arguments) (settings : Settings) : Language :=
  match a.javaVersion, settings.javaVersion with
  | some version, _ => ⟨version⟩
  | none, some version => ⟨version⟩
  | none, none => .standard

-- ---------------------------------------------------------------------------
-- Locations
-- ---------------------------------------------------------------------------

def pathLe (p q : Path) : Bool :=
  decide (p.text ≤ q.text)

/-- Of neighbours that are the same path, only the first. -/
def dropRepeated : List Path → List Path
  | [] => []
  | p :: ps =>
    match dropRepeated ps with
    | [] => [p]
    | q :: qs => if p.same q then p :: qs else p :: q :: qs

def libraryPaths (classpath : List Path) : List Path :=
  dropRepeated (classpath.mergeSort pathLe)

def place (fs : FileSystem) (language : Language) (path : Path) : Except RunError Place :=
  match Place.detect? fs language path with
  | some place => .ok place
  | none => .error (.unsupported path)

def checkInput (fs : FileSystem) (path : Path) : Except RunError Unit :=
  if fs.contains path then .ok () else .error (.noInput path)

def checkClasspath (fs : FileSystem) : List Path → Except RunError Unit
  | [] => .ok ()
  | path :: paths =>
    if fs.contains path then checkClasspath fs paths else .error (.noClasspathEntry path)

/-- The view of an input and the libraries it needs. -/
def buildView [Formats] (fs : FileSystem) (language : Language) (settings : Settings) (input : Path)
    (classpath : List Path) : Except RunError View := do
  let program ← place fs language input
  let libraries ← (libraryPaths classpath).mapM (place fs language)
  return ⟨⟨program.location fs, .application⟩ ::
    libraries.map fun library => ⟨library.location fs, .library⟩,
    fun l => settings.optionsFor l.name⟩

-- ---------------------------------------------------------------------------
-- Runs
-- ---------------------------------------------------------------------------

/-- The report that the arguments ask for. -/
def report [Formats] (fs : FileSystem) (a : Arguments) : Except RunError Report := do
  let settings ← a.loadSettings fs
  let classpath := a.mergedClasspath settings
  let language := a.language settings
  checkInput fs a.input
  checkClasspath fs classpath
  let view ← buildView fs language settings a.input classpath
  match (view.classes .initial).1 with
  | .error failure => .error (.unresolved failure)
  | .ok classes =>
    return ⟨language, view.locations.map (·.location.name), classes.map ClassReport.ofUnit⟩

/-- What a run leaves behind. -/
structure Outcome where
  standardOutput : String
  files : FileSystem

/-- A single minus sign as output path stands for the standard output. -/
def isStandardOutput (path : Path) : Bool :=
  path.same ⟨"-"⟩

def write (fs : FileSystem) (output : Option Path) (text : String) : Except RunError Outcome :=
  match output with
  | none => .ok ⟨text, fs⟩
  | some path =>
    if isStandardOutput path then .ok ⟨text, fs⟩
    else
      match fs.write? path (Text.Utf8.encode text) with
      | some files => .ok ⟨"", files⟩
      | none => .error (.unwritable path)

def run [Formats] (fs : FileSystem) (a : Arguments) : Except RunError Outcome := do
  let report ← report fs a
  write fs a.output report.text

end ClassAtlas.Cli
