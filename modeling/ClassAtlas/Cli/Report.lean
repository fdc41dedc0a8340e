import ClassAtlas.Json
import ClassAtlas.Language
import ClassAtlas.Quoting
import ClassAtlas.Source

/-!
# Reports

What is reported of a resolved program, and the document that says so.
-/

namespace ClassAtlas.Cli

structure ClassReport where
  name : String
  superclass : Option String
  interfaces : List String
  modifiers : List Modifier
  fieldCount : Nat
  methodCount : Nat
  location : String
  role : Role
deriving DecidableEq

structure Report where
  language : Language
  /-- In the order in which they are asked. -/
  locations : List String
  classes : List ClassReport
deriving DecidableEq

/-- Names are quoted, as they may be reserved words. -/
def ClassReport.ofUnit (c : ClassUnit) : ClassReport where
  name := Quoting.quote c.decl.name.dotted
  superclass := c.decl.superclass.map fun name => Quoting.quote name.dotted
  interfaces := c.decl.interfaces.map fun name => Quoting.quote name.dotted
  modifiers := c.decl.modifiers.toList
  fieldCount := c.decl.fields.length
  methodCount := c.decl.methods.length
  location := c.origin.location
  role := c.role

def toolName : String := "sootview"

def toolVersion : String := "0.1.0"

def ClassReport.json (c : ClassReport) : Json :=
  .record [
    ("name", .text c.name),
    ("superclass", (c.superclass.map Json.text).getD .null),
    ("interfaces", .array (c.interfaces.map Json.text)),
    ("modifiers", .array (c.modifiers.map fun m => .text m.reportName)),
    ("field_count", .nat c.fieldCount),
    ("method_count", .nat c.methodCount),
    ("location", .text c.location),
    ("source_type", .text c.role.name)]

def Report.json (r : Report) : Json :=
  .record [
    ("tool", .record [("name", .text toolName), ("version", .text toolVersion)]),
    ("language", .text r.language.text),
    ("locations", .array (r.locations.map Json.text)),
    ("classes", .array (r.classes.map ClassReport.json))]

/-- The document and the end of its last line. -/
def Report.text (r : Report) : String :=
  r.json.pretty ++ "\n"

end ClassAtlas.Cli
