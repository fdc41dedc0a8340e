import ClassAtlas.ClassName
import ClassAtlas.Modifier
import ClassAtlas.Module.Descriptor
import ClassAtlas.Text.Identifier

/-!
# Relations of modules

What a module descriptor says about other modules, packages and classes. What
is no proper name is left out, and slashes count as dots in the names of
packages and classes.
-/

namespace ClassAtlas

structure ModuleReference where
  module : ClassName
  modifiers : Modifiers
deriving DecidableEq

structure PackageReference where
  package : String
  modifiers : Modifiers
  targets : List ClassName
deriving DecidableEq

structure ServiceProvision where
  service : ClassName
  providers : List ClassName
deriving DecidableEq

/-- The unit that describes the module, if the name can be a module's. -/
def ClassName.ofModuleName? (name : String) : Option ClassName :=
  if Text.isDottedIdentifier name then some (moduleInfo name) else none

/-- The dotted spelling, if it is a proper name. -/
def dottedName? (name : String) : Option String :=
  let dotted := Text.exchange '/' '.' name
  if Text.isDottedIdentifier dotted then some dotted else none

def ClassName.ofServiceName? (name : String) : Option ClassName :=
  (dottedName? name).map ofDotted

def Requirement.reference? (r : Requirement) : Option ModuleReference :=
  (ClassName.ofModuleName? r.module).map fun module =>
    ⟨module, .ofFlags .requires r.flags⟩

def PackageDirective.reference? (d : PackageDirective) : Option PackageReference :=
  (dottedName? d.package).map fun package =>
    ⟨package, .ofFlags .package d.flags, d.targets.filterMap ClassName.ofModuleName?⟩

/-- A provision stands even if none of its providers does. -/
def Provision.resolved? (p : Provision) : Option ServiceProvision :=
  (ClassName.ofServiceName? p.service).map fun service =>
    ⟨service, p.providers.filterMap ClassName.ofServiceName?⟩

namespace ModuleDescriptor

/-- The unit that holds the descriptor. -/
def unitName (d : ModuleDescriptor) : ClassName :=
  .moduleInfo d.name

def modifiers (d : ModuleDescriptor) : Modifiers :=
  .ofFlags .module d.flags

def requiredModules (d : ModuleDescriptor) : List ModuleReference :=
  d.requires.filterMap Requirement.reference?

def exportedPackages (d : ModuleDescriptor) : List PackageReference :=
  d.exports.filterMap PackageDirective.reference?

def openedPackages (d : ModuleDescriptor) : List PackageReference :=
  d.opens.filterMap PackageDirective.reference?

def providedServices (d : ModuleDescriptor) : List ServiceProvision :=
  d.provides.filterMap Provision.resolved?

def usedServices (d : ModuleDescriptor) : List ClassName :=
  d.uses.filterMap ClassName.ofServiceName?

end ModuleDescriptor

end ClassAtlas
