/-!
# Module descriptors

What a module declares, with every name as it was spelled and every access
flag as it was set.
-/

namespace ClassAtlas

structure Requirement where
  module : String
  flags : UInt16
deriving DecidableEq

/-- A package that is exported or opened, to all modules or to some. -/
structure PackageDirective where
  package : String
  flags : UInt16
  targets : List String
deriving DecidableEq

structure Provision where
  service : String
  providers : List String
deriving DecidableEq

structure ModuleDescriptor where
  name : String
  flags : UInt16
  requires : List Requirement
  exports : List PackageDirective
  opens : List PackageDirective
  provides : List Provision
  uses : List String
deriving DecidableEq

end ClassAtlas
