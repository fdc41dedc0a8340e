import ClassAtlas.Module.Relations
import ClassAtlas.Proofs.Names.Descriptors

/-!
# Kept relations

A descriptor spells names as it likes, and what it spells as no proper name is
dropped. Of each of its lists exactly the proper entries are kept, in order,
and the identity that stands for a name is called by that very name.
-/

namespace ClassAtlas

/-- If those members are taken that pass a test, the members that pass it belong to what is taken,
one by one. -/
theorem forall₂_filter_filterMap {α β : Type} {R : α → β → Prop} {test : α → Bool}
    {take : α → Option β} (hdrop : ∀ a, test a = false → take a = none)
    (hkeep : ∀ a, test a = true → ∃ b, take a = some b ∧ R a b) (l : List α) :
    List.Forall₂ R (l.filter test) (l.filterMap take) := by
  induction l with
  | nil => exact .nil
  | cons a l ih =>
    cases h : test a with
    | false => rwa [List.filter_cons_of_neg (by simp [h]), List.filterMap_cons_none (hdrop a h)]
    | true =>
      obtain ⟨b, hb, hR⟩ := hkeep a h
      rw [List.filter_cons_of_pos h, List.filterMap_cons_some hb]
      exact .cons hR ih

/-! ## Names of modules -/

namespace ClassName

/-- The package of a module's unit is the module's name as it is. -/
theorem moduleInfo_eq (module : String) : moduleInfo module = ⟨module, moduleInfoName⟩ := by
  have hsimple : '.' ∉ moduleInfoName.toList := by decide
  rw [moduleInfo, inPackage_eq_ofDotted]
  exact ofDotted_dotted hsimple

end ClassName

/-! ## What entries stand for -/

/-- The spelling with dots. -/
def dottedSpelling (name : String) : String :=
  Text.exchange '/' '.' name

structure Requirement.StandsFor (r : Requirement) (m : ModuleReference) : Prop where
  module : m.module = ⟨r.module, ClassName.moduleInfoName⟩
  modifiers : m.modifiers.AreSet .requires r.flags

structure PackageDirective.StandsFor (d : PackageDirective) (p : PackageReference) : Prop where
  package : p.package = dottedSpelling d.package
  modifiers : p.modifiers.AreSet .package d.flags
  targets : p.targets =
    (d.targets.filter Text.isDottedIdentifier).map fun t => ⟨t, ClassName.moduleInfoName⟩

/-- The identities that the proper ones among the names stand for. -/
def ServicesOf (names : List String) (services : List ClassName) : Prop :=
  List.Forall₂ (fun name c => ClassName.IsCalled c (dottedSpelling name))
    (names.filter fun name => Text.isDottedIdentifier (dottedSpelling name)) services

structure Provision.StandsFor (p : Provision) (s : ServiceProvision) : Prop where
  service : s.service.IsCalled (dottedSpelling p.service)
  providers : ServicesOf p.providers s.providers

/-! ## Keeping them -/

theorem ofModuleName?_eq (name : String) :
    ClassName.ofModuleName? name =
      if Text.isDottedIdentifier name then some ⟨name, ClassName.moduleInfoName⟩ else none := by
  rw [ClassName.ofModuleName?, ClassName.moduleInfo_eq]

theorem dottedName?_eq (name : String) :
    dottedName? name =
      if Text.isDottedIdentifier (dottedSpelling name) then some (dottedSpelling name) else none :=
  rfl

theorem filterMap_ofModuleName? (names : List String) :
    names.filterMap ClassName.ofModuleName? =
      (names.filter Text.isDottedIdentifier).map fun t => ⟨t, ClassName.moduleInfoName⟩ := by
  rw [← List.filterMap_eq_map, List.filterMap_filter]
  exact List.filterMap_congr fun name _ => ofModuleName?_eq name

theorem servicesOf_filterMap (names : List String) :
    ServicesOf names (names.filterMap ClassName.ofServiceName?) := by
  refine forall₂_filter_filterMap ?_ ?_ names
  · intro name h
    simp [ClassName.ofServiceName?, dottedName?_eq, h]
  · intro name h
    refine ⟨.ofDotted (dottedSpelling name), ?_, ClassName.isCalled_ofDotted h⟩
    simp [ClassName.ofServiceName?, dottedName?_eq, h]

theorem standsFor_requires (l : List Requirement) :
    List.Forall₂ Requirement.StandsFor (l.filter fun r => Text.isDottedIdentifier r.module)
      (l.filterMap Requirement.reference?) := by
  refine forall₂_filter_filterMap ?_ ?_ l
  · intro r h
    simp [Requirement.reference?, ofModuleName?_eq, h]
  · intro r h
    refine ⟨⟨⟨r.module, ClassName.moduleInfoName⟩, .ofFlags .requires r.flags⟩, ?_, rfl, ?_⟩
    · simp [Requirement.reference?, ofModuleName?_eq, h]
    · exact Modifiers.areSet_ofFlags _ _

theorem standsFor_packages (l : List PackageDirective) :
    List.Forall₂ PackageDirective.StandsFor
      (l.filter fun d => Text.isDottedIdentifier (dottedSpelling d.package))
      (l.filterMap PackageDirective.reference?) := by
  refine forall₂_filter_filterMap ?_ ?_ l
  · intro d h
    simp [PackageDirective.reference?, dottedName?_eq, h]
  · intro d h
    refine ⟨⟨dottedSpelling d.package, .ofFlags .package d.flags,
      d.targets.filterMap ClassName.ofModuleName?⟩, ?_, rfl, ?_, filterMap_ofModuleName? d.targets⟩
    · simp [PackageDirective.reference?, dottedName?_eq, h]
    · exact Modifiers.areSet_ofFlags _ _

theorem standsFor_provides (l : List Provision) :
    List.Forall₂ Provision.StandsFor
      (l.filter fun p => Text.isDottedIdentifier (dottedSpelling p.service))
      (l.filterMap Provision.resolved?) := by
  refine forall₂_filter_filterMap ?_ ?_ l
  · intro p h
    simp [Provision.resolved?, ClassName.ofServiceName?, dottedName?_eq, h]
  · intro p h
    refine ⟨⟨.ofDotted (dottedSpelling p.service),
      p.providers.filterMap ClassName.ofServiceName?⟩, ?_, ClassName.isCalled_ofDotted h,
      servicesOf_filterMap p.providers⟩
    simp [Provision.resolved?, ClassName.ofServiceName?, dottedName?_eq, h]

/-- Every relation of a descriptor has an entry for each of its proper entries, in order, and no
others. Names of packages and classes are proper or not in the spelling with dots, whose parts on
both sides of a dot are then proper, too. -/
theorem ModuleDescriptor.relations_keep_proper_entries (d : ModuleDescriptor) :
    List.Forall₂ Requirement.StandsFor
      (d.requires.filter fun r => Text.isDottedIdentifier r.module) d.requiredModules ∧
    List.Forall₂ PackageDirective.StandsFor
      (d.exports.filter fun p => Text.isDottedIdentifier (dottedSpelling p.package))
      d.exportedPackages ∧
    List.Forall₂ PackageDirective.StandsFor
      (d.opens.filter fun p => Text.isDottedIdentifier (dottedSpelling p.package))
      d.openedPackages ∧
    List.Forall₂ Provision.StandsFor
      (d.provides.filter fun p => Text.isDottedIdentifier (dottedSpelling p.service))
      d.providedServices ∧
    ServicesOf d.uses d.usedServices ∧
    ∀ front back : String, Text.isDottedIdentifier (front ++ "." ++ back) =
      (Text.isDottedIdentifier front && Text.isDottedIdentifier back) :=
  ⟨standsFor_requires d.requires, standsFor_packages d.exports, standsFor_packages d.opens,
    standsFor_provides d.provides, servicesOf_filterMap d.uses, Text.isDottedIdentifier_append⟩

end ClassAtlas
