import ClassAtlas.Location
import ClassAtlas.Proofs.Attempts

/-!
# Decoding in two places

To decode the same bytes in two places ends alike: the place is part of what a
failure says, and of nothing that is decoded.
-/

namespace ClassAtlas

namespace ClassFile

variable (pool : ConstantPool) (origin origin' : String)

theorem text_alike (index : Nat) : Alike Eq (text pool origin index) (text pool origin' index) := by
  unfold text
  cases pool.text? index with
  | none => exact .failed _ _
  | some value => exact .done rfl

theorem className_alike (index : Nat) :
    Alike Eq (className pool origin index) (className pool origin' index) := by
  unfold className
  cases pool.nameIndex? PoolEntry.classTag index with
  | none => exact .failed _ _
  | some nameIndex => exact (text_alike pool origin origin' nameIndex).map fun _ _ => congrArg _

theorem superclass_alike (index : Nat) :
    Alike Eq (superclass pool origin index) (superclass pool origin' index) := by
  unfold superclass
  split
  · exact .done rfl
  · exact (className_alike pool origin origin' index).map fun _ _ => congrArg _

theorem annotationOf_alike [Formats] (index : Nat) :
    Alike Eq (annotationOf pool origin index) (annotationOf pool origin' index) := by
  unfold annotationOf
  apply (text_alike pool origin origin' index).bind_eq
  intro descriptor
  apply (Alike.refl (fieldType descriptor)).bind_eq
  intro type
  cases type with
  | named name => exact .done rfl
  | _ => exact .failed _ _

theorem field_alike [Formats] (info : MemberInfo) :
    Alike Eq (field pool origin info) (field pool origin' info) := by
  unfold field
  apply (text_alike pool origin origin' info.name).bind_eq
  intro name
  apply (text_alike pool origin origin' info.descriptor).bind_eq
  intro descriptor
  exact Alike.refl _

theorem method_alike [Formats] (info : MemberInfo) :
    Alike Eq (method pool origin info) (method pool origin' info) := by
  unfold method
  apply (text_alike pool origin origin' info.name).bind_eq
  intro name
  apply (text_alike pool origin origin' info.descriptor).bind_eq
  intro descriptor
  exact Alike.refl _

theorem members_alike [Formats] (options : LoadOptions) (c : ClassFile) :
    Alike Eq (members pool origin options c) (members pool origin' options c) := by
  unfold members
  split
  · apply (Alike.mapM_eq (field_alike pool origin origin') c.fields).bind_eq
    intro fields
    apply (Alike.mapM_eq (method_alike pool origin origin') c.methods).bind_eq
    intro methods
    exact Alike.refl _
  · exact Alike.refl _

theorem declaration_alike [Formats] (options : LoadOptions) (c : ClassFile) :
    Alike Eq (declaration origin options c) (declaration origin' options c) := by
  unfold declaration
  apply (className_alike c.pool origin origin' c.thisClass).bind_eq
  intro name
  apply (superclass_alike c.pool origin origin' c.superClass).bind_eq
  intro superclass
  apply (Alike.mapM_eq (className_alike c.pool origin origin') c.interfaces).bind_eq
  intro interfaces
  apply (members_alike c.pool origin origin' options c).bind_eq
  intro members
  apply (Alike.mapM_eq (annotationOf_alike c.pool origin origin') c.annotationTypes).bind_eq
  intro annotations
  exact Alike.refl _

theorem decode_alike [Formats] (options : LoadOptions) (bytes : Bytes) :
    Alike Eq (decode origin options bytes) (decode origin' options bytes) := by
  unfold decode
  cases Formats.classFile bytes with
  | error fault => exact .failed _ _
  | ok c => exact declaration_alike origin origin' options c

end ClassFile

namespace Source

theorem expect_eq_ok_iff {name : ClassName} {source result : Source} :
    source.expect name = .ok result ↔ source.name = name ∧ source = result := by
  unfold expect
  split <;> simp_all

/-- The source without where it was found. -/
def bare (s : Source) : Source :=
  s.withOrigin default

@[simp] theorem name_bare (s : Source) : s.bare.name = s.name := by
  cases s <;> rfl

theorem name_eq_of_bare_eq {s t : Source} (h : s.bare = t.bare) : s.name = t.name := by
  rw [← name_bare s, h, name_bare]

theorem map_bare_filter (x : Option Source) (name : ClassName) :
    (x.filter (·.name == name)).map bare = (x.map bare).filter (·.name == name) := by
  cases x with
  | none => rfl
  | some s => simp [Option.filter, apply_ite]

theorem ofClassFile_alike [Formats] (location location' : String) (path path' : Path)
    (options : LoadOptions) (bytes : Bytes) :
    Alike (fun s t => s.bare = t.bare) (ofClassFile location path options bytes)
      (ofClassFile location' path' options bytes) :=
  (ClassFile.decode_alike path.text path'.text options bytes).map fun _ _ h => h ▸ rfl

/-- The same bytes declare the same class wherever they are. -/
theorem name_eq_of_ofClassFile [Formats] {location location' : String} {path path' : Path}
    {options : LoadOptions} {bytes : Bytes} {s s' : Source}
    (h : ofClassFile location path options bytes = .ok s)
    (h' : ofClassFile location' path' options bytes = .ok s') : s.name = s'.name := by
  have halike := ofClassFile_alike location location' path path' options bytes
  rw [h, h'] at halike
  cases halike with
  | done hbare => exact name_eq_of_bare_eq hbare

theorem exists_module_of_ofModuleFile {location : String} {path : Path} {bytes : Bytes} {s : Source}
    (h : ofModuleFile location path bytes = .ok s) :
    ∃ descriptor, s = .module ⟨location, path⟩ descriptor := by
  unfold ofModuleFile at h
  split at h
  · next descriptor _ => exact ⟨descriptor, (Except.ok.inj h).symm⟩
  · cases h

theorem ofModuleFile_alike (location location' : String) (path path' : Path) (bytes : Bytes) :
    Alike (fun s t => s.bare = t.bare) (ofModuleFile location path bytes)
      (ofModuleFile location' path' bytes) := by
  unfold ofModuleFile
  cases ModuleFile.decode bytes with
  | error fault => exact .failed _ _
  | ok descriptor => exact .done rfl

theorem expect_alike {s t : Source} (h : s.bare = t.bare) (name : ClassName) :
    Alike (fun s t => s.bare = t.bare) (s.expect name) (t.expect name) := by
  unfold expect
  rw [name_eq_of_bare_eq h]
  split
  · exact .done h
  · exact .failed _ _

end Source

end ClassAtlas
