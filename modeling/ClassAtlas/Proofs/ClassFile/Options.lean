import ClassAtlas.Proofs.ClassFile.RoundTrip

/-!
# Load options

Options take away from what is decoded in full, and do nothing else. Members
are decoded before the made up ones are left out, so a broken one fails the
class all the same; if no members are wanted, none of them is looked at.
-/

namespace ClassAtlas

namespace ClassDecl

/-- The class without the members that the compiler made up. -/
def withoutSynthetic (d : ClassDecl) : ClassDecl :=
  { d with
    fields := d.fields.filter fun f => !f.modifiers.contains .synthetic
    methods := d.methods.filter fun m => !m.modifiers.contains .synthetic }

def withoutMembers (d : ClassDecl) : ClassDecl :=
  { d with fields := [], methods := [] }

end ClassDecl

/-- The source with its declaration changed, if it is a class. -/
def Source.mapDecl (change : ClassDecl → ClassDecl) : Source → Source
  | standard origin decl => .standard origin (change decl)
  | module origin descriptor => .module origin descriptor

namespace ClassFile

variable [Formats] {pool : ConstantPool} {origin : String} {c : ClassFile}

theorem members_withoutSynthetic :
    members pool origin ⟨true, false⟩ c = (fun ms : List Field × List Method =>
      (ms.1.filter fun f => !f.modifiers.contains .synthetic,
        ms.2.filter fun m => !m.modifiers.contains .synthetic)) <$>
      members pool origin .full c := by
  rw [members_full, map_bind]
  refine bind_congr fun fields => ?_
  rw [map_bind]
  exact bind_congr fun methods => rfl

theorem declaration_withoutSynthetic :
    declaration origin ⟨true, false⟩ c =
      ClassDecl.withoutSynthetic <$> declaration origin .full c := by
  rw [declaration, declaration, map_bind]
  refine bind_congr fun name => ?_
  rw [map_bind]
  refine bind_congr fun superclass => ?_
  rw [map_bind]
  refine bind_congr fun interfaces => ?_
  rw [map_bind, members_withoutSynthetic, bind_map_left]
  refine bind_congr fun members => ?_
  rw [map_bind]
  exact bind_congr fun annotations => rfl

theorem declaration_withoutMembers {d : ClassDecl} (h : declaration origin .full c = .ok d)
    (synthetic : Bool) : declaration origin ⟨false, synthetic⟩ c = .ok d.withoutMembers := by
  obtain ⟨name, hname, h⟩ := bind_eq_ok_iff.mp h
  obtain ⟨superclass, hsuperclass, h⟩ := bind_eq_ok_iff.mp h
  obtain ⟨interfaces, hinterfaces, h⟩ := bind_eq_ok_iff.mp h
  obtain ⟨members, -, h⟩ := bind_eq_ok_iff.mp h
  obtain ⟨annotations, hannotations, h⟩ := bind_eq_ok_iff.mp h
  cases h
  refine bind_eq_ok_iff.mpr ⟨name, hname, bind_eq_ok_iff.mpr ⟨superclass, hsuperclass, ?_⟩⟩
  refine bind_eq_ok_iff.mpr ⟨interfaces, hinterfaces, bind_eq_ok_iff.mpr ⟨([], []), rfl, ?_⟩⟩
  exact bind_eq_ok_iff.mpr ⟨annotations, hannotations, rfl⟩

variable {bytes : Bytes}

theorem decode_withoutSynthetic :
    decode origin ⟨true, false⟩ bytes =
      (decode origin .full bytes).map ClassDecl.withoutSynthetic := by
  unfold decode
  split
  · exact declaration_withoutSynthetic
  · rfl

theorem decode_withoutMembers {d : ClassDecl} (h : decode origin .full bytes = .ok d)
    (synthetic : Bool) : decode origin ⟨false, synthetic⟩ bytes = .ok d.withoutMembers := by
  unfold decode at h ⊢
  split at h
  · exact declaration_withoutMembers h synthetic
  · cases h

end ClassFile

/-- To leave out made up members is to take them from what is decoded in full: the attempt fails as
the full one does, and else nothing is different but them. To leave out all members takes them from
whatever is decoded in full. -/
theorem Source.options_project_full [Formats] (location : String) (path : Path) (bytes : Bytes) :
    ofClassFile location path ⟨true, false⟩ bytes =
      (ofClassFile location path .full bytes).map (mapDecl ClassDecl.withoutSynthetic) ∧
    ∀ source synthetic, ofClassFile location path .full bytes = .ok source →
      ofClassFile location path ⟨false, synthetic⟩ bytes =
        .ok (source.mapDecl ClassDecl.withoutMembers) := by
  constructor
  · rw [ofClassFile, ofClassFile, ClassFile.decode_withoutSynthetic]
    cases ClassFile.decode path.text .full bytes <;> rfl
  · intro source synthetic h
    rw [ofClassFile] at h ⊢
    cases hd : ClassFile.decode path.text .full bytes with
    | error e =>
      rw [hd] at h
      cases h
    | ok d =>
      rw [hd] at h
      cases h
      rw [ClassFile.decode_withoutMembers hd synthetic]
      rfl

/-- One member of each kind is made up. -/
theorem Source.options_project_full_service :
    let origin : Origin := ⟨"lib", ⟨"Service.class"⟩⟩
    ofClassFile "lib" ⟨"Service.class"⟩ .full Service.outline.bytes =
      .ok (.standard origin Service.decl) ∧
    ofClassFile "lib" ⟨"Service.class"⟩ ⟨true, false⟩ Service.outline.bytes =
      .ok (.standard origin { Service.decl with
        fields := [⟨"count", .primitive .int, .ofList [.privateAccess, .volatile]⟩]
        methods := [⟨"run", [.named Service.outer, .primitive .long], .void,
          .ofList [.publicAccess, .bridge]⟩] }) ∧
    ofClassFile "lib" ⟨"Service.class"⟩ ⟨false, true⟩ Service.outline.bytes =
      .ok (.standard origin { Service.decl with fields := [], methods := [] }) := by
  intro origin
  have hfull : ofClassFile "lib" ⟨"Service.class"⟩ .full Service.outline.bytes =
      .ok (.standard origin Service.decl) := by
    rw [ofClassFile, Service.isClass.declared ClassFile.known_standard Descriptor.known_standard
      Service.fits]
    rfl
  obtain ⟨hsynthetic, hmembers⟩ :=
    options_project_full "lib" ⟨"Service.class"⟩ Service.outline.bytes
  rw [hfull] at hsynthetic
  exact ⟨hfull, hsynthetic, hmembers _ true hfull⟩

end ClassAtlas
