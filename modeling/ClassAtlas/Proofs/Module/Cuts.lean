import ClassAtlas.Proofs.Bytes.Cuts
import ClassAtlas.Proofs.Module.File
import ClassAtlas.Source

/-!
# Cut and continued module files

Decoding is settled where the first attribute called `Module` ends. Whatever
follows changes nothing, and of anything shorter the fault says where bytes
are missing. No fault lies outside of the file.
-/

namespace ClassAtlas

/-! ## Faults inside of the bytes -/

/-- If bytes are missing, then those of a place in at most `limit` bytes. -/
def ModuleFault.Inside (limit : Nat) : ModuleFault → Prop
  | truncated need position size => position ≤ size ∧ size < position + need ∧ size ≤ limit
  | _ => True

theorem ModuleFault.Inside.mono {m n : Nat} {e : ModuleFault} (h : e.Inside m) (hmn : m ≤ n) :
    e.Inside n := by
  cases e with
  | truncated => exact ⟨h.1, h.2.1, Nat.le_trans h.2.2 hmn⟩
  | _ => trivial

namespace ModuleFile

open Reader

variable {α β : Type}

/-- The reader takes bytes from the front that it needs all of, and its faults are inside of the
bytes that there are. -/
structure Careful (reader : Read α) : Prop where
  needs : ∀ {c c' : Cursor} {a : α}, reader c = .ok (a, c') →
    ∃ bytes, c.rest = bytes ++ c'.rest ∧ reader.Needs bytes a
  inside : ∀ {c : Cursor} {e : ModuleFault}, reader c = .error e → e.Inside c.size

namespace Careful

/-- A careful reader stays in the bytes that there are. -/
theorem size_eq {reader : Read α} (h : Careful reader) {c c' : Cursor} {a : α}
    (hread : reader c = .ok (a, c')) : c'.size = c.size := by
  obtain ⟨bytes, hbytes, hneeds⟩ := h.needs hread
  obtain ⟨position, rest⟩ := c
  subst hbytes
  have hcursor : c' = ⟨position + bytes.length, c'.rest⟩ := by
    rw [hneeds.reads] at hread
    exact (Prod.mk.inj (Except.ok.inj hread)).2.symm
  rw [hcursor]
  simp [Cursor.size, Nat.add_assoc]

/-! ## Sequences -/

theorem pure (a : α) : Careful (Pure.pure a : Read α) where
  needs h := by
    cases h
    exact ⟨[], rfl, .pure a⟩
  inside h := by cases h

theorem fail {e : ModuleFault} (he : ∀ limit, e.Inside limit) :
    Careful (Reader.fail e : Read α) where
  needs h := by cases h
  inside h := by
    cases h
    exact he _

/-- In a sequence, the faults of the second reader may depend on what the first one read. -/
theorem bind_of_inside {reader : Read α} {next : α → Read β} (h : Careful reader)
    (hneeds : ∀ {a c c' b}, next a c = .ok (b, c') →
      ∃ bytes, c.rest = bytes ++ c'.rest ∧ (next a).Needs bytes b)
    (hinside : ∀ {c c' a e}, reader c = .ok (a, c') → next a c' = .error e → e.Inside c'.size) :
    Careful (reader >>= next) where
  needs hread := by
    obtain ⟨a, middle, hfirst, hsecond⟩ := bind_apply_eq_ok_iff.mp hread
    obtain ⟨first, hrest, hreads⟩ := h.needs hfirst
    obtain ⟨second, hrest', hreads'⟩ := hneeds hsecond
    exact ⟨first ++ second, by rw [hrest, hrest', List.append_assoc], hreads.bind hreads'⟩
  inside {c e} hread := by
    cases hfirst : reader c with
    | error fault =>
      rw [bind_of_error hfirst] at hread
      cases hread
      exact h.inside hfirst
    | ok result =>
      obtain ⟨a, c'⟩ := result
      rw [bind_of_ok hfirst] at hread
      rw [← h.size_eq hfirst]
      exact hinside hfirst hread

theorem bind {reader : Read α} {next : α → Read β} (h : Careful reader)
    (hnext : ∀ a, Careful (next a)) : Careful (reader >>= next) :=
  h.bind_of_inside (hnext _).needs fun _ => (hnext _).inside

theorem replicate {item : Read α} (h : Careful item) (n : Nat) :
    Careful (Reader.replicate n item) := by
  induction n with
  | zero => exact pure []
  | succ n ih => exact h.bind fun a => ih.bind fun as => pure (a :: as)

/-! ## Fields -/

theorem take (n : Nat) : Careful (Reader.take n : Read Bytes) where
  needs h := by
    obtain ⟨hlength, hrest, -⟩ := of_take h
    exact ⟨_, hrest, .take hlength⟩
  inside {c e} h := by
    unfold Reader.take at h
    split at h
    · cases h
    · next hlt =>
      cases h
      refine ⟨Nat.le_add_right _ _, ?_, Nat.le_refl _⟩
      exact Nat.add_lt_add_left (Nat.not_le.mp hlt) _

theorem skip (n : Nat) : Careful (Reader.skip n : Read Unit) :=
  (take n).bind fun _ => pure ()

theorem nat (width : Nat) : Careful (Reader.nat width : Read Nat) :=
  (take width).bind fun bytes => pure (bigEndian bytes)

theorem flags : Careful (Reader.flags : Read UInt16) :=
  (nat 2).bind fun n => pure (UInt16.ofNat n)

theorem list {item : Read α} (h : Careful item) : Careful (Reader.list item) :=
  (nat 2).bind h.replicate

end Careful

/-! ## The readers of module files -/

theorem careful_readEntry (spell : Bytes → String) :
    Careful (ConstantPool.readEntry fun bytes => .ok (spell bytes)) := by
  refine (Careful.nat 1).bind fun tag => ?_
  split
  · exact (Careful.nat 2).bind fun size => (Careful.take size).bind fun bytes => .pure _
  · split
    · exact (Careful.nat 2).bind fun nameIndex => .pure _
    · split
      · exact (Careful.skip _).bind fun _ => .pure _
      · exact .fail fun _ => trivial

theorem careful_readEntries (spell : Bytes → String) (n : Nat) (wide : Bool) :
    Careful (ConstantPool.readEntries (fun bytes => .ok (spell bytes)) n wide) := by
  induction n generalizing wide with
  | zero => exact .pure []
  | succ n ih =>
    cases wide with
    | true => exact (ih false).bind fun _ => .pure _
    | false =>
      exact (careful_readEntry spell).bind fun entry => (ih entry.2).bind fun _ => .pure _

theorem careful_read (spell : Bytes → String) :
    Careful (ConstantPool.read fun bytes => .ok (spell bytes)) :=
  (Careful.nat 2).bind fun count =>
    (careful_readEntries spell (count - 1) false).bind fun _ => .pure _

theorem careful_text (pool : ConstantPool) (index : Nat) : Careful (text pool index) := by
  unfold text
  split
  · exact .pure _
  · exact .fail fun _ => trivial

theorem careful_name (pool : ConstantPool) (tag : Nat) : Careful (name pool tag) := by
  refine (Careful.nat 2).bind fun index => ?_
  split
  · exact careful_text pool _
  · exact .fail fun _ => trivial

theorem careful_requirement (pool : ConstantPool) : Careful (requirement pool) :=
  (careful_name pool _).bind fun _ => Careful.flags.bind fun _ =>
    (Careful.skip 2).bind fun _ => .pure _

theorem careful_packageDirective (pool : ConstantPool) : Careful (packageDirective pool) :=
  (careful_name pool _).bind fun _ => Careful.flags.bind fun _ =>
    (careful_name pool _).list.bind fun _ => .pure _

theorem careful_provision (pool : ConstantPool) : Careful (provision pool) :=
  (careful_name pool _).bind fun _ => (careful_name pool _).list.bind fun _ => .pure _

theorem careful_descriptor (pool : ConstantPool) : Careful (descriptor pool) :=
  (careful_name pool _).bind fun _ => Careful.flags.bind fun _ => (Careful.skip 2).bind fun _ =>
    (careful_requirement pool).list.bind fun _ => (careful_packageDirective pool).list.bind fun _ =>
      (careful_packageDirective pool).list.bind fun _ => (careful_name pool _).list.bind fun _ =>
        (careful_provision pool).list.bind fun _ => .pure _

theorem careful_skipAttribute : Careful skipAttribute :=
  (Careful.skip 2).bind fun _ => (Careful.nat 4).bind Careful.skip

theorem careful_skipMember : Careful skipMember :=
  (Careful.skip 6).bind fun _ => careful_skipAttribute.list.bind fun _ => .pure ()

theorem inside_of_runOn {reader : Read α} (h : Careful reader) {bytes : Bytes} {e : ModuleFault}
    (hrun : reader.runOn bytes = .error e) : e.Inside bytes.length := by
  unfold runOn at hrun
  split at hrun
  · cases hrun
  · next hread =>
    cases hrun
    simpa [Cursor.size, Cursor.ofBytes] using h.inside hread

theorem lift_eq_ok_iff {x : Except ModuleFault α} {c c' : Cursor} {a : α} :
    (StateT.lift x : Read α) c = .ok (a, c') ↔ x = .ok a ∧ c = c' := by
  cases x <;> simp [StateT.lift, Bind.bind, Except.bind, Pure.pure, Except.pure]

theorem lift_eq_error_iff {x : Except ModuleFault α} {c : Cursor} {e : ModuleFault} :
    (StateT.lift x : Read α) c = .error e ↔ x = .error e := by
  cases x <;> simp [StateT.lift, Bind.bind, Except.bind, Pure.pure, Except.pure]

/-- The body of the right attribute is decoded on its own. -/
theorem findDescriptor_succ (pool : ConstantPool) (n : Nat) :
    findDescriptor pool (n + 1) = (do
      let name ← text pool (← Reader.u16)
      let length ← Reader.u32
      let body ← Reader.take length
      if name = attributeName then StateT.lift ((descriptor pool).runOn body)
      else findDescriptor pool n) := by
  rw [findDescriptor]
  refine congrArg _ (funext fun index => congrArg _ (funext fun name => ?_))
  refine congrArg _ (funext fun length => congrArg _ (funext fun body => ?_))
  cases (descriptor pool).runOn body <;> rfl

theorem careful_findDescriptor (pool : ConstantPool) (n : Nat) :
    Careful (findDescriptor pool n) := by
  induction n with
  | zero => exact .fail fun _ => trivial
  | succ n ih =>
    rw [findDescriptor_succ]
    refine (Careful.nat 2).bind fun index => (careful_text pool index).bind fun name => ?_
    refine (Careful.nat 4).bind fun length => (Careful.take length).bind_of_inside ?_ ?_
    · intro body c c' d h
      split at h
      · next hname =>
        obtain ⟨hrun, rfl⟩ := lift_eq_ok_iff.mp h
        rw [if_pos hname, hrun]
        exact ⟨[], rfl, .pure d⟩
      · next hname =>
        rw [if_neg hname]
        exact ih.needs h
    · intro c c' body e htake h
      split at h
      · -- the fault is inside of the body, and the body inside of what was there
        obtain ⟨rfl, -, hposition⟩ := of_take htake
        refine (inside_of_runOn (careful_descriptor pool) (lift_eq_error_iff.mp h)).mono ?_
        simp only [Cursor.size, hposition]
        omega
      · exact ih.inside h

/-! ## The way to the attributes -/

theorem careful_head : Careful head := by
  refine (Careful.nat 4).bind fun magic => ?_
  split
  · exact .fail fun _ => trivial
  · refine (Careful.skip 4).bind fun _ => (careful_read _).bind fun pool => ?_
    refine Careful.flags.bind fun flags => ?_
    split
    · exact .fail fun _ => trivial
    · refine (Careful.skip 4).bind fun _ => (Careful.nat 2).bind fun interfaces => ?_
      refine (Careful.skip _).bind fun _ => careful_skipMember.list.bind fun _ => ?_
      exact careful_skipMember.list.bind fun _ => (Careful.nat 2).bind fun _ => .pure _

theorem careful_file : Careful file :=
  careful_head.bind fun _ => careful_findDescriptor _ _

/-! ## The first attribute called `Module` -/

theorem text_eq_ok_iff {pool : ConstantPool} {index : Nat} {c c' : Cursor} {value : String} :
    text pool index c = .ok (value, c') ↔ pool.text? index = some value ∧ c = c' := by
  unfold text
  cases pool.text? index with
  | none => simp [Reader.fail]
  | some found =>
    change Except.ok (found, c) = Except.ok (value, c') ↔ some found = some value ∧ c = c'
    simp

/-- What is found was in an attribute of the right name, after attributes of other names. -/
theorem exists_attribute_of_findDescriptor {pool : ConstantPool} {n : Nat} {c c' : Cursor}
    {d : ModuleDescriptor} (h : findDescriptor pool n c = .ok (d, c')) :
    ∃ (before : List StoredAttribute) (a : StoredAttribute), before.length < n ∧
      (∀ other ∈ before, ∃ name, pool.text? other.name.toNat = some name ∧ name ≠ attributeName) ∧
      pool.text? a.name.toNat = some attributeName ∧
      c.rest = before.flatMap StoredAttribute.bytes ++ a.bytes ++ c'.rest := by
  induction n generalizing c with
  | zero => cases h
  | succ n ih =>
    rw [findDescriptor_succ] at h
    obtain ⟨index, c₁, hindex, h₁⟩ := bind_apply_eq_ok_iff.mp h
    obtain ⟨name, c₂, hname, h₂⟩ := bind_apply_eq_ok_iff.mp h₁
    obtain ⟨length, c₃, hlength, h₃⟩ := bind_apply_eq_ok_iff.mp h₂
    obtain ⟨body, c₄, hbody, h₄⟩ := bind_apply_eq_ok_iff.mp h₃
    obtain ⟨htext, rfl⟩ := text_eq_ok_iff.mp hname
    obtain ⟨hindexFits, hindexRest⟩ := of_nat hindex
    obtain ⟨hlengthFits, hlengthRest⟩ := of_nat hlength
    obtain ⟨rfl, hbodyRest, -⟩ := of_take hbody
    have hnumber : (UInt16.ofNat index).toNat = index := UInt16.toNat_ofNat_of_lt' hindexFits
    let a : StoredAttribute := ⟨UInt16.ofNat index, body, hlengthFits⟩
    have hbytes : c.rest = a.bytes ++ c₄.rest := by
      rw [hindexRest, hlengthRest, hbodyRest]
      simp [a, StoredAttribute.bytes, word, hnumber]
    have hnamed : pool.text? a.name.toNat = some name := hnumber.symm ▸ htext
    split at h₄
    · next hmodule =>
      obtain ⟨-, rfl⟩ := lift_eq_ok_iff.mp h₄
      exact ⟨[], a, Nat.succ_pos n, by simp, hmodule ▸ hnamed, hbytes⟩
    · next hmodule =>
      obtain ⟨before, found, hcount, hothers, hfound, hrest⟩ := ih h₄
      refine ⟨a :: before, found, Nat.succ_lt_succ hcount, ?_, hfound, ?_⟩
      · intro other hother
        rcases List.mem_cons.mp hother with rfl | hother
        · exact ⟨name, hnamed, hmodule⟩
        · exact hothers other hother
      · rw [hbytes, hrest]
        simp

/-- The bytes of a module file up to the end of the first attribute called `Module`: what stands
before the attributes, those with other names, and the one. -/
structure Opening where
  header : Bytes
  pool : ConstantPool
  count : Nat
  before : List StoredAttribute
  last : StoredAttribute
  reads_header : head.Reads header (pool, count)
  counted : before.length < count
  passed : ∀ other ∈ before, ∃ name,
    pool.text? other.name.toNat = some name ∧ name ≠ attributeName
  named : pool.text? last.name.toNat = some attributeName

def Opening.bytes (o : Opening) : Bytes :=
  o.header ++ (o.before.flatMap StoredAttribute.bytes ++ o.last.bytes)

/-- What decodes begins with an opening, and decoding needs just that. -/
theorem exists_opening_of_decode {bytes : Bytes} {d : ModuleDescriptor}
    (h : decode bytes = .ok d) : ∃ o : Opening, o.bytes <+: bytes ∧ file.Needs o.bytes d := by
  have hfile : ∃ c, file (Cursor.ofBytes bytes) = .ok (d, c) := by
    unfold decode runOn at h
    split at h
    · next c hread =>
      cases h
      exact ⟨c, hread⟩
    · cases h
  obtain ⟨c, hfile⟩ := hfile
  obtain ⟨taken, htaken, hneeds⟩ := careful_file.needs hfile
  obtain ⟨⟨pool, count⟩, middle, hhead, hfind⟩ := bind_apply_eq_ok_iff.mp hfile
  obtain ⟨header, hheader, hreads⟩ := careful_head.needs hhead
  obtain ⟨before, last, hcount, hpassed, hnamed, hrest⟩ :=
    exists_attribute_of_findDescriptor hfind
  let o : Opening := ⟨header, pool, count, before, last, hreads.reads, hcount, hpassed, hnamed⟩
  have hbytes : bytes = o.bytes ++ c.rest := by
    have hwhole : bytes = header ++ middle.rest := hheader
    rw [hwhole, hrest]
    simp [o, Opening.bytes]
  have hsame : taken = o.bytes := List.append_cancel_right (htaken.symm.trans hbytes)
  exact ⟨o, ⟨c.rest, hbytes.symm⟩, hsame ▸ hneeds⟩

/-- An opening cut before its end. -/
theorem decode_take_of_needs {bytes : Bytes} {d : ModuleDescriptor} (h : file.Needs bytes d)
    (rest : Bytes) {n : Nat} (hn : n < bytes.length) :
    ∃ need position, position ≤ n ∧ n < position + need ∧
      decode ((bytes ++ rest).take n) = .error (.truncated need position n) := by
  have hcut : bytes = bytes.take n ++ bytes.drop n := (List.take_append_drop n bytes).symm
  have hmissing : bytes.drop n ≠ [] := by simpa using hn
  have hsize : Cursor.size ⟨0, bytes.take n⟩ = n := by
    simp [Cursor.size, Nat.min_eq_left (Nat.le_of_lt hn)]
  obtain ⟨need, position, hinside, hshort, herror⟩ := h.starves _ _ hcut hmissing 0
  rw [hsize] at hinside hshort herror
  refine ⟨need, position, hinside, hshort, ?_⟩
  rw [List.take_append_of_le_length (Nat.le_of_lt hn), decode, runOn, Cursor.ofBytes, herror]
  rfl

theorem ofModuleFile_eq_ok_iff {location : String} {path : Path} {bytes : Bytes}
    {d : ModuleDescriptor} :
    Source.ofModuleFile location path bytes = .ok (.module ⟨location, path⟩ d) ↔
      decode bytes = .ok d := by
  unfold Source.ofModuleFile
  cases decode bytes <;> simp

theorem ofModuleFile_of_error {bytes : Bytes} {fault : ModuleFault}
    (h : decode bytes = .error fault) (location : String) (path : Path) :
    Source.ofModuleFile location path bytes =
      .error (.undecodable path.text (.moduleFile fault)) := by
  rw [Source.ofModuleFile, h]

/-- A module file that decodes is settled by its opening: with the opening at its front every file
decodes to the same descriptor, and cut before its end the file is found to be short. Whatever the
bytes are, they decode, or the failure names the file and a fault inside of it. -/
theorem decode_settled_by_opening (location : String) (path : Path) :
    (∀ bytes d, Source.ofModuleFile location path bytes = .ok (.module ⟨location, path⟩ d) →
      ∃ o : Opening, o.bytes <+: bytes ∧
        (∀ other, o.bytes <+: other →
          Source.ofModuleFile location path other = .ok (.module ⟨location, path⟩ d)) ∧
        ∀ n < o.bytes.length, ∃ need position, position ≤ n ∧ n < position + need ∧
          Source.ofModuleFile location path (bytes.take n) =
            .error (.undecodable path.text (.moduleFile (.truncated need position n)))) ∧
    ∀ bytes,
      (∃ d, Source.ofModuleFile location path bytes = .ok (.module ⟨location, path⟩ d)) ∨
      ∃ fault : ModuleFault, fault.Inside bytes.length ∧
        Source.ofModuleFile location path bytes =
          .error (.undecodable path.text (.moduleFile fault)) := by
  refine ⟨fun bytes d h => ?_, fun bytes => ?_⟩
  · obtain ⟨o, ⟨rest, rfl⟩, hneeds⟩ := exists_opening_of_decode (ofModuleFile_eq_ok_iff.mp h)
    refine ⟨o, List.prefix_append _ _, ?_, ?_⟩
    · rintro other ⟨more, rfl⟩
      exact ofModuleFile_eq_ok_iff.mpr (hneeds.reads.runOn_append more)
    · intro n hn
      obtain ⟨need, position, hinside, hshort, hdecode⟩ := decode_take_of_needs hneeds rest hn
      exact ⟨need, position, hinside, hshort, ofModuleFile_of_error hdecode location path⟩
  · cases hdecode : decode bytes with
    | ok d => exact .inl ⟨d, ofModuleFile_eq_ok_iff.mpr hdecode⟩
    | error fault =>
      have hinside : fault.Inside bytes.length := inside_of_runOn careful_file hdecode
      exact .inr ⟨fault, hinside, ofModuleFile_of_error hdecode location path⟩

/-- The second attribute called `Module` may be cut off, or be followed by anything. -/
theorem decode_settled_by_opening_crowded :
    decode crowdedFile.bytes = .ok crowdedModule ∧
    ∃ o : Opening, o.bytes <+: crowdedFile.bytes ∧ ∀ rest,
      Source.ofModuleFile "m" ⟨"m/module-info.class"⟩ (o.bytes ++ rest) =
        .ok (.module ⟨"m", ⟨"m/module-info.class"⟩⟩ crowdedModule) := by
  have hdecode : decode crowdedFile.bytes = .ok crowdedModule := by decide +kernel
  obtain ⟨o, hfront, hsame, -⟩ := (decode_settled_by_opening "m" ⟨"m/module-info.class"⟩).1
    crowdedFile.bytes crowdedModule (ofModuleFile_eq_ok_iff.mpr hdecode)
  exact ⟨hdecode, o, hfront, fun rest => hsame _ (List.prefix_append _ rest)⟩

end ModuleFile

end ClassAtlas
