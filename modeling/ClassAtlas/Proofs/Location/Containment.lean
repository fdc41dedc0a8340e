import ClassAtlas.Proofs.Location.Listing
import ClassAtlas.View

/-!
# Looking up inside a folder

A folder looks for a class below itself, at the path that the segments of the
name make. Dots are exchanged for slashes before that, so no segment leads up
again. But a name that starts with one of the two makes an absolute path, and
an absolute path is followed from the root of the file system.
-/

namespace ClassAtlas

namespace Path

variable {base rest p : Path}

/-! ## Components -/

/-- What a path starts with, before its segments. -/
def lead (p : Path) : List Component :=
  if p.isAbsolute then [.root]
  else if (Text.split '/' p.text.toList).head? = some ['.'] then [.here]
  else []

theorem components_eq (p : Path) :
    p.components = p.lead ++ (Text.split '/' p.text.toList).filterMap Component.ofSegment := by
  simp only [components, lead]
  split
  · rfl
  · split <;> rfl

theorem isAbsolute_of_lead (h : p.lead = []) : p.isAbsolute = false := by
  unfold lead at h
  split at h
  · cases h
  · next hrelative => simpa using hrelative

theorem split_eq_trunk (p : Path) :
    Text.split '/' p.text.toList = Text.split '/' p.trunk ∨
      Text.split '/' p.text.toList = Text.split '/' p.trunk ++ [[]] := by
  rcases p.toList_eq_trunk with h | h
  · exact .inl (by rw [h])
  · exact .inr (by rw [h, Text.split_append_cons, Text.split_nil])

theorem lead_join (hbase : base.text ≠ "") (hrest : rest.isAbsolute = false) :
    (base.join rest).lead = base.lead := by
  have hne := Text.split_ne_nil '/' base.trunk
  have hhead : (Text.split '/' (base.join rest).text.toList).head? =
      (Text.split '/' base.text.toList).head? := by
    rw [toList_join hbase hrest, Text.split_append_cons, List.head?_append_of_ne_nil _ hne]
    rcases base.split_eq_trunk with h | h
    · rw [h]
    · rw [h, List.head?_append_of_ne_nil _ hne]
  rw [lead, lead, isAbsolute_join hbase hrest, hhead]

/-- A relative path below another one goes on with its own components. -/
theorem components_join (hrest : rest.lead = []) :
    (base.join rest).components = base.components ++ rest.components := by
  have hrelative := isAbsolute_of_lead hrest
  by_cases hbase : base.text = ""
  · obtain ⟨text⟩ := base
    obtain rfl : text = "" := hbase
    have hnone : (Path.mk "").components = [] := by decide
    have hjoin : (Path.mk "").join rest = rest := by simp [join, hrelative]
    rw [hjoin, hnone, List.nil_append]
  · have htrunk : (Text.split '/' base.trunk).filterMap Component.ofSegment =
        (Text.split '/' base.text.toList).filterMap Component.ofSegment := by
      rcases base.split_eq_trunk with h | h <;> simp [h, Component.ofSegment]
    rw [components_eq, lead_join hbase hrelative, toList_join hbase hrelative,
      Text.split_append_cons, List.filterMap_append, htrunk, components_eq base,
      components_eq rest, hrest, List.nil_append, List.append_assoc]

theorem root_mem_components_iff : .root ∈ p.components ↔ p.isAbsolute = true := by
  have hsegment (cs : List Char) : Component.ofSegment cs ≠ some .root := by
    unfold Component.ofSegment
    split <;> simp
  rw [components_eq, List.mem_append, List.mem_filterMap, lead]
  split
  · next h => simp [h]
  · next h => split <;> simp [h, hsegment]

/-! ## Paths that lead down -/

/-- The path goes down from `base`, from one entry of a folder to the next. -/
def IsUnder (p base : Path) : Prop :=
  ∃ names : List String, (∀ name ∈ names, IsPlain name ∧ '/' ∉ name.toList) ∧
    p.components = base.components ++ names.map .name

theorem IsUnder.isAbsolute (h : p.IsUnder base) (hp : p.isAbsolute = true) :
    base.isAbsolute = true := by
  obtain ⟨names, -, hcomponents⟩ := h
  rw [← root_mem_components_iff, hcomponents] at hp
  rw [← root_mem_components_iff]
  simpa using hp

/-- Every segment is a name, or empty. -/
def Downward (p : Path) : Prop :=
  ∀ segment ∈ Text.segments '/' p.text, segment ≠ "" → IsPlain segment

theorem Component.filterMap_ofSegment {segments : List (List Char)}
    (h : ∀ cs ∈ segments, String.ofList cs ≠ "" → IsPlain (String.ofList cs)) :
    segments.filterMap ofSegment = ((segments.map String.ofList).filter (· ≠ "")).map .name := by
  induction segments with
  | nil => rfl
  | cons cs segments ih =>
    have hrest := ih fun other hother => h other (.tail _ hother)
    by_cases hempty : String.ofList cs = ""
    · obtain rfl : cs = [] := by simpa using congrArg String.toList hempty
      rw [List.filterMap_cons_none rfl, hrest]
      simp
    · rw [List.filterMap_cons_some (ofSegment_of_isPlain (h cs List.mem_cons_self hempty)), hrest]
      simp [hempty]

namespace Downward

theorem lead_eq (h : p.Downward) : p.lead = if p.isAbsolute then [.root] else [] := by
  have hhere : (Text.split '/' p.text.toList).head? ≠ some ['.'] := fun hdot =>
    (h "." (List.mem_map_of_mem (List.mem_of_head? hdot)) (by decide)).ne_here rfl
  rw [lead, if_neg hhere]

/-- The names on the way. -/
theorem components_eq (h : p.Downward) :
    ∃ names : List String, (∀ name ∈ names, IsPlain name ∧ '/' ∉ name.toList) ∧
      p.components = p.lead ++ names.map .name := by
  refine ⟨(Text.segments '/' p.text).filter (· ≠ ""), fun name hname => ?_, ?_⟩
  · obtain ⟨hmem, hne⟩ := List.mem_filter.mp hname
    exact ⟨h name hmem (by simpa using hne), Text.not_mem_of_mem_segments hmem⟩
  · rw [Path.components_eq, Text.segments,
      Component.filterMap_ofSegment fun cs hcs => h _ (List.mem_map_of_mem hcs)]

theorem isUnder_join (h : p.Downward) (hp : p.isAbsolute = false) (base : Path) :
    (base.join p).IsUnder base := by
  have hlead : p.lead = [] := by
    rw [h.lead_eq, hp]
    rfl
  obtain ⟨names, hnames, hcomponents⟩ := h.components_eq
  exact ⟨names, hnames, by rw [components_join hlead, hcomponents, hlead, List.nil_append]⟩

theorem isUnder_root (h : p.Downward) (hp : p.isAbsolute = true) : p.IsUnder ⟨"/"⟩ := by
  have hroot : (Path.mk "/").components = [.root] := by decide
  obtain ⟨names, hnames, hcomponents⟩ := h.components_eq
  refine ⟨names, hnames, ?_⟩
  rw [hcomponents, h.lead_eq, hp, hroot]
  rfl

end Downward

end Path

/-! ## Names that lead out -/

namespace ClassName

variable {c : ClassName}

theorem no_dot_internal (c : ClassName) : '.' ∉ c.internal.toList := by
  rw [internal, Text.exchange, String.toList_ofList, List.mem_map]
  rintro ⟨x, -, hx⟩
  split at hx
  · cases hx
  · next hdot => exact hdot hx

/-- No segment of a class's path is special, whatever the name is. -/
theorem downward_file (c : ClassName) : c.file.Downward := by
  obtain ⟨front, last, hsplit⟩ :=
    (List.eq_nil_or_concat' _).resolve_left (Text.split_ne_nil '/' c.internal.toList)
  have hfile : Text.segments '/' c.file.text =
      front.map String.ofList ++ [String.ofList last ++ classSuffix] := by
    rw [Text.segments, file, String.toList_append,
      Text.split_append_of_not_mem (by decide) hsplit]
    simp
  intro segment hsegment hne
  rw [hfile, List.mem_append, List.mem_singleton] at hsegment
  rcases hsegment with hfront | rfl
  · obtain ⟨cs, hcs, rfl⟩ := List.mem_map.mp hfront
    apply isPlain_of_no_dot hne
    rw [String.toList_ofList]
    intro hdot
    exact c.no_dot_internal (Text.mem_of_mem_split (hsplit ▸ List.mem_append_left _ hcs) hdot)
  · exact isPlain_append_classSuffix _

/-- A character between the segments of a name, in one of its spellings. -/
def IsSeparator (x : Char) : Prop :=
  x = '.' ∨ x = '/'

theorem isAbsolute_file_iff :
    c.file.isAbsolute = true ↔ ∃ first ∈ c.dotted.toList.head?, IsSeparator first := by
  rw [Path.isAbsolute, file, String.toList_append, internal, Text.exchange, String.toList_ofList]
  cases c.dotted.toList with
  | nil => exact iff_of_false (by decide) (by simp)
  | cons first rest =>
    by_cases hdot : first = '.' <;> simp [hdot, IsSeparator]

/-- The name of a class that is looked for at an absolute path. -/
def LeadsOut (c : ClassName) : Prop :=
  c.isModuleInfo = false ∧ ∃ first ∈ c.dotted.toList.head?, IsSeparator first

/-- The text starts with a separator, and has another one. -/
def StartsApart (text : String) : Prop :=
  ∃ first rest, text.toList = first :: rest ∧ IsSeparator first ∧ ∃ x ∈ rest, IsSeparator x

theorem leadsOut_iff : c.LeadsOut ↔ c.isModuleInfo = false ∧ c.file.isAbsolute = true := by
  rw [LeadsOut, isAbsolute_file_iff]

/-- A name starts with a dot if it was read from a text that does and has another one. -/
theorem head?_dotted_ofDotted_iff (text : String) :
    (ofDotted text).dotted.toList.head? = some '.' ↔
      ∃ rest, text.toList = '.' :: rest ∧ '.' ∈ rest := by
  obtain ⟨hdot, heq⟩ | ⟨package, simple, htext, hdot, heq⟩ := ofDotted_cases text
  · refine iff_of_false (fun h => ?_) ?_
    · rw [heq] at h
      exact hdot (List.mem_of_head? h)
    · rintro ⟨rest, htext, -⟩
      exact hdot (htext ▸ List.mem_cons_self)
  · rw [heq, htext, dotted]
    cases package with
    | nil =>
      refine iff_of_false (fun h => hdot (List.mem_of_head? (by simpa using h))) ?_
      rintro ⟨rest, hrest, hmem⟩
      obtain rfl : simple = rest := by simpa using hrest
      exact hdot hmem
    | cons first package => simp

theorem leadsOut_ofInternal_iff (text : String) :
    (ofInternal text).LeadsOut ↔ (ofInternal text).isModuleInfo = false ∧ StartsApart text := by
  have hslash := no_slash_ofInternal text
  have hhead : (∃ first ∈ (ofInternal text).dotted.toList.head?, IsSeparator first) ↔
      (ofInternal text).dotted.toList.head? = some '.' := by
    constructor
    · rintro ⟨first, hfirst, rfl | rfl⟩
      · exact hfirst
      · exact absurd (List.mem_of_head? hfirst) hslash
    · exact fun h => ⟨'.', h, .inl rfl⟩
  -- Both separators are read as dots.
  have hread (x : Char) : (if x = '/' then '.' else x) = '.' ↔ IsSeparator x := by
    unfold IsSeparator
    split <;> simp_all
  refine and_congr_right' ?_
  rw [hhead, ofInternal, head?_dotted_ofDotted_iff, Text.exchange, String.toList_ofList,
    StartsApart]
  cases text.toList with
  | nil => simp
  | cons first rest => simp [hread]

end ClassName

/-- The supertypes of a decoded class have names that were internal ones. -/
theorem ClassFile.exists_ofInternal_of_mem_supertypes [Formats] {origin : String}
    {options : LoadOptions} {bytes : Bytes} {decl : ClassDecl}
    (h : decode origin options bytes = .ok decl) {c : ClassName} (hc : c ∈ decl.supertypes) :
    ∃ text, c = .ofInternal text := by
  unfold decode at h
  split at h
  · next file _ =>
    obtain ⟨name, -, h⟩ := bind_eq_ok_iff.mp h
    obtain ⟨superclass, hsuperclass, h⟩ := bind_eq_ok_iff.mp h
    obtain ⟨interfaces, hinterfaces, h⟩ := bind_eq_ok_iff.mp h
    obtain ⟨⟨fields, methods⟩, -, h⟩ := bind_eq_ok_iff.mp h
    obtain ⟨annotations, -, h⟩ := bind_eq_ok_iff.mp h
    cases h
    rcases List.mem_append.mp hc with hc | hc
    · obtain rfl : superclass = some c := by simpa using hc
      unfold ClassFile.superclass at hsuperclass
      split at hsuperclass
      · cases hsuperclass
      · obtain ⟨found, hfound, heq⟩ := bind_eq_ok_iff.mp hsuperclass
        cases heq
        exact exists_ofInternal_of_className hfound
    · obtain ⟨index, -, hindex⟩ := (mem_iff_of_mapM_eq_ok hinterfaces).mp hc
      exact exists_ofInternal_of_className hindex
  · cases h

/-! ## Folders -/

namespace Directory

variable {d : Directory} {c : ClassName} {fs fs' : FileSystem} {s : Source}

/-- The file that a look-up reads. -/
def probe (d : Directory) (c : ClassName) : Path :=
  if c.isModuleInfo then d.modulePath else d.classPath c

theorem isUnder_probe (h : ¬ c.LeadsOut) : (d.probe c).IsUnder d.root := by
  unfold probe
  split
  · refine Path.Downward.isUnder_join (fun segment hsegment _ => ?_) (by decide) d.root
    exact isPlain_of_mem_moduleFilePath segment hsegment
  · next hmodule =>
    rw [ClassName.leadsOut_iff] at h
    exact c.downward_file.isUnder_join (by simpa [hmodule] using h) d.root

theorem probe_of_leadsOut (h : c.LeadsOut) : d.probe c = c.file := by
  obtain ⟨hmodule, habsolute⟩ := ClassName.leadsOut_iff.mp h
  rw [probe, if_neg (by simp [hmodule]), classPath, Path.join, if_pos habsolute]

variable [Formats] {options : LoadOptions}

theorem lookup_eq_of_read?_eq (h : fs.read? (d.probe c) = fs'.read? (d.probe c)) :
    d.lookup fs c options = d.lookup fs' c options := by
  unfold probe at h
  unfold lookup
  split at h
  · next hmodule => rw [if_pos hmodule, if_pos hmodule, moduleSource, moduleSource, h]
  · next hmodule => rw [if_neg hmodule, if_neg hmodule, h]

theorem path_of_lookup (h : d.lookup fs c options = .ok (some s)) : s.origin.path = d.probe c := by
  unfold probe
  split
  · next hmodule =>
    rw [lookup, if_pos hmodule] at h
    obtain ⟨found, hfound, hs⟩ := bind_eq_ok_iff.mp h
    have hfilter : found.filter (·.name == c) = some s := Except.ok.inj hs
    obtain ⟨rfl, -⟩ := Option.filter_eq_some_iff.mp hfilter
    obtain ⟨descriptor, rfl⟩ := exists_module_of_moduleSource hfound
    rfl
  · next hmodule =>
    obtain ⟨bytes, -, hdecode, -⟩ := (lookup_eq_some_iff (by simpa using hmodule)).mp h
    exact Source.path_of_ofClassFile hdecode

/-- A look-up reads one file, and what it finds is from there. This file is below the folder, on a
way by names only. The exception are names that start with a dot or a slash: their files are looked
for below the root of the file system, wherever the folder is. A class file may name such a
supertype, by a text that starts with a separator and has another one. -/
theorem lookup_inside_unless_leadsOut (d : Directory) (c : ClassName) :
    (∀ fs fs' options, fs.read? (d.probe c) = fs'.read? (d.probe c) →
      d.lookup fs c options = d.lookup fs' c options) ∧
    (∀ fs options s, d.lookup fs c options = .ok (some s) → s.origin.path = d.probe c) ∧
    (¬ c.LeadsOut → (d.probe c).IsUnder d.root) ∧
    (c.LeadsOut → d.probe c = c.file ∧ (d.probe c).IsUnder ⟨"/"⟩ ∧
      (d.root.isAbsolute = false → ¬ (d.probe c).IsUnder d.root)) ∧
    (∀ text, (ClassName.ofInternal text).LeadsOut ↔
      (ClassName.ofInternal text).isModuleInfo = false ∧ ClassName.StartsApart text) ∧
    ∀ origin options bytes decl, ClassFile.decode origin options bytes = .ok decl →
      ∀ supertype ∈ decl.supertypes, ∃ text, supertype = .ofInternal text := by
  refine ⟨fun _ _ _ => lookup_eq_of_read?_eq, fun _ _ _ => path_of_lookup, isUnder_probe, ?_,
    ClassName.leadsOut_ofInternal_iff, fun _ _ _ _ hdecode _ =>
      ClassFile.exists_ofInternal_of_mem_supertypes hdecode⟩
  intro h
  have habsolute : c.file.isAbsolute = true := (ClassName.leadsOut_iff.mp h).2
  rw [probe_of_leadsOut h]
  refine ⟨rfl, c.downward_file.isUnder_root habsolute, fun hroot hunder => ?_⟩
  rw [hunder.isAbsolute habsolute] at hroot
  cases hroot

end Directory

namespace Outside

def innerFile : Bytes :=
  (ClassOutline.plain .classA ⟨"/x/B", by decide +kernel⟩).bytes

def outerFile : Bytes := (ClassOutline.plain ⟨"/x/B", by decide +kernel⟩ .object).bytes

/-- A class in the folder, and its superclass outside. -/
def fs : FileSystem :=
  ⟨.folder [("work", .folder [("d", .folder [("A.class", .file innerFile)])]),
    ("x", .folder [("B.class", .file outerFile)])], ["work"]⟩

def directory : Directory :=
  ⟨⟨"d"⟩, false⟩

def view : View :=
  ⟨[⟨directory.location fs, .application⟩], fun _ => none⟩

end Outside

open Outside in
/-- The class file in the folder names a superclass that is then read from outside. -/
theorem Directory.lookup_inside_unless_leadsOut_outside :
    (view.supertypes ⟨"", "A"⟩ .initial).1 = [.ofInternal "/x/B"] ∧
    (ClassName.ofInternal "/x/B").LeadsOut ∧
    ∃ s, directory.lookup fs (.ofInternal "/x/B") .full = .ok (some s) ∧
      s.origin.path = ⟨"/x/B.class"⟩ ∧ ¬ s.origin.path.IsUnder directory.root := by
  obtain ⟨-, hpath, -, hout, hnames, -⟩ :=
    lookup_inside_unless_leadsOut directory (.ofInternal "/x/B")
  have hleads : (ClassName.ofInternal "/x/B").LeadsOut :=
    (hnames "/x/B").mpr ⟨by decide, '/', ['x', '/', 'B'], rfl, .inr rfl, '/', by decide, .inr rfl⟩
  obtain ⟨hprobe, -, hoff⟩ := hout hleads
  have hfound : (directory.lookup fs (.ofInternal "/x/B") .full).toOption.map
      (·.map Source.name) = some (some (.ofInternal "/x/B")) := by
    decide +kernel
  cases hlookup : directory.lookup fs (.ofInternal "/x/B") .full with
  | error failure =>
    rw [hlookup] at hfound
    cases hfound
  | ok found =>
    rw [hlookup] at hfound
    obtain ⟨s, rfl, -⟩ := Option.map_eq_some_iff.mp (Option.some.inj hfound)
    have hs := hpath fs .full s hlookup
    refine ⟨by decide +kernel, hleads, s, rfl, hs.trans (hprobe.trans (by decide)), ?_⟩
    rw [hs]
    exact hoff (by decide)

end ClassAtlas
