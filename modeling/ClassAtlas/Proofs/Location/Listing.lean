import ClassAtlas.Location.SingleFile
import ClassAtlas.Proofs.Location.Alike
import ClassAtlas.Proofs.Location.Enumeration
import ClassAtlas.Proofs.Names.Spellings

/-!
# Looking up and listing

A location is asked for one class, or for all that it has, and goes two ways
about it. For one class it works out from the name where to look; for all of
them it takes what is there and reads the names off. The two answers agree as
long as a name and a place determine each other.
-/

namespace ClassAtlas

open FileSystem (isProper isProper_iff read?_eq_some_iff)

/-! ## Decoded classes -/

namespace ClassFile

theorem className_of_declaration [Formats] {origin : String} {options : LoadOptions} {c : ClassFile}
    {decl : ClassDecl} (h : declaration origin options c = .ok decl) :
    className c.pool origin c.thisClass = .ok decl.name := by
  obtain ⟨name, hname, h⟩ := bind_eq_ok_iff.mp h
  obtain ⟨superclass, -, h⟩ := bind_eq_ok_iff.mp h
  obtain ⟨interfaces, -, h⟩ := bind_eq_ok_iff.mp h
  obtain ⟨⟨fields, methods⟩, -, h⟩ := bind_eq_ok_iff.mp h
  obtain ⟨annotations, -, h⟩ := bind_eq_ok_iff.mp h
  cases h
  exact hname

theorem exists_ofInternal_of_className {pool : ConstantPool} {origin : String} {index : Nat}
    {name : ClassName} (h : className pool origin index = .ok name) :
    ∃ text, name = .ofInternal text := by
  unfold className at h
  split at h
  · obtain ⟨text, -, htext⟩ := bind_eq_ok_iff.mp h
    exact ⟨text, (Except.ok.inj htext).symm⟩
  · cases h

end ClassFile

namespace Source

variable [Formats] {location : String} {path : Path} {options : LoadOptions} {bytes : Bytes}
  {s : Source}

theorem path_of_ofClassFile (h : ofClassFile location path options bytes = .ok s) :
    s.origin.path = path := by
  obtain ⟨decl, -, hs⟩ := bind_eq_ok_iff.mp h
  cases hs
  rfl

theorem exists_ofInternal_of_ofClassFile (h : ofClassFile location path options bytes = .ok s) :
    ∃ text, s.name = .ofInternal text := by
  obtain ⟨decl, hdecode, hs⟩ := bind_eq_ok_iff.mp h
  cases hs
  unfold ClassFile.decode at hdecode
  split at hdecode
  · exact ClassFile.exists_ofInternal_of_className (ClassFile.className_of_declaration hdecode)
  · cases hdecode

theorem no_slash_of_ofClassFile (h : ofClassFile location path options bytes = .ok s) :
    '/' ∉ s.name.dotted.toList := by
  obtain ⟨text, htext⟩ := exists_ofInternal_of_ofClassFile h
  rw [htext]
  exact ClassName.no_slash_ofInternal text

theorem no_dot_of_ofClassFile (h : ofClassFile location path options bytes = .ok s) :
    '.' ∉ s.name.simple.toList := by
  obtain ⟨text, htext⟩ := exists_ofInternal_of_ofClassFile h
  rw [htext]
  exact ClassName.no_dot_ofDotted _

end Source

/-! ## Single files -/

namespace SingleFile

variable [Formats] {f : SingleFile} {fs : FileSystem} {options : LoadOptions}

/-- A single file lists the class in it, whatever the file is called. Looked up, the class is found
only under the simple name that the file is called by. -/
theorem lookup_agrees_iff_stem {sources : List Source}
    (h : f.enumerate fs options = .ok sources) :
    ∃ u, sources = [u] ∧ ∀ c : ClassName, c.isModuleInfo = false →
      f.lookup fs c options =
        .ok (if u.name = c ∧ f.path.fileStem? = some c.simple then some u else none) ∧
      (f.lookup fs c options = .ok (if u.name = c then some u else none) ↔
        (u.name = c → f.path.fileStem? = some c.simple)) := by
  obtain ⟨u, hu, hsources⟩ := bind_eq_ok_iff.mp h
  refine ⟨u, (Except.ok.inj hsources).symm, fun c hc => ?_⟩
  have hlookup : f.lookup fs c options =
      .ok (if u.name = c ∧ f.path.fileStem? = some c.simple then some u else none) := by
    unfold lookup
    by_cases hstem : f.path.fileStem? = some c.simple
    · simp [hc, hstem, hu, bind, Except.bind, pure, Except.pure]
    · simp [hc, hstem]
  refine ⟨hlookup, ?_⟩
  rw [hlookup, Except.ok.injEq]
  by_cases hname : u.name = c
  · by_cases hstem : f.path.fileStem? = some c.simple <;> simp [hname, hstem]
  · simp [hname]

end SingleFile

/-- An attempt that is known to end with this name. -/
theorem exists_of_map_name {x : Except Failure Source} {name : ClassName}
    (h : x.toOption.map Source.name = some name) : ∃ s, x = .ok s ∧ s.name = name := by
  cases x with
  | error e => cases h
  | ok s => exact ⟨s, rfl, Option.some.inj h⟩

namespace Misnamed

def bytes : Bytes := (ClassOutline.plain .classPA .object).bytes

/-- The same class in two files. -/
def fs : FileSystem :=
  ⟨.folder [("A.class", .file bytes), ("Other.class", .file bytes)], []⟩

theorem exists_enumerate (path : Path)
    (h : (SingleFile.source ⟨path⟩ fs .full).toOption.map Source.name = some ⟨"p", "A"⟩) :
    ∃ u, SingleFile.enumerate ⟨path⟩ fs .full = .ok [u] ∧ u.name = ⟨"p", "A"⟩ := by
  obtain ⟨u, hu, hname⟩ := exists_of_map_name h
  refine ⟨u, ?_, hname⟩
  rw [SingleFile.enumerate, hu]
  rfl

end Misnamed

open Misnamed in
/-- In a file with another name the class is listed and not found. -/
theorem SingleFile.lookup_agrees_iff_stem_misnamed :
    (∃ u, enumerate ⟨⟨"A.class"⟩⟩ fs .full = .ok [u] ∧ u.name = ⟨"p", "A"⟩ ∧
      lookup ⟨⟨"A.class"⟩⟩ fs ⟨"p", "A"⟩ .full = .ok (some u)) ∧
    ∃ u, enumerate ⟨⟨"Other.class"⟩⟩ fs .full = .ok [u] ∧ u.name = ⟨"p", "A"⟩ ∧
      lookup ⟨⟨"Other.class"⟩⟩ fs ⟨"p", "A"⟩ .full = .ok none := by
  refine ⟨?_, ?_⟩
  · obtain ⟨u, hlisted, hname⟩ := exists_enumerate ⟨"A.class"⟩ (by decide +kernel)
    obtain ⟨v, hv, hlookup⟩ := lookup_agrees_iff_stem hlisted
    obtain rfl : u = v := by simpa using hv
    have hstem : Path.fileStem? ⟨"A.class"⟩ = some "A" := by decide
    refine ⟨u, hlisted, hname, ?_⟩
    rw [(hlookup ⟨"p", "A"⟩ (by decide)).1, if_pos ⟨hname, hstem⟩]
  · obtain ⟨u, hlisted, hname⟩ := exists_enumerate ⟨"Other.class"⟩ (by decide +kernel)
    obtain ⟨v, hv, hlookup⟩ := lookup_agrees_iff_stem hlisted
    have hstem : Path.fileStem? ⟨"Other.class"⟩ ≠ some "A" := by decide
    refine ⟨u, hlisted, hname, ?_⟩
    rw [(hlookup ⟨"p", "A"⟩ (by decide)).1, if_neg fun h => hstem h.2]

/-! ## What a folder lists -/

namespace Directory

variable {d : Directory} {fs : FileSystem} {entries : List (FileName × FileTree)} {c : ClassName}
  {s : Source}

/-- The texts of the names that lead to a class file. -/
def classFile (folder : List String) (stem : String) : List String :=
  folder ++ [stem ++ classSuffix]

theorem classFile_ne_nil (folder : List String) (stem : String) : classFile folder stem ≠ [] := by
  simp [classFile]

theorem length_joined_classFile (folder : List String) (stem : String) :
    (Text.joined '/' (classFile folder stem)).length =
      (Text.joined '.' (folder ++ [stem])).length + classSuffix.length := by
  have hlast : (Text.join '/' ((classFile folder stem).map String.toList)).length =
      (Text.join '/' ((folder ++ [stem]).map String.toList)).length + classSuffix.length := by
    rw [classFile, List.map_append, List.map_append]
    cases folder with
    | nil => simp [Text.join, String.length_toList]
    | cons first folder =>
      have hne : (first :: folder).map String.toList ≠ [] := by simp
      simp only [List.map_cons, List.map_nil] at hne ⊢
      rw [Text.join_concat hne, Text.join_concat hne]
      simp only [List.length_append, List.length_cons, String.toList_append, String.length_toList]
      omega
  rw [Text.joined, Text.joined, String.length_ofList, String.length_ofList, hlast,
    Text.length_join_eq '/' '.']

theorem ne_moduleInfoName {stem : String} (h : ¬ ClassName.moduleInfoName.toList <:+ stem.toList) :
    stem ≠ ClassName.moduleInfoName := by
  rintro rfl
  exact h (List.suffix_refl _)

/-- Nothing that is called like a class is out of reach. -/
def InReach (d : Directory) (entries : List (FileName × FileTree)) : Prop :=
  ∀ names, ¬ d.IsOutOfReach (.folder entries) names

/-- A class file has a name of its own, which says so. -/
theorem IsClassFile.exists_concat {names : List FileName} {bytes : Bytes}
    (h : d.IsClassFile (.folder entries) names bytes) (hbytes : d.root.raw.bytes ≠ []) :
    ∃ front last stem, names = front ++ [last] ∧ last.shown = stem ++ classSuffix ∧
      ¬ ClassName.moduleInfoName.toList <:+ stem.toList := by
  rcases List.eq_nil_or_concat' names with rfl | ⟨front, last, rfl⟩
  · cases h.file
  · have hcalled := h.called
    rw [isClassEntry_descend hbytes] at hcalled
    obtain ⟨stem, hstem, hmodule⟩ := isClassEntry_iff.mp hcalled
    exact ⟨front, last, stem, rfl, hstem, hmodule⟩

/-- Texts lead where their path leads. -/
theorem raw_descend_classFile (hroot : d.root.text ≠ "") {folder : List String} {stem : String}
    (hnames : ∀ name ∈ (classFile folder stem).map FileName.ofText, IsEntryName name) :
    d.root.raw.descend ((classFile folder stem).map .ofText) =
      (d.root.join ⟨Text.joined '/' (classFile folder stem)⟩).raw :=
  Path.raw_descend hroot (fun _ htext => (hnames _ (List.mem_map_of_mem htext)).isSegment)
    (classFile_ne_nil folder stem)

theorem exists_module_of_moduleSource (h : d.moduleSource fs = .ok (some s)) :
    ∃ descriptor, s = .module ⟨d.name, d.modulePath⟩ descriptor := by
  unfold moduleSource at h
  split at h
  · split at h
    · obtain ⟨found, hfound, hs⟩ := bind_eq_ok_iff.mp h
      cases hs
      exact Source.exists_module_of_ofModuleFile hfound
    · cases h
  · cases h

theorem isModuleInfo_of_moduleSource (h : d.moduleSource fs = .ok (some s)) :
    s.name.isModuleInfo = true := by
  obtain ⟨descriptor, rfl⟩ := exists_module_of_moduleSource h
  exact ClassName.isModuleInfo_moduleInfo _

/-- The path of a class, if its name was read from a class file. -/
theorem classPath_eq_join (hslash : '/' ∉ c.dotted.toList) (hdot : '.' ∉ c.simple.toList) :
    d.classPath c = d.root.join ⟨Text.joined '/' (classFile c.folders c.simple)⟩ := by
  rw [classFile, ← ClassName.segments_file hslash hdot, Text.joined_segments]
  rfl

/-- What is found at the path of a class is in the tree, below those folders whose names are not
empty. -/
theorem at?_of_find?_classPath {found : FileTree}
    (hroot : fs.find? d.root = some (.folder entries)) (hslash : '/' ∉ c.dotted.toList)
    (hdot : '.' ∉ c.simple.toList) (hrelative : c.file.isAbsolute = false)
    (h : fs.find? (d.classPath c) = some found) :
    (FileTree.folder entries).at?
      ((classFile (c.folders.filter (· ≠ "")) c.simple).map .ofText) = some found := by
  have hsegments := ClassName.segments_file hslash hdot
  have hplain : ∀ segment ∈ Text.segments '/' c.file.text, segment ≠ "" → IsPlain segment := by
    intro segment hsegment hne
    rw [hsegments, List.mem_append, List.mem_singleton] at hsegment
    rcases hsegment with hfolder | rfl
    · exact isPlain_of_no_dot hne (ClassName.no_dot_of_mem_folders hfolder)
    · exact isPlain_append_classSuffix _
  have hlast : c.simple ++ classSuffix ≠ "" := (isPlain_append_classSuffix _).ne_empty
  have hat := FileSystem.at?_of_find?_join hroot hrelative hplain h
  rwa [hsegments, List.filter_append, List.filter_singleton, decide_eq_true hlast] at hat

/-- A path under a folder is longer than the name that it spells, so it is not the absolute path of
that name. -/
theorem isAbsolute_file_of_join_eq {folder : List String} {stem : String}
    (hroot : d.root.text ≠ "")
    (hbelow : (Path.mk (Text.joined '/' (classFile folder stem))).isAbsolute = false)
    (hc : c = .ofDotted (Text.joined '.' (folder ++ [stem])))
    (h : d.root.join ⟨Text.joined '/' (classFile folder stem)⟩ = d.classPath c) :
    c.file.isAbsolute = false := by
  by_contra habsolute
  have hpath : d.classPath c = c.file := if_pos (by simpa using habsolute)
  have hlonger := congrArg (·.text.toList.length) (h.trans hpath)
  simp only [Path.toList_join hroot hbelow, List.length_append, List.length_cons,
    String.length_toList, length_joined_classFile, ClassName.length_file] at hlonger
  have hshorter := (ClassName.dotted_ofDotted_suffix (Text.joined '.' (folder ++ [stem]))).length_le
  rw [← hc, String.length_toList, String.length_toList] at hshorter
  omega

variable [Formats] {options : LoadOptions} {sources : List Source}

/-- The class files of the folder decode. The names that lead to each one are texts, and it declares
the class whose name they spell. -/
structure Orderly (d : Directory) (options : LoadOptions) (entries : List (FileName × FileTree)) :
    Prop where
  sound : (FileTree.folder entries).Sound
  declares : ∀ front last stem bytes,
    (FileTree.folder entries).at? (front ++ [last]) = some (.file bytes) →
    last.shown = stem ++ classSuffix → stem ≠ ClassName.moduleInfoName →
    ∃ folder, front ++ [last] = (classFile folder stem).map .ofText ∧
      ∃ s, Source.ofClassFile d.name (d.root.raw.descend (front ++ [last])).shown options bytes =
          .ok s ∧
        s.name = .ofDotted (Text.joined '.' (folder ++ [stem]))

theorem classSource_eq_ok_iff {path : RawPath} {content : Option Bytes} :
    d.classSource options path content = .ok s ↔
      ∃ bytes, content = some bytes ∧
        Source.ofClassFile d.name path.shown options bytes = .ok s := by
  cases content <;> simp [classSource]

theorem enumerate_eq_ok_iff (hroot : fs.find? d.root = some (.folder entries)) :
    d.enumerate fs options = .ok sources ↔
      ∃ module, d.moduleSource fs = .ok module ∧ ∃ classes,
        (classFiles d.root (.folder entries)).mapM (fun p => d.classSource options p.1 p.2) =
          .ok classes ∧
        sources = module.toList ++ classes := by
  rw [enumerate_eq hroot, bind_eq_ok_iff]
  refine exists_congr fun module => and_congr_right' ?_
  rw [bind_eq_ok_iff]
  refine exists_congr fun classes => and_congr_right' ?_
  exact ⟨fun h => (Except.ok.inj h).symm, fun h => congrArg Except.ok h.symm⟩

/-- What is listed of classes: those in the class files that a walk comes to. -/
theorem mem_sources_iff (hroot : fs.find? d.root = some (.folder entries))
    (ht : (FileTree.folder entries).Sound) (h : d.enumerate fs options = .ok sources)
    (hs : s.name.isModuleInfo = false) :
    s ∈ sources ↔ ∃ names bytes, d.IsClassFile (.folder entries) names bytes ∧
      Source.ofClassFile d.name (d.root.raw.descend names).shown options bytes = .ok s := by
  obtain ⟨listed, hlisted, hfiles⟩ := exists_lists (FileSystem.exists_of_find? hroot).1 ht
  obtain ⟨module, hmodule, classes, hclasses, rfl⟩ := (enumerate_eq_ok_iff hroot).mp h
  have hnot : s ∉ module.toList := by
    intro hmem
    obtain rfl : module = some s := by simpa using hmem
    rw [isModuleInfo_of_moduleSource hmodule] at hs
    cases hs
  rw [List.mem_append, or_iff_right hnot, mem_iff_of_mapM_eq_ok hclasses, hfiles]
  simp only [List.mem_map, classSource_eq_ok_iff]
  constructor
  · rintro ⟨_, ⟨⟨names, content⟩, hmem, rfl⟩, bytes, rfl, hdecode⟩
    exact ⟨names, bytes, (hlisted.classFiles names bytes).mp hmem, hdecode⟩
  · rintro ⟨names, bytes, hfile, hdecode⟩
    exact ⟨_, ⟨_, (hlisted.classFiles names bytes).mpr hfile, rfl⟩, bytes, rfl, hdecode⟩

/-- The class in a class file of an orderly folder. -/
theorem Orderly.exists_of_isClassFile (h : d.Orderly options entries)
    (hbytes : d.root.raw.bytes ≠ []) {names : List FileName} {bytes : Bytes}
    (hfile : d.IsClassFile (.folder entries) names bytes) :
    ∃ folder stem, names = (classFile folder stem).map .ofText ∧
      ¬ ClassName.moduleInfoName.toList <:+ stem.toList ∧
      ∃ s, Source.ofClassFile d.name (d.root.raw.descend names).shown options bytes = .ok s ∧
        s.name = .ofDotted (Text.joined '.' (folder ++ [stem])) := by
  obtain ⟨front, last, stem, rfl, hlast, hstem⟩ := hfile.exists_concat hbytes
  obtain ⟨folder, hnames, hdeclares⟩ :=
    h.declares front last stem bytes hfile.file hlast (ne_moduleInfoName hstem)
  exact ⟨folder, stem, hnames, hstem, hdeclares⟩

theorem Orderly.exists_classes_iff (h : d.Orderly options entries)
    (hroot : isProper d.root.raw = true) :
    (∃ classes, (classFiles d.root (.folder entries)).mapM
      (fun p => d.classSource options p.1 p.2) = .ok classes) ↔ d.InReach entries := by
  obtain ⟨listed, hlisted, hfiles⟩ := exists_lists hroot h.sound
  rw [exists_mapM_eq_ok_iff, hfiles]
  simp only [List.forall_mem_map, classSource_eq_ok_iff]
  constructor
  · intro hall names hout
    obtain ⟨s, bytes, hnone, -⟩ := hall _ ((hlisted.outOfReach names).mpr hout)
    cases hnone
  · rintro hreach ⟨names, content⟩ hmem
    cases content with
    | none => exact absurd ((hlisted.outOfReach names).mp hmem) (hreach names)
    | some bytes =>
      have hfile := (hlisted.classFiles names bytes).mp hmem
      obtain ⟨-, -, -, -, s, hs, -⟩ := h.exists_of_isClassFile (isProper_iff.mp hroot).1 hfile
      exact ⟨s, bytes, rfl, hs⟩

/-- In an orderly folder listing fails over the module descriptor, or over a path out of reach. -/
theorem Orderly.exists_enumerate_iff (h : d.Orderly options entries)
    (hroot : fs.find? d.root = some (.folder entries)) :
    (∃ sources, d.enumerate fs options = .ok sources) ↔
      (∃ module, d.moduleSource fs = .ok module) ∧ d.InReach entries := by
  rw [← h.exists_classes_iff (FileSystem.exists_of_find? hroot).1]
  constructor
  · rintro ⟨sources, hsources⟩
    obtain ⟨module, hmodule, classes, hclasses, -⟩ := (enumerate_eq_ok_iff hroot).mp hsources
    exact ⟨⟨module, hmodule⟩, classes, hclasses⟩
  · rintro ⟨⟨module, hmodule⟩, classes, hclasses⟩
    exact ⟨_, (enumerate_eq_ok_iff hroot).mpr ⟨module, hmodule, classes, hclasses, rfl⟩⟩

/-! ## What a folder finds -/

theorem lookup_eq_some_iff (hc : c.isModuleInfo = false) :
    d.lookup fs c options = .ok (some s) ↔
      ∃ bytes, fs.find? (d.classPath c) = some (.file bytes) ∧
        Source.ofClassFile d.name (d.classPath c) options bytes = .ok s ∧ s.name = c := by
  simp only [← read?_eq_some_iff]
  unfold lookup
  rw [hc]
  cases fs.read? (d.classPath c) with
  | none => simp
  | some bytes =>
    simp only [Bool.false_eq_true, if_false, bind_eq_ok_iff, Source.expect_eq_ok_iff,
      Option.some.injEq]
    constructor
    · rintro ⟨found, hfound, _, ⟨hname, rfl⟩, hs⟩
      cases hs
      exact ⟨bytes, rfl, hfound, hname⟩
    · rintro ⟨_, rfl, hfound, hname⟩
      exact ⟨s, hfound, s, ⟨hname, rfl⟩, rfl⟩

namespace Orderly

/-- What is listed from where it is looked for is found. -/
theorem lookup_of_mem (h : d.Orderly options entries)
    (hroot : fs.find? d.root = some (.folder entries))
    (hsources : d.enumerate fs options = .ok sources) (hs : s.name.isModuleInfo = false)
    (hmem : s ∈ sources) (hplace : s.origin.path = d.classPath s.name) :
    d.lookup fs s.name options = .ok (some s) := by
  have hproper := (FileSystem.exists_of_find? hroot).1
  have hbase := FileSystem.text_ne_empty_of_isProper hproper
  obtain ⟨names, bytes, hfile, hdecode⟩ := (mem_sources_iff hroot h.sound hsources hs).mp hmem
  obtain ⟨folder, stem, rfl, -, -⟩ :=
    h.exists_of_isClassFile (isProper_iff.mp hproper).1 hfile
  have hnames := h.sound.isEntryName hfile.file
  have hraw := raw_descend_classFile hbase hnames
  have hreached := hfile.reached
  rw [hraw] at hreached
  rw [hraw, Path.shown_raw] at hdecode
  have hpath : d.root.join ⟨Text.joined '/' (classFile folder stem)⟩ = d.classPath s.name :=
    (Source.path_of_ofClassFile hdecode).symm.trans hplace
  have hsegment (text : String) (htext : text ∈ classFile folder stem) :
      IsEntryName (.ofText text) :=
    hnames _ (List.mem_map_of_mem htext)
  have hsegments : Text.segments '/' (Text.joined '/' (classFile folder stem)) =
      classFile folder stem :=
    Text.segments_joined (fun text htext => (hsegment text htext).isSegment.no_slash)
      (classFile_ne_nil folder stem)
  have hfind : fs.find? (d.root.join ⟨Text.joined '/' (classFile folder stem)⟩) =
      some (.file bytes) := by
    rw [FileSystem.find?_join hroot ?_ hreached, hsegments]
    · exact hfile.file
    · intro segment hmem
      rw [hsegments] at hmem
      exact (hsegment segment hmem).isPlain
  rw [hpath] at hfind hdecode
  exact (lookup_eq_some_iff hs).mpr ⟨bytes, hfind, hdecode, rfl⟩

/-- The path of the file has no empty segments. It spells the name, too, so the name has none. -/
theorem folders_eq_filter (h : d.Orderly options entries) {path : Path} {bytes : Bytes}
    (hdecode : Source.ofClassFile d.name path options bytes = .ok s)
    (hsimple : ¬ ClassName.moduleInfoName.toList <:+ s.name.simple.toList)
    (hat : (FileTree.folder entries).at?
      ((classFile (s.name.folders.filter (· ≠ "")) s.name.simple).map .ofText) =
        some (.file bytes)) :
    s.name.folders = s.name.folders.filter (· ≠ "") := by
  have hnames : (classFile (s.name.folders.filter (· ≠ "")) s.name.simple).map FileName.ofText =
      (s.name.folders.filter (· ≠ "")).map .ofText ++
        [.ofText (s.name.simple ++ classSuffix)] := by
    simp [classFile]
  rw [hnames] at hat
  obtain ⟨folder, hfolder, s', hs', hname'⟩ := h.declares _ _ _ _ hat (FileName.shown_ofText _)
    (ne_moduleInfoName hsimple)
  rw [← hnames] at hfolder
  have htexts := FileName.ofText_injective.list_map hfolder
  obtain rfl : s.name.folders.filter (· ≠ "") = folder := List.append_inj_left' htexts rfl
  apply ClassName.folders_eq_of_ofDotted
  · intro name hname
    obtain ⟨hmem, hne⟩ := List.mem_filter.mp hname
    exact ⟨by simpa using hne, ClassName.no_dot_of_mem_folders hmem⟩
  · exact Source.no_dot_of_ofClassFile hdecode
  · rw [← hname', Source.name_eq_of_ofClassFile hs' hdecode]

/-- What is found under the folder is listed, unless its name ends like that of a descriptor. -/
theorem mem_of_lookup (h : d.Orderly options entries)
    (hroot : fs.find? d.root = some (.folder entries))
    (hsources : d.enumerate fs options = .ok sources) (hc : c.isModuleInfo = false)
    (hfound : d.lookup fs c options = .ok (some s))
    (hsimple : ¬ ClassName.moduleInfoName.toList <:+ c.simple.toList)
    (hrelative : c.file.isAbsolute = false) : s ∈ sources := by
  have hproper := (FileSystem.exists_of_find? hroot).1
  have hbase := FileSystem.text_ne_empty_of_isProper hproper
  obtain ⟨bytes, hfind, hdecode, rfl⟩ := (lookup_eq_some_iff hc).mp hfound
  have hslash := Source.no_slash_of_ofClassFile hdecode
  have hdot := Source.no_dot_of_ofClassFile hdecode
  have hat := at?_of_find?_classPath hroot hslash hdot hrelative hfind
  rw [← h.folders_eq_filter hdecode hsimple hat] at hat
  have hraw := raw_descend_classFile hbase (h.sound.isEntryName hat)
  rw [← classPath_eq_join hslash hdot] at hraw
  have hcalled : isClassEntry (d.root.raw.descend
      ((classFile s.name.folders s.name.simple).map .ofText)).shown.text = true := by
    rw [classFile, List.map_append, List.map_singleton,
      isClassEntry_descend (isProper_iff.mp hproper).1, FileName.shown_ofText]
    exact isClassEntry_iff.mpr ⟨_, rfl, hsimple⟩
  refine (mem_sources_iff hroot h.sound hsources hc).mpr ⟨_, bytes, ⟨hat, hcalled, ?_⟩, ?_⟩
  · rw [hraw]
    exact (FileSystem.exists_of_find? hfind).1
  · rw [hraw, Path.shown_raw]
    exact hdecode

/-- What is listed from the path of its own name was looked for under the folder, and its name does
not end like that of a descriptor. -/
theorem plain_of_mem (h : d.Orderly options entries)
    (hroot : fs.find? d.root = some (.folder entries))
    (hsources : d.enumerate fs options = .ok sources) (hs : s.name.isModuleInfo = false)
    (hmem : s ∈ sources) (hplace : s.origin.path = d.classPath s.name) :
    ¬ ClassName.moduleInfoName.toList <:+ s.name.simple.toList ∧
      s.name.file.isAbsolute = false := by
  have hproper := (FileSystem.exists_of_find? hroot).1
  have hbase := FileSystem.text_ne_empty_of_isProper hproper
  obtain ⟨names, bytes, hfile, hdecode⟩ := (mem_sources_iff hroot h.sound hsources hs).mp hmem
  obtain ⟨folder, stem, rfl, hstem, s', hs', hname⟩ :=
    h.exists_of_isClassFile (isProper_iff.mp hproper).1 hfile
  rw [← Source.name_eq_of_ofClassFile hdecode hs'] at hname
  have hnames := h.sound.isEntryName hfile.file
  have hsegments (text : String) (htext : text ∈ classFile folder stem) : IsSegment text :=
    (hnames _ (List.mem_map_of_mem htext)).isSegment
  have hbelow := Path.isAbsolute_joined hsegments (classFile_ne_nil folder stem)
  have hjoin : d.root.join ⟨Text.joined '/' (classFile folder stem)⟩ = d.classPath s.name := by
    rw [← Path.shown_raw (d.root.join _), ← raw_descend_classFile hbase hnames]
    exact (Source.path_of_ofClassFile hdecode).symm.trans hplace
  have hrelative := isAbsolute_file_of_join_eq hbase hbelow hname hjoin
  have htexts : classFile folder stem = classFile s.name.folders s.name.simple := by
    have hpath := congrArg (Text.segments '/' ·.text) (Path.join_inj hbase hbelow hrelative hjoin)
    simp only [ClassName.segments_file (Source.no_slash_of_ofClassFile hdecode)
      (Source.no_dot_of_ofClassFile hdecode)] at hpath
    rwa [Text.segments_joined (fun text htext => (hsegments text htext).no_slash)
      (classFile_ne_nil folder stem)] at hpath
  have hsimple : s.name.simple = stem := by
    simpa [classFile] using (List.append_inj_right' htexts rfl).symm
  exact ⟨hsimple ▸ hstem, hrelative⟩

end Orderly

/-- In an orderly folder listing succeeds unless the module descriptor is broken or something called
like a class is out of reach. A class is then found exactly if it is listed, as the same source, on
two conditions: a class that is found has a name that does not end like that of a descriptor and is
looked for under the folder, and a class that is listed stands where it is looked for. -/
theorem lookup_agrees_iff_in_place (hroot : fs.find? d.root = some (.folder entries))
    (h : d.Orderly options entries) :
    ((∃ sources, d.enumerate fs options = .ok sources) ↔
      (∃ module, d.moduleSource fs = .ok module) ∧ d.InReach entries) ∧
    ∀ sources, d.enumerate fs options = .ok sources → ∀ c : ClassName, c.isModuleInfo = false →
      ((∀ s, d.lookup fs c options = .ok (some s) ↔ s ∈ sources ∧ s.name = c) ↔
        (∀ s, d.lookup fs c options = .ok (some s) →
          ¬ ClassName.moduleInfoName.toList <:+ c.simple.toList ∧ c.file.isAbsolute = false) ∧
        ∀ s ∈ sources, s.name = c → s.origin.path = d.classPath c) := by
  refine ⟨h.exists_enumerate_iff hroot, fun sources hsources c hc => ?_⟩
  have hplace {s : Source} (hfound : d.lookup fs c options = .ok (some s)) :
      s.name = c ∧ s.origin.path = d.classPath c := by
    obtain ⟨bytes, -, hdecode, hname⟩ := (lookup_eq_some_iff hc).mp hfound
    exact ⟨hname, Source.path_of_ofClassFile hdecode⟩
  constructor
  · intro hagree
    refine ⟨fun s hfound => ?_, fun s hmem hname => (hplace ((hagree s).mpr ⟨hmem, hname⟩)).2⟩
    obtain ⟨rfl, hpath⟩ := hplace hfound
    exact h.plain_of_mem hroot hsources hc ((hagree s).mp hfound).1 hpath
  · rintro ⟨hplain, hlisted⟩ s
    constructor
    · intro hfound
      obtain ⟨hsimple, hrelative⟩ := hplain s hfound
      exact ⟨h.mem_of_lookup hroot hsources hc hfound hsimple hrelative, (hplace hfound).1⟩
    · rintro ⟨hmem, rfl⟩
      exact h.lookup_of_mem hroot hsources hc hmem (hlisted s hmem rfl)

end Directory

/-! ## A name like that of a descriptor -/

namespace Lookalike

def plainFile : Bytes := (ClassOutline.plain .classA .object).bytes

def otherFile : Bytes := (ClassOutline.plain ⟨"Xmodule-info", by decide +kernel⟩ .object).bytes

def entries : List (FileName × FileTree) :=
  [("A.class", .file plainFile), ("Xmodule-info.class", .file otherFile)]

def fs : FileSystem :=
  ⟨.folder [("d", .folder entries)], []⟩

def directory : Directory :=
  ⟨⟨"d"⟩, false⟩

theorem sound_entries : (FileTree.folder entries).Sound :=
  .cons (by decide +kernel) (by decide +kernel) (.file _)
    (.cons (by decide +kernel) (by decide +kernel) (.file _) .empty)

/-- There are two class files. -/
theorem cases_of_at? {names : List FileName} {found : FileTree}
    (h : (FileTree.folder entries).at? names = some found) :
    names = [] ∨ names = [.ofText "A.class"] ∧ found = .file plainFile ∨
      names = [.ofText "Xmodule-info.class"] ∧ found = .file otherFile := by
  cases names with
  | nil => exact .inl rfl
  | cons first names =>
    obtain ⟨t, ht, hat⟩ := (FileTree.at?_cons_eq_some_iff (by decide +kernel)).mp h
    rcases List.mem_pair.mp ht with heq | heq
    all_goals
      cases heq
      obtain ⟨rfl, rfl⟩ := FileTree.at?_file_eq_some_iff.mp hat
      simp

/-- A file of the folder itself is a class file for what it is called. -/
theorem eq_classFile (name : String) {front : List FileName} {last : FileName} {file stem : String}
    (hnames : front ++ [last] = [.ofText file]) (hfile : file = name ++ classSuffix)
    (hlast : last.shown = stem ++ classSuffix) :
    front ++ [last] = (Directory.classFile [] name).map .ofText ∧ stem = name := by
  have hnames' : front ++ [last] = [] ++ [.ofText file] := hnames
  obtain ⟨-, hlast'⟩ := List.append_inj' hnames' rfl
  rw [List.singleton_inj.mp hlast', FileName.shown_ofText, hfile] at hlast
  exact ⟨by rw [hnames, hfile]; rfl, by simpa using hlast.symm⟩

theorem orderly : directory.Orderly .full entries where
  sound := sound_entries
  declares := by
    intro front last stem bytes hat hlast _
    rcases cases_of_at? hat with hnil | ⟨hnames, hfile⟩ | ⟨hnames, hfile⟩
    · simp at hnil
    · obtain ⟨hfront, rfl⟩ := eq_classFile "A" hnames (by decide) hlast
      cases hfile
      refine ⟨[], hfront, ?_⟩
      rw [hfront]
      exact exists_of_map_name (by decide +kernel)
    · obtain ⟨hfront, rfl⟩ := eq_classFile "Xmodule-info" hnames (by decide) hlast
      cases hfile
      refine ⟨[], hfront, ?_⟩
      rw [hfront]
      exact exists_of_map_name (by decide +kernel)

theorem inReach : directory.InReach entries := by
  intro names hout
  obtain ⟨found, hfound⟩ := Option.isSome_iff_exists.mp hout.entry
  have hreached : isProper (directory.root.raw.descend names) = true := by
    rcases cases_of_at? hfound with rfl | ⟨rfl, -⟩ | ⟨rfl, -⟩ <;> decide +kernel
  exact Bool.false_ne_true (hout.unreached.symm.trans hreached)

end Lookalike

open Lookalike in
/-- One of two classes is found and listed, the other one is found and not listed. -/
theorem Directory.lookup_agrees_iff_in_place_lookalike :
    fs.find? directory.root = some (.folder entries) ∧ directory.Orderly .full entries ∧
    ∃ sources, directory.enumerate fs .full = .ok sources ∧
      (∀ s, directory.lookup fs ⟨"", "A"⟩ .full = .ok (some s) ↔
        s ∈ sources ∧ s.name = ⟨"", "A"⟩) ∧
      ¬ ∀ s, directory.lookup fs ⟨"", "Xmodule-info"⟩ .full = .ok (some s) ↔
        s ∈ sources ∧ s.name = ⟨"", "Xmodule-info"⟩ := by
  have hroot : fs.find? directory.root = some (.folder entries) := rfl
  obtain ⟨hsucceeds, hagrees⟩ := lookup_agrees_iff_in_place hroot orderly
  obtain ⟨sources, hsources⟩ := hsucceeds.mpr ⟨⟨none, rfl⟩, inReach⟩
  refine ⟨hroot, orderly, sources, hsources, ?_, ?_⟩
  · refine (hagrees sources hsources ⟨"", "A"⟩ (by decide)).mpr ⟨fun s _ => by decide, ?_⟩
    intro s hmem hname
    obtain ⟨names, bytes, hfile, hdecode⟩ :=
      (mem_sources_iff hroot sound_entries hsources (hname ▸ by decide)).mp hmem
    rw [Source.path_of_ofClassFile hdecode]
    rcases cases_of_at? hfile.file with rfl | ⟨rfl, -⟩ | ⟨rfl, -⟩
    · cases hfile.file
    · decide +kernel
    · exact absurd hfile.called (by decide +kernel)
  · intro hagree
    obtain ⟨hplain, -⟩ := (hagrees sources hsources ⟨"", "Xmodule-info"⟩ (by decide)).mp hagree
    have hfind : fs.find? (directory.classPath ⟨"", "Xmodule-info"⟩) = some (.file otherFile) := rfl
    obtain ⟨s, hdecode, hname⟩ := exists_of_map_name (show ((Source.ofClassFile directory.name
      (directory.classPath ⟨"", "Xmodule-info"⟩) .full otherFile).toOption.map Source.name) =
        some ⟨"", "Xmodule-info"⟩ by decide +kernel)
    have hfound : directory.lookup fs ⟨"", "Xmodule-info"⟩ .full = .ok (some s) :=
      (lookup_eq_some_iff (by decide)).mpr ⟨_, hfind, hdecode, hname⟩
    exact (hplain s hfound).1 (by decide)

end ClassAtlas
