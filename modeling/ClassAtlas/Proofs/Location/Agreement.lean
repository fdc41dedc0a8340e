import ClassAtlas.Location.Jar
import ClassAtlas.Proofs.ClassFile.Assembly
import ClassAtlas.Proofs.Location.Alike
import ClassAtlas.Proofs.Location.ClassPaths

/-!
# Folders and archives of the same files

A folder is walked and its paths are followed, an archive is a list that is
searched and sorted by name. With the same files in them they offer the same
classes, as long as all paths under the folder are short enough to be followed.
-/

namespace ClassAtlas

open FileSystem (Short isProper isProper_iff)

-- ---------------------------------------------------------------------------
-- The files of an archive
-- ---------------------------------------------------------------------------

/-- An entry for one release is below two folders. -/
theorem Jar.segments_of_isVersioned {entry : String} (h : isVersioned entry = true) :
    ∃ names, names ≠ [] ∧ Text.segments '/' entry = "META-INF" :: "versions" :: names := by
  obtain ⟨rest, hrest⟩ := List.isPrefixOf_iff_prefix.mp h
  refine ⟨Text.segments '/' (String.ofList rest), Text.segments_ne_nil _ _, ?_⟩
  have hfolders : Text.split '/' "META-INF/versions".toList =
      ["META-INF".toList, "versions".toList] := by decide
  have hslash : "META-INF/versions/".toList = "META-INF/versions".toList ++ ['/'] := by decide
  have hentry : entry.toList = "META-INF/versions".toList ++ '/' :: rest := by
    rw [← hrest, hslash, List.append_assoc, List.singleton_append]
  rw [Text.segments, hentry, Text.split_append_cons, hfolders]
  simp [Text.segments]

/-- The archive holds the files of the tree under their paths, which are texts, and nothing else. -/
structure Archive.Packs (a : Archive) (t : FileTree) : Prop where
  texts : ∀ f ∈ t.files, ∀ name ∈ f.1, name.IsText
  entries : a.entries.Perm
    (t.files.map fun f => (Text.joined '/' (f.1.map FileName.shown), .ok f.2))

section Folder

variable {entries : List (FileName × FileTree)}

namespace Archive.Packs

variable {a : Archive}

theorem names_perm {t : FileTree} (h : a.Packs t) :
    (a.entries.map (·.1)).Perm
      (t.files.map fun f => Text.joined '/' (f.1.map FileName.shown)) := by
  have hnames := h.entries.map (·.1)
  rwa [List.map_map] at hnames

theorem nodup_names (h : a.Packs (.folder entries)) (ht : (FileTree.folder entries).Sound) :
    (a.entries.map (·.1)).Nodup := by
  let back (text : String) : List FileName := (Text.segments '/' text).map .ofText
  refine h.names_perm.nodup_iff.mpr (.of_map back ?_)
  have hnames : (FileTree.folder entries).files.map
        (back ∘ fun f => Text.joined '/' (f.1.map FileName.shown)) =
      (FileTree.folder entries).files.map (·.1) :=
    List.map_congr_left fun f hf => ht.segments_of_mem_files hf (h.texts f hf)
  rw [List.map_map, hnames]
  exact ht.nodup_files

theorem entry?_eq (h : a.Packs (.folder entries)) (ht : (FileTree.folder entries).Sound)
    (path : String) :
    a.entry? path = ((FileTree.folder entries).content? path).map .ok := by
  ext content
  rw [Archive.entry?, lookup_eq_some_iff_mem (h.nodup_names ht), h.entries.mem_iff, List.mem_map,
    Option.map_eq_some_iff]
  constructor
  · rintro ⟨f, hf, heq⟩
    obtain ⟨rfl, rfl⟩ := Prod.mk.inj heq
    refine ⟨f.2, FileTree.content?_eq_some_iff.mpr ?_, rfl⟩
    rw [ht.segments_of_mem_files hf (h.texts f hf)]
    exact ht.mem_files_iff.mp hf
  · rintro ⟨bytes, hbytes, rfl⟩
    refine ⟨((Text.segments '/' path).map .ofText, bytes), ?_, ?_⟩
    · exact ht.mem_files_iff.mpr (FileTree.content?_eq_some_iff.mp hbytes)
    · simp [Function.comp_def, Text.joined_segments]

theorem entryBytes_eq (h : a.Packs (.folder entries)) (ht : (FileTree.folder entries).Sound)
    (j : Jar) (path : String) :
    j.entryBytes a path = .ok ((FileTree.folder entries).content? path) := by
  unfold Jar.entryBytes
  rw [h.entry?_eq ht]
  cases (FileTree.folder entries).content? path with
  | none => rfl
  | some bytes => rfl

theorem isRefused_eq {t : FileTree} (h : a.Packs t) : Jar.isRefused a = false := by
  unfold Jar.isRefused
  rw [h.entries.any_eq, List.any_map]
  exact List.any_eq_false.mpr fun f _ => by simp

theorem classEntries_perm (h : a.Packs (.folder entries)) (ht : (FileTree.folder entries).Sound)
    (hversions : ∀ f ∈ (FileTree.folder entries).files, ∀ names,
      f.1 = .ofText "META-INF" :: .ofText "versions" :: names → names = []) :
    (Jar.classEntries a).Perm
      ((FileTree.folder entries).classFiles.map fun f =>
        Text.joined '/' (f.1.map FileName.shown)) := by
  have hclasses : ((FileTree.folder entries).files.map fun f =>
        Text.joined '/' (f.1.map FileName.shown)).filter
          (fun entry => isClassEntry entry && !Jar.isVersioned entry) =
      (FileTree.folder entries).classFiles.map fun f =>
        Text.joined '/' (f.1.map FileName.shown) := by
    rw [List.filter_map]
    refine congrArg _ (List.filter_congr fun f hf => ?_)
    have hversioned : Jar.isVersioned (Text.joined '/' (f.1.map FileName.shown)) = false := by
      rw [Bool.eq_false_iff]
      intro hversioned
      obtain ⟨segments, hne, hsegments⟩ := Jar.segments_of_isVersioned hversioned
      have hnames := ht.segments_of_mem_files hf (h.texts f hf)
      rw [hsegments] at hnames
      exact hne (List.map_eq_nil_iff.mp (hversions f hf _ hnames.symm))
    simp [hversioned]
  rw [← hclasses]
  exact (List.mergeSort_perm _ _).trans (h.names_perm.filter _)

end Archive.Packs

theorem Jar.archive_eq_ok [Formats] {fs : FileSystem} {j : Jar} {a : Archive} {bytes : Bytes}
    (hfind : fs.find? j.path = some (.file bytes)) (hformat : Formats.archive bytes = some a) :
    j.archive fs = .ok a := by
  unfold Jar.archive
  rw [hfind]
  simp only [hformat]

-- ---------------------------------------------------------------------------
-- Agreement
-- ---------------------------------------------------------------------------

/-- A folder and an archive that hold the files of the same tree, none of them for one release of
the language only. -/
structure SameFiles (fs : FileSystem) (d : Directory) (j : Jar) (a : Archive)
    (entries : List (FileName × FileTree)) : Prop where
  sound : (FileTree.folder entries).Sound
  root : fs.find? d.root = some (.folder entries)
  packs : a.Packs (.folder entries)
  modules : d.modules = j.modules
  unversioned : ∀ f ∈ (FileTree.folder entries).files, ∀ names,
    f.1 = .ofText "META-INF" :: .ofText "versions" :: names → names = []

namespace SameFiles

variable {fs : FileSystem} {d : Directory} {j : Jar} {a : Archive}

theorem moduleSource_alike (h : SameFiles fs d j a entries)
    (hshort : Short d.root (.folder entries)) :
    Alike (fun x y => x.map Source.bare = y.map Source.bare) (d.moduleSource fs)
      (j.moduleSource a) := by
  have hread : fs.read? d.modulePath = (FileTree.folder entries).content? moduleFilePath.text :=
    hshort.read?_join h.sound h.root isPlain_of_mem_moduleFilePath
  unfold Directory.moduleSource Jar.moduleSource
  rw [hread, h.packs.entryBytes_eq h.sound, h.modules]
  split
  · cases (FileTree.folder entries).content? moduleFilePath.text with
    | none => exact .done rfl
    | some bytes =>
      exact (Source.ofModuleFile_alike _ _ _ _ bytes).bind fun s t hst =>
        .done (congrArg some hst)
  · exact .done rfl

variable [Formats]

theorem classSource_alike (h : SameFiles fs d j a entries) {entry : String} {bytes : Bytes}
    (hbytes : (FileTree.folder entries).content? entry = some bytes) (location : String)
    (path : Path) (options : LoadOptions) :
    Alike (fun s x => some s.bare = x.map Source.bare)
      (Source.ofClassFile location path options bytes) (j.classSource a options entry) := by
  unfold Jar.classSource
  rw [h.packs.entryBytes_eq h.sound, hbytes]
  exact (Source.ofClassFile_alike location j.name path (j.entryPath entry) options bytes).bind_right
    fun s t hst => .done (congrArg some hst)

theorem lookup_alike (h : SameFiles fs d j a entries) (hshort : Short d.root (.folder entries))
    {c : ClassName} (hc : ∀ s ∈ Text.segments '.' c.dotted, s ≠ "" ∧ '/' ∉ s.toList)
    (options : LoadOptions) :
    Alike (fun x y => x.map Source.bare = y.map Source.bare) (d.lookup fs c options)
      (j.lookupIn a c options) := by
  have hread : fs.read? (d.classPath c) = (FileTree.folder entries).content? c.file.text :=
    hshort.read?_join h.sound h.root (ClassName.isPlain_of_mem_file hc)
  unfold Directory.lookup Jar.lookupIn
  split
  · apply (h.moduleSource_alike hshort).bind
    intro x y hxy
    refine .done ?_
    rw [Source.map_bare_filter, hxy, Source.map_bare_filter]
  · rw [hread]
    cases hbytes : (FileTree.folder entries).content? c.file.text with
    | none =>
      unfold Jar.classSource
      rw [h.packs.entryBytes_eq h.sound, hbytes]
      exact .done rfl
    | some bytes =>
      apply (h.classSource_alike hbytes d.name (d.classPath c) options).bind
      intro s x hsx
      obtain ⟨t, rfl, hts⟩ := Option.map_eq_some_iff.mp hsx.symm
      apply (Source.expect_alike hts.symm c).bind
      intro s t hst
      exact .done (congrArg some hst)

theorem enumerate_alike (h : SameFiles fs d j a entries)
    (hshort : Short d.root (.folder entries)) (options : LoadOptions) :
    Alike (fun l m => (l.map Source.bare).Perm (m.map Source.bare)) (d.enumerate fs options)
      (j.enumerateIn a options) := by
  have hproper : isProper d.root.raw = true := (FileSystem.exists_of_find? h.root).1
  unfold Directory.enumerate Jar.enumerateIn
  rw [h.root, h.packs.isRefused_eq]
  apply (h.moduleSource_alike hshort).bind
  intro x y hxy
  have hclasses : Alike
      (fun l m => (l.map fun s => some s.bare).Perm (m.map (Option.map Source.bare)))
      ((Directory.classFiles d.root (.folder entries)).mapM fun p => d.classSource options p.1 p.2)
      ((Jar.classEntries a).mapM (j.classSource a options)) := by
    apply Alike.mapM_of_perm (Directory.classFiles_perm hshort h.sound hproper)
      (h.packs.classEntries_perm h.sound h.unversioned)
    intro f hf
    have hmem := List.mem_of_mem_filter hf
    refine h.classSource_alike ?_ d.name _ options
    rw [FileTree.content?_eq_some_iff, h.sound.segments_of_mem_files hmem (h.packs.texts f hmem)]
    exact h.sound.mem_files_iff.mp hmem
  apply hclasses.bind
  intro l m hlm
  refine .done ?_
  have hmodule : x.toList.map Source.bare = y.toList.map Source.bare := by
    rw [← Option.toList_map, hxy, Option.toList_map]
  rw [List.map_append, List.map_append, hmodule]
  refine List.Perm.append_left _ ?_
  have hfound := hlm.filterMap id
  simpa [List.filterMap_map, List.map_filterMap, Function.comp_def] using hfound

end SameFiles

/-- Out of a folder and out of an archive with the same files the same classes are loaded, or none
are. Only where they were found differs, and the order in which all of them are listed. -/
theorem folder_alike_archive [Formats] {fs fs' : FileSystem} {d : Directory} {j : Jar}
    {a : Archive} (hfiles : SameFiles fs d j a entries) (hopen : j.archive fs' = .ok a)
    (hshort : Short d.root (.folder entries)) (options : LoadOptions) :
    (∀ c : ClassName, (∀ s ∈ Text.segments '.' c.dotted, s ≠ "" ∧ '/' ∉ s.toList) →
      Alike (fun x y => x.map Source.bare = y.map Source.bare) (d.lookup fs c options)
        (j.lookup fs' c options)) ∧
    Alike (fun l m => (l.map Source.bare).Perm (m.map Source.bare)) (d.enumerate fs options)
      (j.enumerate fs' options) := by
  refine ⟨?_, ?_⟩
  · intro c hc
    rw [Jar.lookup, hopen]
    exact hfiles.lookup_alike hshort hc options
  · rw [Jar.enumerate, hopen]
    exact hfiles.enumerate_alike hshort options

end Folder

-- ---------------------------------------------------------------------------
-- Two classes
-- ---------------------------------------------------------------------------

namespace TwoClasses

/-- A number in `width` bytes, the least significant one first. -/
def storedLow (width n : Nat) : Bytes :=
  (stored width n).reverse

/-- What both headers of an entry say if it is not compressed. -/
def headerFields (path bytes : Bytes) : Bytes :=
  storedLow 2 20 ++ storedLow 8 0 ++ storedLow 4 (Crc32.checksum bytes).toNat ++
    storedLow 4 bytes.length ++ storedLow 4 bytes.length ++ storedLow 2 path.length ++
    storedLow 2 0

def archiveEntry (path bytes : Bytes) : Bytes :=
  Archive.localHeader.signature ++ headerFields path bytes ++ path ++ bytes

def directoryEntry (offset : Nat) (path bytes : Bytes) : Bytes :=
  Archive.centralHeader.signature ++ storedLow 2 20 ++ headerFields path bytes ++
    storedLow 10 0 ++ storedLow 4 offset ++ path

def directoryEntries (offset : Nat) : List (Bytes × Bytes) → Bytes
  | [] => []
  | (path, bytes) :: files =>
    directoryEntry offset path bytes ++
      directoryEntries (offset + (archiveEntry path bytes).length) files

/-- An archive of files that are not compressed. -/
def archive (files : List (Bytes × Bytes)) : Bytes :=
  let content := files.flatMap fun (path, bytes) => archiveEntry path bytes
  let directory := directoryEntries 0 files
  content ++ directory ++ Archive.endRecord.signature ++ storedLow 4 0 ++
    storedLow 2 files.length ++ storedLow 2 files.length ++ storedLow 4 directory.length ++
    storedLow 4 content.length ++ storedLow 2 0

/-- A file and another one in a folder. -/
def entries (x y : Bytes) : List (FileName × FileTree) :=
  [("A.class", .file x), ("p", .folder [("B.class", .file y)])]

/-- The same files, as an archive lists them. -/
def packed (x y : Bytes) : Archive :=
  ⟨[("p/B.class", .ok y), ("A.class", .ok x)]⟩

theorem sound_entries (x y : Bytes) : (FileTree.folder (entries x y)).Sound := by
  have hinner : (FileTree.folder [("B.class", .file y)]).Sound :=
    .cons (by decide +kernel) (by simp) (.file y) .empty
  refine .cons (by decide +kernel) ?_ (.file x) (.cons (by decide +kernel) (by simp) hinner .empty)
  simpa using FileName.ofText_injective.ne (by decide : "A.class" ≠ "p")

theorem files_entries (x y : Bytes) :
    (FileTree.folder (entries x y)).files =
      [([.ofText "A.class"], x), ([.ofText "p", .ofText "B.class"], y)] := by
  simp [entries, FileTree.files_folder]

theorem packs_entries (x y : Bytes) : (packed x y).Packs (.folder (entries x y)) where
  texts := by simp [files_entries, FileName.isText_ofText]
  entries := by
    have hA : Text.joined '/' ["A.class"] = "A.class" := by decide
    have hB : Text.joined '/' ["p", "B.class"] = "p/B.class" := by decide
    simp only [files_entries, List.map_cons, List.map_nil, FileName.shown_ofText, hA, hB]
    exact .swap _ _ _

theorem short_entries (x y : Bytes) : Short ⟨"d"⟩ (.folder (entries x y)) := by
  intro names found hne hat
  have hnames : names = ["A.class"] ∨ names = ["p"] ∨ names = ["p", "B.class"] := by
    have hdistinct : ((entries x y).map (·.1)).Nodup := by
      cases sound_entries x y with
      | folder distinct _ _ => exact distinct
    cases names with
    | nil => exact absurd rfl hne
    | cons first names =>
      obtain ⟨t, ht, hat⟩ := (FileTree.at?_cons_eq_some_iff hdistinct).mp hat
      rcases List.mem_pair.mp ht with heq | heq
      · cases heq
        simp [(FileTree.at?_file_eq_some_iff.mp hat).1]
      · cases heq
        cases names with
        | nil => simp
        | cons second names =>
          obtain ⟨t, ht, hat⟩ := (FileTree.at?_cons_eq_some_iff (by simp)).mp hat
          cases List.mem_singleton.mp ht
          simp [(FileTree.at?_file_eq_some_iff.mp hat).1]
  rcases hnames with rfl | rfl | rfl <;> decide +kernel

def outerFile : Bytes := (ClassOutline.plain .classA .object).bytes

def innerFile : Bytes := (ClassOutline.plain .classPB .object).bytes

def jarFile : Bytes :=
  archive [(Text.Utf8.encode "p/B.class", innerFile), (Text.Utf8.encode "A.class", outerFile)]

/-- The classes in a folder, and in an archive beside it. -/
def fs : FileSystem :=
  ⟨.folder [("d", .folder (entries outerFile innerFile)), ("t.jar", .file jarFile)], []⟩

def jar : Jar :=
  ⟨⟨"t.jar"⟩, false⟩

/-- The class in the package. -/
def innerName : ClassName :=
  ⟨"p", "B"⟩

theorem find?_folder : fs.find? ⟨"d"⟩ = some (.folder (entries outerFile innerFile)) := rfl

theorem archive_jar : jar.archive fs = .ok (packed outerFile innerFile) := by
  have hentries : (Archive.ofBytes? jarFile).map (·.entries) =
      some (packed outerFile innerFile).entries := by
    decide +kernel
  obtain ⟨⟨found⟩, hformat, rfl⟩ := Option.map_eq_some_iff.mp hentries
  have hfind : fs.find? jar.path = some (.file jarFile) := rfl
  exact Jar.archive_eq_ok hfind hformat

theorem sameFiles {root : Path}
    (h : fs.find? root = some (.folder (entries outerFile innerFile))) :
    SameFiles fs ⟨root, false⟩ jar (packed outerFile innerFile) (entries outerFile innerFile) where
  sound := sound_entries _ _
  root := h
  packs := packs_entries _ _
  modules := rfl
  unversioned := by
    have hne {text other : String} (h : text ≠ other) : FileName.ofText text ≠ .ofText other :=
      FileName.ofText_injective.ne h
    simp [files_entries, hne (by decide : "A.class" ≠ "META-INF"),
      hne (by decide : "p" ≠ "META-INF")]

theorem segments_innerName : ∀ s ∈ Text.segments '.' innerName.dotted, s ≠ "" ∧ '/' ∉ s.toList := by
  decide

theorem lookup_jar_innerName :
    (jar.lookup fs innerName .full).toOption.map (Option.map Source.name) =
      some (some innerName) := by
  rw [Jar.lookup, archive_jar]
  decide +kernel

theorem isEntryName_folder : IsEntryName (.ofText "d") := by
  decide +kernel

/-- At the end of enough dots the path of the file is too long. -/
theorem lookup_roundabout {n : Nat} (h : FileSystem.pathLimit ≤ 2 * n + 11) :
    Directory.lookup ⟨.roundabout "d" n, false⟩ fs innerName .full = .ok none := by
  have hfile : innerName.file = ⟨"p/B.class"⟩ := by decide
  have hsize : "d".utf8ByteSize = 1 ∧ (Path.mk "p/B.class").text.utf8ByteSize = 9 := ⟨rfl, rfl⟩
  have hread : fs.read? (Directory.classPath ⟨.roundabout "d" n, false⟩ innerName) = none := by
    apply FileSystem.read?_of_not_isProper
    rw [Directory.classPath, hfile]
    exact FileSystem.not_isProper_join_roundabout isEntryName_folder.isSegment (by decide)
      (by omega)
  have hmodule : innerName.isModuleInfo = false := by decide
  rw [Directory.lookup, hmodule, hread]
  rfl

end TwoClasses

section

open TwoClasses

theorem folder_alike_archive_twoClasses :
    SameFiles fs ⟨⟨"d"⟩, false⟩ jar (packed outerFile innerFile) (entries outerFile innerFile) ∧
    jar.archive fs = .ok (packed outerFile innerFile) ∧
    Short ⟨"d"⟩ (.folder (entries outerFile innerFile)) ∧
    (∀ s ∈ Text.segments '.' innerName.dotted, s ≠ "" ∧ '/' ∉ s.toList) ∧
    (jar.lookup fs innerName .full).toOption.map (Option.map Source.name) = some (some innerName) ∧
    Alike (fun x y => x.map Source.bare = y.map Source.bare)
      (Directory.lookup ⟨⟨"d"⟩, false⟩ fs innerName .full) (jar.lookup fs innerName .full) ∧
    Alike (fun l m => (l.map Source.bare).Perm (m.map Source.bare))
      (Directory.enumerate ⟨⟨"d"⟩, false⟩ fs .full) (jar.enumerate fs .full) := by
  have hfiles := sameFiles find?_folder
  have hshort := short_entries outerFile innerFile
  obtain ⟨hlookup, henumerate⟩ := folder_alike_archive hfiles archive_jar hshort .full
  exact ⟨hfiles, archive_jar, hshort, segments_innerName, lookup_jar_innerName,
    hlookup innerName segments_innerName, henumerate⟩

/-- Where paths are too long, the folder does not find a class that the archive finds. -/
theorem folder_unlike_archive_roundabout :
    SameFiles fs ⟨.roundabout "d" 2044, false⟩ jar (packed outerFile innerFile)
      (entries outerFile innerFile) ∧
    jar.archive fs = .ok (packed outerFile innerFile) ∧
    (∀ s ∈ Text.segments '.' innerName.dotted, s ≠ "" ∧ '/' ∉ s.toList) ∧
    ¬ Alike (fun x y => x.map Source.bare = y.map Source.bare)
      (Directory.lookup ⟨.roundabout "d" 2044, false⟩ fs innerName .full)
      (jar.lookup fs innerName .full) := by
  have hroot := FileSystem.find?_roundabout (n := 2044) isEntryName_folder find?_folder (by decide)
  refine ⟨sameFiles hroot, archive_jar, segments_innerName, ?_⟩
  intro halike
  have hfound := lookup_jar_innerName
  rw [lookup_roundabout (by decide)] at halike
  generalize jar.lookup fs innerName .full = found at halike hfound
  cases halike with
  | @done _ y h =>
    have hnone : y = none := Option.map_eq_none_iff.mp h.symm
    rw [hnone] at hfound
    cases hfound

end

end ClassAtlas
