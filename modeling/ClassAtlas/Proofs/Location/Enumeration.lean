import ClassAtlas.Proofs.ClassFile.Assembly
import ClassAtlas.Proofs.Files.Order
import ClassAtlas.Proofs.Location.ClassPaths

/-!
# The classes of a folder in order

All that a folder offers, one after the other: the descriptor of a module
first, then the class files in the order of a walk. If all names are texts, the
answer depends on the tree only, and not on how its folders are listed.
-/

namespace ClassAtlas

open FileSystem (isProper isProper_iff)

namespace Directory

variable {d : Directory} {fs : FileSystem} {entries : List (FileName × FileTree)}

/-! ## What is listed -/

/-- The module descriptor at the root of the tree, if it is offered and its path can be followed. -/
def moduleContent? (d : Directory) (t : FileTree) : Option Bytes :=
  if d.modules && isProper d.modulePath.raw then t.content? moduleFilePath.text else none

theorem moduleSource_eq (hroot : fs.find? d.root = some (.folder entries)) :
    d.moduleSource fs =
      (d.moduleContent? (.folder entries)).mapM (Source.ofModuleFile d.name d.modulePath) := by
  have hread : fs.read? d.modulePath =
      if isProper d.modulePath.raw then (FileTree.folder entries).content? moduleFilePath.text
      else none := by
    split
    · next hproper =>
      rw [FileSystem.read?, modulePath,
        FileSystem.find?_join hroot isPlain_of_mem_moduleFilePath hproper]
      rfl
    · next hproper => exact FileSystem.read?_of_not_isProper (by simpa using hproper)
  unfold moduleSource moduleContent?
  cases hmodules : d.modules with
  | false => rfl
  | true =>
    rw [hread, Bool.true_and, if_pos rfl]
    cases (if isProper d.modulePath.raw then (FileTree.folder entries).content? moduleFilePath.text
      else none) <;> rfl

/-- The names lead to a class file, whose path can be followed. -/
structure IsClassFile (d : Directory) (t : FileTree) (names : List FileName) (bytes : Bytes) :
    Prop where
  file : t.at? names = some (.file bytes)
  called : isClassEntry (d.root.raw.descend names).shown.text = true
  reached : isProper (d.root.raw.descend names) = true

/-- In a folder whose path can be followed, the names lead to something that is called like a class
and whose own path is too long. -/
structure IsOutOfReach (d : Directory) (t : FileTree) (names : List FileName) : Prop where
  entry : (t.at? names).isSome
  called : isClassEntry (d.root.raw.descend names).shown.text = true
  folder : isProper (d.root.raw.descend names.dropLast) = true
  unreached : isProper (d.root.raw.descend names) = false

theorem isProper_dropLast (hbytes : d.root.raw.bytes ≠ []) {names : List FileName}
    (h : isProper (d.root.raw.descend names) = true) :
    isProper (d.root.raw.descend names.dropLast) = true := by
  rcases List.eq_nil_or_concat' names with rfl | ⟨front, last, rfl⟩
  · exact h
  · rw [List.dropLast_concat]
    rw [RawPath.descend_concat] at h
    exact FileSystem.isProper_of_enter (RawPath.bytes_descend_ne_nil hbytes front) h

/-- The class files of the tree and whatever is out of reach, in the order of a walk. -/
structure Lists (d : Directory) (t : FileTree) (listed : List (List FileName × Option Bytes)) :
    Prop where
  sorted : listed.Pairwise fun a b => t.Before a.1 b.1
  classFiles : ∀ names bytes, (names, some bytes) ∈ listed ↔ d.IsClassFile t names bytes
  outOfReach : ∀ names, (names, none) ∈ listed ↔ d.IsOutOfReach t names

/-- The list is determined by the tree. -/
theorem Lists.unique {t : FileTree} (ht : t.Sound)
    {listed others : List (List FileName × Option Bytes)} (h : d.Lists t listed)
    (ho : d.Lists t others) : listed = others := by
  have hmem (v : List FileName × Option Bytes) : v ∈ listed ↔ v ∈ others := by
    obtain ⟨names, content⟩ := v
    cases content with
    | none => rw [h.outOfReach, ho.outOfReach]
    | some bytes => rw [h.classFiles, ho.classFiles]
  have hnodup {listed : List (List FileName × Option Bytes)} (h : d.Lists t listed) :
      listed.Nodup := by
    refine h.sorted.imp fun hbefore heq => ?_
    rw [heq] at hbefore
    exact hbefore.asymm ht hbefore
  refine List.Perm.eq_of_pairwise ?_ h.sorted ho.sorted
    ((List.perm_ext_iff_of_nodup (hnodup h) (hnodup ho)).mpr hmem)
  intro v w _ _ hvw hwv
  exact absurd hwv (hvw.asymm ht)

/-- All that is listed is in the tree. -/
theorem Lists.exists_at? {t : FileTree} {listed : List (List FileName × Option Bytes)}
    (h : d.Lists t listed) {v : List FileName × Option Bytes} (hv : v ∈ listed) :
    ∃ found, t.at? v.1 = some found := by
  obtain ⟨names, content⟩ := v
  cases content with
  | none => exact Option.isSome_iff_exists.mp ((h.outOfReach names).mp hv).entry
  | some bytes => exact ⟨_, ((h.classFiles names bytes).mp hv).file⟩

/-- Where all names are texts, the list is in the order of their bytes. -/
theorem Lists.pairwise_namesBefore {t : FileTree} (ht : t.Sound) (htext : t.Textual)
    {listed : List (List FileName × Option Bytes)} (h : d.Lists t listed) :
    listed.Pairwise fun a b => NamesBefore a.1 b.1 := by
  refine h.sorted.imp_of_mem fun {v w} hv hw hbefore => ?_
  obtain ⟨found, hfound⟩ := h.exists_at? hv
  obtain ⟨other, hother⟩ := h.exists_at? hw
  exact hbefore.namesBefore ht htext hfound hother

theorem exists_lists (hroot : isProper d.root.raw = true)
    (ht : (FileTree.folder entries).Sound) :
    ∃ listed, d.Lists (.folder entries) listed ∧
      classFiles d.root (.folder entries) =
        listed.map fun v => (d.root.raw.descend v.1, v.2) := by
  have hbytes : d.root.raw.bytes ≠ [] := (isProper_iff.mp hroot).1
  obtain ⟨visits, hvisits⟩ := FileSystem.exists_visits ht hbytes
  refine ⟨visits.filter fun v => isClassEntry (d.root.raw.descend v.1).shown.text, ⟨?_, ?_, ?_⟩, ?_⟩
  · exact hvisits.sorted.filter _
  · intro names bytes
    rw [List.mem_filter, hvisits.mem_iff]
    constructor
    · rintro ⟨⟨found, hat, -, ⟨hproper, _, rfl, hcontent⟩ | ⟨-, hnone⟩⟩, hclass⟩
      · cases hcontent
        exact ⟨hat, hclass, hproper⟩
      · cases hnone
    · intro h
      have hway := isProper_dropLast hbytes h.reached
      exact ⟨⟨_, h.file, fun _ => hway, .inl ⟨h.reached, bytes, rfl, rfl⟩⟩, h.called⟩
  · intro names
    rw [List.mem_filter, hvisits.mem_iff]
    constructor
    · rintro ⟨⟨found, hat, hway, ⟨-, _, -, hnone⟩ | ⟨hproper, -⟩⟩, hclass⟩
      · cases hnone
      · have hne : names ≠ [] := by
          rintro rfl
          exact Bool.false_ne_true (hproper.symm.trans hroot)
        exact ⟨by rw [hat]; rfl, hclass, hway hne, hproper⟩
    · intro h
      obtain ⟨found, hat⟩ := Option.isSome_iff_exists.mp h.entry
      exact ⟨⟨found, hat, fun _ => h.folder, .inr ⟨h.unreached, rfl⟩⟩, h.called⟩
  · rw [classFiles, hvisits.walk, List.filter_map]
    rfl

variable [Formats]

theorem enumerate_eq (hroot : fs.find? d.root = some (.folder entries)) (options : LoadOptions) :
    d.enumerate fs options = (do
      let module ← d.moduleSource fs
      let classes ← (classFiles d.root (.folder entries)).mapM fun f =>
        d.classSource options f.1 f.2
      return module.toList ++ classes) := by
  rw [enumerate, hroot]

/-- The descriptor of the module comes first, if there is one. Then the class files are decoded,
each once and in the order of a walk; something out of reach fails the attempt at its place. If all
names are texts, the order is that of their bytes. Other listings of the folders give the same
answer, unless two entries of a folder look the same, which texts never do. -/
theorem enumerates_in_order (hroot : fs.find? d.root = some (.folder entries))
    (ht : (FileTree.folder entries).Sound) (options : LoadOptions) :
    (∃ listed, d.Lists (.folder entries) listed ∧
      d.enumerate fs options = (do
        let module ← (d.moduleContent? (.folder entries)).mapM
          (Source.ofModuleFile d.name d.modulePath)
        let classes ← listed.mapM fun v => d.classSource options (d.root.raw.descend v.1) v.2
        return module.toList ++ classes)) ∧
    ((FileTree.folder entries).Textual → (FileTree.folder entries).Discernible ∧
      ∀ listed, d.Lists (.folder entries) listed →
        listed.Pairwise fun a b => NamesBefore a.1 b.1) ∧
    ((FileTree.folder entries).Discernible →
      ∀ (relisted : FileSystem) (others : List (FileName × FileTree)),
        (FileTree.folder entries).Relisted (.folder others) →
        relisted.find? d.root = some (.folder others) →
        d.enumerate relisted options = d.enumerate fs options) := by
  refine ⟨?_, ?_, ?_⟩
  · obtain ⟨listed, hlisted, hfiles⟩ := exists_lists (FileSystem.exists_of_find? hroot).1 ht
    refine ⟨listed, hlisted, ?_⟩
    rw [enumerate_eq hroot, moduleSource_eq hroot, hfiles, List.mapM_map]
    rfl
  · exact fun htext => ⟨htext.discernible ht, fun listed h => h.pairwise_namesBefore ht htext⟩
  · intro hdiscernible relisted others horder hothers
    have hmodule : d.moduleContent? (.folder others) = d.moduleContent? (.folder entries) := by
      rw [moduleContent?, moduleContent?, horder.content?_eq ht]
    have hfiles : classFiles d.root (.folder others) = classFiles d.root (.folder entries) := by
      rw [classFiles, classFiles, FileSystem.walk_eq_of_relisted horder hdiscernible]
    rw [enumerate_eq hroot, enumerate_eq hothers, moduleSource_eq hroot, moduleSource_eq hothers,
      hmodule, hfiles]

end Directory

/-! ## A class beside a package -/

namespace Siblings

def inner : Bytes := (ClassOutline.plain ⟨"a/x", by decide +kernel⟩ .object).bytes

def outer : Bytes := (ClassOutline.plain ⟨"a", by decide +kernel⟩ .object).bytes

def package : FileTree := .folder [("x.class", .file inner)]

/-- A folder and a class file beside it that differ by the ending only. -/
def entries : List (FileName × FileTree) :=
  [("a.class", .file outer), ("a", package)]

def fs : FileSystem := ⟨.folder [("d", .folder entries)], []⟩

/-- The same folder, listed the other way round. -/
def relisted : FileSystem := ⟨.folder [("d", .folder entries.reverse)], []⟩

def directory : Directory := ⟨⟨"d"⟩, false⟩

theorem sound : (FileTree.folder entries).Sound := by
  have hpackage : package.Sound :=
    .cons (by decide +kernel) (by decide +kernel) (.file inner) .empty
  exact .cons (by decide +kernel) (by decide +kernel) (.file outer)
    (.cons (by decide +kernel) (by decide +kernel) hpackage .empty)

theorem textual : (FileTree.folder entries).Textual := by
  have hpackage : package.Textual := by
    refine .folder ?_ ?_
    · simp [FileName.isText_ofText]
    · simpa using FileTree.Textual.file inner
  refine .folder ?_ ?_
  · simp [entries, FileName.isText_ofText]
  · simpa [entries] using ⟨FileTree.Textual.file outer, hpackage⟩

theorem cases_of_at? {names : List FileName} {found : FileTree}
    (h : (FileTree.folder entries).at? names = some found) :
    names = [] ∨ names = [.ofText "a.class"] ∧ found = .file outer ∨
      names = [.ofText "a"] ∧ found = package ∨
      names = [.ofText "a", .ofText "x.class"] ∧ found = .file inner := by
  cases names with
  | nil => exact .inl rfl
  | cons first names =>
    obtain ⟨t, ht, h⟩ := (FileTree.at?_cons_eq_some_iff (by decide +kernel)).mp h
    rcases List.mem_pair.mp ht with heq | heq
    · cases heq
      obtain ⟨rfl, rfl⟩ := FileTree.at?_file_eq_some_iff.mp h
      simp
    · cases heq
      cases names with
      | nil =>
        cases h
        simp
      | cons second names =>
        obtain ⟨t, ht, h⟩ := (FileTree.at?_cons_eq_some_iff (by simp)).mp h
        cases List.mem_singleton.mp ht
        obtain ⟨rfl, rfl⟩ := FileTree.at?_file_eq_some_iff.mp h
        simp

/-- The file in the package comes first, although the dot comes before the slash. -/
theorem lists : directory.Lists (.folder entries)
    [([.ofText "a", .ofText "x.class"], some inner), ([.ofText "a.class"], some outer)] where
  sorted := List.pairwise_pair.mpr (.shown (by decide +kernel) _ _)
  classFiles := by
    intro names bytes
    constructor
    · intro hmem
      rcases List.mem_pair.mp hmem with heq | heq
      · cases heq
        exact ⟨rfl, by decide +kernel, by decide +kernel⟩
      · cases heq
        exact ⟨rfl, by decide +kernel, by decide +kernel⟩
    · intro h
      rcases cases_of_at? h.file with rfl | ⟨rfl, hfound⟩ | ⟨-, hfound⟩ | ⟨rfl, hfound⟩
      · cases h.file
      · cases hfound
        simp
      · cases hfound
      · cases hfound
        simp
  outOfReach := by
    intro names
    refine iff_of_false (by simp) fun h => ?_
    obtain ⟨found, hfound⟩ := Option.isSome_iff_exists.mp h.entry
    have hreached : isProper (directory.root.raw.descend names) = true := by
      rcases cases_of_at? hfound with rfl | ⟨rfl, -⟩ | ⟨rfl, -⟩ | ⟨rfl, -⟩ <;> decide +kernel
    exact Bool.false_ne_true (h.unreached.symm.trans hreached)

end Siblings

/-- A listing that is known by the names of its classes. -/
theorem exists_of_map_names {x : Except Failure (List Source)} {names : List ClassName}
    (h : x.toOption.map (List.map Source.name) = some names) :
    ∃ sources, x = .ok sources ∧ sources.map Source.name = names := by
  cases x with
  | error e => cases h
  | ok sources => exact ⟨sources, rfl, Option.some.inj h⟩

open Siblings in
theorem Directory.enumerates_in_order_siblings :
    fs.find? directory.root = some (.folder entries) ∧ (FileTree.folder entries).Sound ∧
    (FileTree.folder entries).Textual ∧
    ∃ sources, directory.enumerate fs .full = .ok sources ∧
      directory.enumerate relisted .full = .ok sources ∧
      sources.map Source.name = [⟨"a", "x"⟩, ⟨"", "a"⟩] := by
  have hroot : fs.find? directory.root = some (.folder entries) := rfl
  obtain ⟨⟨listed, hlisted, henumerate⟩, htexts, hrelisted⟩ := enumerates_in_order hroot sound .full
  have hreverse := hrelisted (htexts textual).1 relisted entries.reverse
    (.order (List.reverse_perm _).symm) rfl
  obtain rfl := hlisted.unique sound lists
  have hread : (directory.enumerate fs .full).toOption.map (·.map Source.name) =
      some [⟨"a", "x"⟩, ⟨"", "a"⟩] := by
    rw [henumerate]
    decide +kernel
  obtain ⟨sources, hsources, hnames⟩ := exists_of_map_names hread
  exact ⟨hroot, sound, textual, sources, hsources, hreverse.trans hsources, hnames⟩

/-! ## Names that look the same -/

namespace Lookalikes

/-- A byte that is no text, and the ending of class files. -/
def fileName (byte : UInt8) : FileName :=
  ⟨byte :: Text.Utf8.encode classSuffix⟩

def first : Bytes := (ClassOutline.plain .classA .object).bytes

def second : Bytes := (ClassOutline.plain ⟨"B", by decide +kernel⟩ .object).bytes

def entries : List (FileName × FileTree) :=
  [(fileName 0xFF, .file first), (fileName 0xFE, .file second)]

/-- The folder, listed in any order. -/
def fs (entries : List (FileName × FileTree)) : FileSystem := ⟨.folder [("d", .folder entries)], []⟩

def directory : Directory := ⟨⟨"d"⟩, false⟩

theorem sound : (FileTree.folder entries).Sound :=
  .cons (by decide +kernel) (by decide +kernel) (.file first)
    (.cons (by decide +kernel) (by decide +kernel) (.file second) .empty)

/-- Entries that look the same stay as they are listed. -/
theorem enumerate_eq {entries : List (FileName × FileTree)}
    (h : entries.Pairwise fun a b => FileSystem.entryLe a b = true) :
    directory.enumerate (fs entries) .full = (do
      let module ← directory.moduleSource (fs entries)
      let classes ← ((entries.flatMap fun e =>
        FileSystem.walk (directory.root.raw.enter e.1) e.2).filter
          fun f => isClassEntry f.1.shown.text).mapM fun f => directory.classSource .full f.1 f.2
      return module.toList ++ classes) := by
  have hproper : isProper directory.root.raw = true := by decide +kernel
  have hroot : (fs entries).find? directory.root = some (.folder entries) := rfl
  rw [Directory.enumerate_eq hroot, Directory.classFiles, FileSystem.walk_folder hproper,
    FileSystem.inOrder, List.mergeSort_of_pairwise h]

end Lookalikes

/-! ## A package out of reach -/

namespace Remote

def inner : Bytes := (ClassOutline.plain .classPB .object).bytes

/-- A class in a package, and nothing else. -/
def entries : List (FileName × FileTree) :=
  [("p", .folder [("B.class", .file inner)])]

def fs : FileSystem := ⟨.folder [("d", .folder entries)], []⟩

theorem sound : (FileTree.folder entries).Sound := by
  have hpackage : (FileTree.folder [("B.class", .file inner)]).Sound :=
    .cons (by decide +kernel) (by decide) (.file inner) .empty
  exact .cons (by decide +kernel) (by decide) hpackage .empty

theorem isEntryName_folder : IsEntryName (.ofText "d") := by
  decide +kernel

/-- Where the path of the package is too long, the package is not told from a file. -/
theorem classFiles_eq_nil {n : Nat} (hroot : 2 * n + 1 < FileSystem.pathLimit)
    (hpackage : FileSystem.pathLimit ≤ 2 * n + 3) :
    Directory.classFiles (.roundabout "d" n) (.folder entries) = [] := by
  have hsize : "d".utf8ByteSize = 1 ∧ (Path.mk "p").text.utf8ByteSize = 1 := ⟨rfl, rfl⟩
  have hproper : isProper (Path.roundabout "d" n).raw = true :=
    FileSystem.isProper_roundabout isEntryName_folder (by omega)
  have hout : isProper ((Path.roundabout "d" n).raw.enter "p") = false := by
    rw [← Path.raw_join (show (Path.mk "p").isAbsolute = false by decide)]
    exact FileSystem.not_isProper_join_roundabout isEntryName_folder.isSegment (by decide)
      (by omega)
  have hwalk : FileSystem.walk (Path.roundabout "d" n).raw (.folder entries) =
      [((Path.roundabout "d" n).raw.enter "p", none)] := by
    rw [FileSystem.walk_folder hproper, entries, FileSystem.inOrder, List.mergeSort_singleton,
      List.flatMap_singleton, FileSystem.walk, if_neg (by simp [hout])]
  have hclass : isClassEntry ((Path.roundabout "d" n).raw.enter "p").shown.text = false := by
    have hentry := isClassEntry_descend (isProper_iff.mp hproper).1 [] "p"
    exact hentry.trans (by decide +kernel)
  rw [Directory.classFiles, hwalk, List.filter_cons_of_neg (by simp [hclass]), List.filter_nil]

theorem enumerate_roundabout {n : Nat} (hroot : 2 * n + 1 < FileSystem.pathLimit)
    (hpackage : FileSystem.pathLimit ≤ 2 * n + 3) :
    Directory.enumerate ⟨.roundabout "d" n, false⟩ fs .full = .ok [] := by
  have hsize : "d".utf8ByteSize = 1 := rfl
  have hfind : fs.find? (.roundabout "d" n) = some (.folder entries) :=
    FileSystem.find?_roundabout isEntryName_folder rfl (by omega)
  rw [Directory.enumerate_eq (d := ⟨.roundabout "d" n, false⟩) hfind .full,
    classFiles_eq_nil hroot hpackage]
  rfl

end Remote

/-- Two class files that look the same come as they are listed. A class file in a package is passed
over without a word, if the path of the package is too long. -/
theorem Directory.enumerates_out_of_order :
    (FileTree.folder Lookalikes.entries).Sound ∧
    (FileTree.folder Lookalikes.entries).Relisted (.folder Lookalikes.entries.reverse) ∧
    (∃ sources, Lookalikes.directory.enumerate (Lookalikes.fs Lookalikes.entries) .full =
        .ok sources ∧ sources.map Source.name = [⟨"", "A"⟩, ⟨"", "B"⟩]) ∧
    (∃ sources, Lookalikes.directory.enumerate (Lookalikes.fs Lookalikes.entries.reverse) .full =
        .ok sources ∧ sources.map Source.name = [⟨"", "B"⟩, ⟨"", "A"⟩]) ∧
    (FileTree.folder Remote.entries).Sound ∧
    Remote.fs.find? (.roundabout "d" 2047) = some (.folder Remote.entries) ∧
    (FileTree.folder Remote.entries).at? [.ofText "p", .ofText "B.class"] =
      some (.file Remote.inner) ∧
    Directory.enumerate ⟨.roundabout "d" 2047, false⟩ Remote.fs .full = .ok [] := by
  refine ⟨Lookalikes.sound, .order (List.reverse_perm _).symm, exists_of_map_names ?_,
    exists_of_map_names ?_, Remote.sound, ?_, rfl, ?_⟩
  · rw [Lookalikes.enumerate_eq (by decide +kernel)]
    decide +kernel
  · rw [Lookalikes.enumerate_eq (by decide +kernel)]
    decide +kernel
  · exact FileSystem.find?_roundabout Remote.isEntryName_folder rfl (by decide)
  · exact Remote.enumerate_roundabout (by decide) (by decide)

end ClassAtlas
