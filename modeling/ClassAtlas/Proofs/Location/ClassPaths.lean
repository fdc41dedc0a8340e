import ClassAtlas.Location.Directory
import ClassAtlas.Proofs.Files.Paths

/-!
# Paths of classes

Where a folder looks for a class, and which of its files it takes for classes.
Both are questions about the path below the folder, wherever the folder is.
-/

namespace ClassAtlas

open FileSystem (Short isProper isProper_iff)

-- ---------------------------------------------------------------------------
-- Where a class is looked for
-- ---------------------------------------------------------------------------

/-- With the ending a name is longer than two dots. -/
theorem isPlain_append_classSuffix (stem : String) : IsPlain (stem ++ classSuffix) := by
  have hlength : classSuffix.length ≤ (stem ++ classSuffix).length := by simp
  refine ⟨?_, ?_, ?_⟩ <;> intro h <;> rw [h] at hlength <;> exact absurd hlength (by decide)

namespace ClassName

variable {c : ClassName}

/-- The segments of the path are those of the name, the last one with its ending. -/
theorem split_file {front : List (List Char)} {last : List Char} (hslash : '/' ∉ c.dotted.toList)
    (hsplit : Text.split '.' c.dotted.toList = front ++ [last]) :
    Text.split '/' c.file.text.toList = front ++ [last ++ classSuffix.toList] := by
  have hinternal : Text.split '/' c.internal.toList = front ++ [last] := by
    rw [internal, Text.exchange, String.toList_ofList, Text.split_exchanged hslash, hsplit]
  rw [file, String.toList_append]
  exact Text.split_append_of_not_mem (by decide) hinternal

theorem length_file (c : ClassName) :
    c.file.text.length = c.dotted.length + classSuffix.length := by
  simp [file, internal, Text.exchange, String.length_toList]

/-- The folders on the way to the file of a class. -/
def folders (c : ClassName) : List String :=
  if c.package = "" then [] else Text.segments '.' c.package

theorem no_dot_of_mem_folders {name : String} (h : name ∈ c.folders) : '.' ∉ name.toList := by
  unfold folders at h
  split at h
  · cases h
  · obtain ⟨cs, hcs, rfl⟩ := List.mem_map.mp h
    rw [String.toList_ofList]
    exact Text.not_mem_of_mem_split hcs

theorem segments_dotted (hdot : '.' ∉ c.simple.toList) :
    Text.segments '.' c.dotted = c.folders ++ [c.simple] := by
  unfold dotted folders
  split
  · simp [Text.segments, Text.split_of_not_mem hdot]
  · have htext : (c.package ++ "." ++ c.simple).toList =
        c.package.toList ++ '.' :: c.simple.toList := by simp
    rw [Text.segments, htext, Text.split_append_cons, Text.split_of_not_mem hdot]
    simp [Text.segments]

theorem segments_file (hslash : '/' ∉ c.dotted.toList) (hdot : '.' ∉ c.simple.toList) :
    Text.segments '/' c.file.text = c.folders ++ [c.simple ++ classSuffix] := by
  have hsplit : Text.split '.' c.dotted.toList =
      c.folders.map String.toList ++ [c.simple.toList] := by
    simpa [Text.segments, Function.comp_def] using
      congrArg (List.map String.toList) (segments_dotted hdot)
  rw [Text.segments, split_file hslash hsplit]
  simp [Function.comp_def]

/-- The path of a class leads down, if the segments of its name are segments of a path. -/
theorem isPlain_of_mem_file (hc : ∀ s ∈ Text.segments '.' c.dotted, s ≠ "" ∧ '/' ∉ s.toList) :
    ∀ segment ∈ Text.segments '/' c.file.text, IsPlain segment := by
  have hchars : ∀ cs ∈ Text.split '.' c.dotted.toList, String.ofList cs ≠ "" ∧ '/' ∉ cs := by
    intro cs hcs
    simpa using hc (String.ofList cs) (List.mem_map_of_mem hcs)
  have hslash : '/' ∉ c.dotted.toList :=
    Text.not_mem_of_forall_split (by decide) fun cs hcs => (hchars cs hcs).2
  obtain ⟨front, last, hsplit⟩ :=
    (List.eq_nil_or_concat' _).resolve_left (Text.split_ne_nil '.' c.dotted.toList)
  intro segment hsegment
  rw [Text.segments, split_file hslash hsplit, List.map_append, List.mem_append] at hsegment
  rcases hsegment with hfront | hlast
  · obtain ⟨cs, hcs, rfl⟩ := List.mem_map.mp hfront
    have hmem : cs ∈ Text.split '.' c.dotted.toList := hsplit ▸ List.mem_append_left _ hcs
    apply isPlain_of_no_dot (hchars cs hmem).1
    rw [String.toList_ofList]
    exact Text.not_mem_of_mem_split hmem
  · have heq : segment = String.ofList last ++ classSuffix := by simpa using hlast
    exact heq ▸ isPlain_append_classSuffix _

end ClassName

theorem isPlain_of_mem_moduleFilePath :
    ∀ segment ∈ Text.segments '/' moduleFilePath.text, IsPlain segment := by
  have hsegments : Text.segments '/' moduleFilePath.text = [moduleFilePath.text] := by decide
  intro segment hsegment
  rw [hsegments, List.mem_singleton] at hsegment
  subst hsegment
  exact ⟨by decide, by decide, by decide⟩

-- ---------------------------------------------------------------------------
-- Names of class files
-- ---------------------------------------------------------------------------

theorem suffix_append_cons_iff {α : Type} {c : α} {ending : List α} (h : c ∉ ending)
    (front rest : List α) : ending <:+ front ++ c :: rest ↔ ending <:+ rest := by
  have hrest : c :: rest <:+ front ++ c :: rest := List.suffix_append _ _
  constructor
  · intro hending
    rcases List.suffix_or_suffix_of_suffix hending hrest with hshort | hlong
    · rcases List.suffix_cons_iff.mp hshort with heq | hshort
      · exact absurd (heq ▸ List.mem_cons_self) h
      · exact hshort
    · exact absurd (hlong.subset List.mem_cons_self) h
  · intro hending
    exact hending.trans ((List.suffix_cons c rest).trans hrest)

/-- Whether a path is that of a class is seen from its last segment. -/
theorem isClassEntry_append_cons {text last : String} {front : List Char}
    (h : text.toList = front ++ '/' :: last.toList) : isClassEntry text = isClassEntry last := by
  have hending {ending : String} (hslash : '/' ∉ ending.toList) :
      ending.toList.isSuffixOf text.toList = ending.toList.isSuffixOf last.toList := by
    rw [Bool.eq_iff_iff, List.isSuffixOf_iff_suffix, List.isSuffixOf_iff_suffix, h]
    exact suffix_append_cons_iff hslash _ _
  unfold isClassEntry
  rw [hending (by decide), hending (by decide)]

/-- Whether a file is taken for a class is seen from its name. -/
theorem isClassEntry_descend {p : RawPath} (hp : p.bytes ≠ []) (front : List FileName)
    (last : FileName) :
    isClassEntry (p.descend (front ++ [last])).shown.text = isClassEntry last.shown := by
  rw [RawPath.descend_concat]
  exact isClassEntry_append_cons
    (RawPath.shown_enter (RawPath.bytes_descend_ne_nil hp front) last)

theorem isClassEntry_joined (front : List String) (last : String) :
    isClassEntry (Text.joined '/' (front ++ [last])) = isClassEntry last := by
  by_cases hfront : front = []
  · subst hfront
    simp [Text.joined, Text.join]
  · have htext : (Text.joined '/' (front ++ [last])).toList =
        Text.join '/' (front.map String.toList) ++ '/' :: last.toList := by
      rw [Text.joined, String.toList_ofList, List.map_append]
      exact Text.join_concat (by simpa using hfront) _
    exact isClassEntry_append_cons htext

/-- A class file is called after a class, and no class is taken whose name ends like that of a
module descriptor. -/
theorem isClassEntry_iff {name : String} :
    isClassEntry name = true ↔
      ∃ stem, name = stem ++ classSuffix ∧
        ¬ ClassName.moduleInfoName.toList <:+ stem.toList := by
  have hmodule : moduleFilePath.text.toList =
      ClassName.moduleInfoName.toList ++ classSuffix.toList := by decide
  have hends (stem : List Char) :
      ClassName.moduleInfoName.toList ++ classSuffix.toList <:+ stem ++ classSuffix.toList ↔
        ClassName.moduleInfoName.toList <:+ stem := by
    constructor
    · rintro ⟨front, hfront⟩
      exact ⟨front, List.append_cancel_right (by rwa [List.append_assoc])⟩
    · rintro ⟨front, rfl⟩
      exact ⟨front, by rw [List.append_assoc]⟩
  simp only [isClassEntry, hmodule, Bool.and_eq_true, Bool.not_eq_true', Bool.eq_false_iff,
    ne_eq, List.isSuffixOf_iff_suffix]
  constructor
  · rintro ⟨⟨stem, hstem⟩, hnot⟩
    rw [← hstem, hends] at hnot
    refine ⟨String.ofList stem, String.toList_inj.mp ?_, by simpa using hnot⟩
    simp [hstem]
  · rintro ⟨stem, rfl, hnot⟩
    rw [String.toList_append, hends]
    exact ⟨List.suffix_append _ _, hnot⟩

-- ---------------------------------------------------------------------------
-- The files of a folder
-- ---------------------------------------------------------------------------

/-- The files with the names of classes. -/
def FileTree.classFiles (t : FileTree) : List (List FileName × Bytes) :=
  t.files.filter fun f => isClassEntry (Text.joined '/' (f.1.map FileName.shown))

theorem Directory.classFiles_perm {root : Path} {entries : List (FileName × FileTree)}
    (hshort : Short root (.folder entries)) (ht : (FileTree.folder entries).Sound)
    (hroot : isProper root.raw = true) :
    (classFiles root (.folder entries)).Perm
      ((FileTree.folder entries).classFiles.map fun f => (root.raw.descend f.1, some f.2)) := by
  have hbytes : root.raw.bytes ≠ [] := (isProper_iff.mp hroot).1
  have hwalk := (FileSystem.walk_perm ht root.raw fun _ _ hat =>
    hshort.isProper_descend ht hroot hat).filter fun p => isClassEntry p.1.shown.text
  rw [List.filter_map] at hwalk
  refine hwalk.trans (.of_eq (congrArg _ (List.filter_congr fun f hf => ?_)))
  obtain ⟨front, last, hnames⟩ :=
    (List.eq_nil_or_concat' f.1).resolve_left (FileTree.ne_nil_of_mem_files hf)
  rw [Function.comp_apply, hnames, isClassEntry_descend hbytes, List.map_append,
    List.map_singleton, isClassEntry_joined]

end ClassAtlas
