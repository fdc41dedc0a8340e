import ClassAtlas.FileTree
import ClassAtlas.Proofs.Text.Segments
import ClassAtlas.Proofs.Text.Utf8
import Mathlib.Data.List.Nodup

/-!
# The files of a tree

A tree as the list of its files, each with the names that lead to it. Where no
folder has a name twice, to follow names is to search that list.
-/

namespace ClassAtlas

/-- With every key once, what is looked up is what is listed. -/
theorem lookup_eq_some_iff_mem {κ α : Type} [DecidableEq κ] {l : List (κ × α)}
    (h : (l.map (·.1)).Nodup) {key : κ} {x : α} : l.lookup key = some x ↔ (key, x) ∈ l := by
  induction l with
  | nil => simp
  | cons entry l ih =>
    obtain ⟨k, y⟩ := entry
    rw [List.map_cons, List.nodup_cons] at h
    by_cases hk : key = k
    · subst hk
      have hnot : (key, x) ∉ l := fun hmem =>
        h.1 (List.mem_map.mpr ⟨(key, x), hmem, rfl⟩)
      simp [hnot, eq_comm]
    · have hne : (key == k) = false := by simpa using hk
      rw [List.lookup_cons, hne, ih h.2]
      simp [hk]

/-! ## Names -/

/-- A name that a folder can have an entry under. -/
structure IsEntryName (name : FileName) : Prop where
  ne_empty : name ≠ ""
  ne_here : name ≠ "."
  ne_up : name ≠ ".."
  no_slash : RawPath.slash ∉ name.bytes
  no_zero : 0 ∉ name.bytes

instance (name : FileName) : Decidable (IsEntryName name) :=
  decidable_of_iff
    (name ≠ "" ∧ name ≠ "." ∧ name ≠ ".." ∧ RawPath.slash ∉ name.bytes ∧ 0 ∉ name.bytes)
    ⟨fun h => ⟨h.1, h.2.1, h.2.2.1, h.2.2.2.1, h.2.2.2.2⟩,
      fun h => ⟨h.ne_empty, h.ne_here, h.ne_up, h.no_slash, h.no_zero⟩⟩

namespace FileName

/-- The name is a text. -/
def IsText (name : FileName) : Prop :=
  ofText name.shown = name

@[simp] theorem shown_ofText (text : String) : (ofText text).shown = text :=
  Text.Utf8.decodeLossy_encode text

theorem ofText_injective : Function.Injective ofText :=
  Function.LeftInverse.injective shown_ofText

theorem isText_ofText (text : String) : (ofText text).IsText :=
  congrArg ofText (shown_ofText text)

theorem no_slash_iff {text : String} :
    RawPath.slash ∉ (ofText text).bytes ↔ '/' ∉ text.toList :=
  not_congr (Text.Utf8.mem_encode_iff (c := '/') (by decide))

theorem no_zero_iff {text : String} : 0 ∉ (ofText text).bytes ↔ '\x00' ∉ text.toList :=
  not_congr (Text.Utf8.mem_encode_iff (c := '\x00') (by decide))

end FileName

/-! ## Trees -/

namespace FileTree

-- ---------------------------------------------------------------------------
-- Files
-- ---------------------------------------------------------------------------

mutual

/-- The files of the tree, each with the names that lead to it. -/
def files : FileTree → List (List FileName × Bytes)
  | .file bytes => [([], bytes)]
  | .folder entries => filesUnder entries

def filesUnder : List (FileName × FileTree) → List (List FileName × Bytes)
  | [] => []
  | (name, t) :: entries => (files t).map (fun f => (name :: f.1, f.2)) ++ filesUnder entries

end

@[simp] theorem files_file (bytes : Bytes) : (file bytes).files = [([], bytes)] := by
  rw [files]

theorem files_folder (entries : List (FileName × FileTree)) :
    (folder entries).files =
      entries.flatMap fun e => e.2.files.map fun f => (e.1 :: f.1, f.2) := by
  rw [files]
  induction entries with
  | nil => rfl
  | cons e entries ih => rw [filesUnder, ih, List.flatMap_cons]

/-- The content of the file at a path, all of whose segments are names. -/
def content? (t : FileTree) (path : String) : Option Bytes :=
  match t.at? ((Text.segments '/' path).map .ofText) with
  | some (.file bytes) => some bytes
  | _ => none

theorem content?_eq_some_iff {t : FileTree} {path : String} {bytes : Bytes} :
    t.content? path = some bytes ↔
      t.at? ((Text.segments '/' path).map .ofText) = some (.file bytes) := by
  unfold content?
  cases t.at? ((Text.segments '/' path).map .ofText) with
  | none => simp
  | some found => cases found <;> simp

/-- No names lead further from a file. -/
theorem at?_file_eq_some_iff {bytes : Bytes} {names : List FileName} {found : FileTree} :
    (file bytes).at? names = some found ↔ names = [] ∧ found = file bytes := by
  cases names with
  | nil => simp [at?, eq_comm]
  | cons name names => simp [at?, entry?]

/-- With every name once, the first step leads to the entry that is listed under the name. -/
theorem at?_cons_eq_some_iff {entries : List (FileName × FileTree)}
    (distinct : (entries.map (·.1)).Nodup) {name : FileName} {names : List FileName}
    {found : FileTree} :
    (folder entries).at? (name :: names) = some found ↔
      ∃ t, (name, t) ∈ entries ∧ t.at? names = some found := by
  rw [at?, entry?, Option.bind_eq_some_iff]
  simp only [lookup_eq_some_iff_mem distinct]

theorem at?_append (t : FileTree) (names more : List FileName) :
    t.at? (names ++ more) = (t.at? names).bind (·.at? more) := by
  induction names generalizing t with
  | nil => rfl
  | cons name names ih =>
    rw [List.cons_append, at?, at?, Option.bind_assoc]
    exact congrArg _ (funext ih)

-- ---------------------------------------------------------------------------
-- Sound trees
-- ---------------------------------------------------------------------------

/-- A tree that can be stored: every folder has each of its names once. -/
inductive Sound : FileTree → Prop where
  | file (bytes : Bytes) : Sound (.file bytes)
  | folder {entries : List (FileName × FileTree)} (distinct : (entries.map (·.1)).Nodup)
      (names : ∀ e ∈ entries, IsEntryName e.1) (trees : ∀ e ∈ entries, Sound e.2) :
      Sound (.folder entries)

theorem Sound.empty : (FileTree.folder []).Sound :=
  .folder List.nodup_nil (by simp) (by simp)

theorem Sound.cons {name : FileName} {t : FileTree} {entries : List (FileName × FileTree)}
    (hname : IsEntryName name) (hnew : name ∉ entries.map (·.1)) (ht : t.Sound)
    (hentries : (FileTree.folder entries).Sound) :
    (FileTree.folder ((name, t) :: entries)).Sound := by
  cases hentries with
  | folder distinct names trees =>
    exact .folder (List.nodup_cons.mpr ⟨hnew, distinct⟩)
      (List.forall_mem_cons.mpr ⟨hname, names⟩) (List.forall_mem_cons.mpr ⟨ht, trees⟩)

theorem Sound.mem_files_iff {t : FileTree} (ht : t.Sound) {names : List FileName} {bytes : Bytes} :
    (names, bytes) ∈ t.files ↔ t.at? names = some (.file bytes) := by
  induction ht generalizing names with
  | file content => simp [at?_file_eq_some_iff]
  | @folder entries distinct _ _ ih =>
    rw [files_folder]
    cases names with
    | nil => simp [at?]
    | cons name names =>
      simp only [List.mem_flatMap, List.mem_map, Prod.mk.injEq, List.cons.injEq,
        at?_cons_eq_some_iff distinct]
      constructor
      · rintro ⟨e, he, f, hf, ⟨rfl, rfl⟩, rfl⟩
        exact ⟨e.2, he, (ih e he).mp hf⟩
      · rintro ⟨t, ht, hat⟩
        exact ⟨(name, t), ht, (names, bytes), (ih _ ht).mpr hat, ⟨rfl, rfl⟩, rfl⟩

/-- What is reached is a file of the tree, whether or not it is sound. -/
theorem mem_files_of_at? {t : FileTree} {names : List FileName} {bytes : Bytes}
    (h : t.at? names = some (.file bytes)) : (names, bytes) ∈ t.files := by
  induction names generalizing t with
  | nil =>
    cases h
    simp
  | cons name names ih =>
    obtain ⟨found, hfound, hat⟩ := Option.bind_eq_some_iff.mp h
    cases t with
    | file content => cases hfound
    | folder entries =>
      obtain ⟨before, after, rfl, -⟩ := List.lookup_eq_some_iff.mp hfound
      rw [files_folder]
      exact List.mem_flatMap.mpr ⟨(name, found), by simp, List.mem_map_of_mem (ih hat)⟩

mutual

theorem length_files (t : FileTree) : t.files.length = t.fileCount := by
  cases t with
  | file bytes => rw [files, fileCount, List.length_singleton]
  | folder entries => rw [files, fileCount, length_filesUnder entries]

theorem length_filesUnder (entries : List (FileName × FileTree)) :
    (filesUnder entries).length = fileCountEntries entries := by
  cases entries with
  | nil => rw [filesUnder, fileCountEntries, List.length_nil]
  | cons entry entries =>
    rw [filesUnder, fileCountEntries, List.length_append, List.length_map, length_files entry.2,
      length_filesUnder entries]

end

/-- No two files are at the end of the same names. -/
theorem Sound.nodup_files {t : FileTree} (ht : t.Sound) : (t.files.map (·.1)).Nodup := by
  induction ht with
  | file bytes => simp
  | @folder entries distinct _ _ ih =>
    rw [files_folder, List.map_flatMap, List.nodup_flatMap]
    refine ⟨?_, ?_⟩
    · intro e he
      rw [List.map_map]
      have hcons := (ih e he).map (List.cons_injective (a := e.1))
      rwa [List.map_map] at hcons
    · refine (List.pairwise_map.mp distinct).imp ?_
      rintro ⟨name, t⟩ ⟨other, u⟩ hne names hnames hothers
      simp only [List.map_map, List.mem_map, Function.comp_apply] at hnames hothers
      obtain ⟨f, -, rfl⟩ := hnames
      obtain ⟨g, -, hg⟩ := hothers
      exact hne (List.cons.inj hg).1.symm

theorem Sound.isEntryName {t : FileTree} (ht : t.Sound) {names : List FileName} {found : FileTree}
    (h : t.at? names = some found) : ∀ name ∈ names, IsEntryName name := by
  induction ht generalizing names with
  | file bytes => simp [(at?_file_eq_some_iff.mp h).1]
  | @folder entries distinct hnames _ ih =>
    cases names with
    | nil => simp
    | cons name names =>
      obtain ⟨u, hu, hat⟩ := (at?_cons_eq_some_iff distinct).mp h
      intro other hother
      rcases List.mem_cons.mp hother with rfl | hother
      · exact hnames _ hu
      · exact ih _ hu hat other hother

/-- A file of a folder is at the end of at least one name. -/
theorem ne_nil_of_mem_files {entries : List (FileName × FileTree)} {f : List FileName × Bytes}
    (h : f ∈ (folder entries).files) : f.1 ≠ [] := by
  rw [files_folder] at h
  obtain ⟨e, -, hf⟩ := List.mem_flatMap.mp h
  obtain ⟨g, -, rfl⟩ := List.mem_map.mp hf
  simp

theorem Sound.segments_of_mem_files {entries : List (FileName × FileTree)}
    (ht : (FileTree.folder entries).Sound) {f : List FileName × Bytes}
    (hf : f ∈ (FileTree.folder entries).files) (htext : ∀ name ∈ f.1, name.IsText) :
    (Text.segments '/' (Text.joined '/' (f.1.map FileName.shown))).map FileName.ofText = f.1 := by
  have hnames := ht.isEntryName (ht.mem_files_iff.mp hf)
  rw [Text.segments_joined, List.map_map]
  · exact (List.map_congr_left htext).trans (List.map_id _)
  · intro text hmem
    obtain ⟨name, hname, rfl⟩ := List.mem_map.mp hmem
    rw [← FileName.no_slash_iff, htext name hname]
    exact (hnames name hname).no_slash
  · simpa using ne_nil_of_mem_files hf

end FileTree

end ClassAtlas
