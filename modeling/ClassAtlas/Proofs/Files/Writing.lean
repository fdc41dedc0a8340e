import ClassAtlas.Proofs.Files.Paths

/-!
# Writing files

A file that was written can be read at the same path. The path was followed to
the folder of the file, and every folder on the way is still one: only what
stands at the end of the path has changed, and that was no folder.
-/

namespace ClassAtlas

namespace FileTree

variable {t u : FileTree} {name other : FileName}

theorem entry?_setEntry_self (t : FileTree) (name : FileName) (u : FileTree) :
    entry? (t.setEntry name u) name = some u := by
  cases t <;> simp [setEntry, entry?]

theorem lookup_filter_of_ne (hne : other ≠ name) (entries : List (FileName × FileTree)) :
    (entries.filter (·.1 != name)).lookup other = entries.lookup other := by
  induction entries with
  | nil => rfl
  | cons entry entries ih =>
    by_cases hentry : entry.1 = name
    · have hother : (other == entry.1) = false := by simpa [hentry] using hne
      rw [List.filter_cons_of_neg (by simp [hentry]), ih, List.lookup_cons, hother]
    · rw [List.filter_cons_of_pos (by simp [hentry]), List.lookup_cons, List.lookup_cons, ih]

theorem entry?_setEntry_of_ne (hne : other ≠ name) (h : t.entry? other = some u)
    (entry : FileTree) : entry? (t.setEntry name entry) other = some u := by
  cases t with
  | file bytes => cases h
  | folder entries =>
    have hfirst : (other == name) = false := by simpa using hne
    rw [setEntry, entry?, List.lookup_cons, hfirst]
    exact (lookup_filter_of_ne hne entries).trans h

theorem exists_folder_setEntry (t : FileTree) (name : FileName) (entry : FileTree) :
    ∃ entries, t.setEntry name entry = .folder entries := by
  cases t <;> exact ⟨_, rfl⟩

theorem at?_update (bytes : Bytes) (names : List FileName) (t : Option FileTree) :
    (update (fun _ => .file bytes) names t).at? names = some (.file bytes) := by
  induction names generalizing t with
  | nil => rfl
  | cons name names ih =>
    rw [update, at?, entry?_setEntry_self]
    exact ih _

/-- A folder is one still after a file was written elsewhere. -/
theorem isFolder_at?_update {names path : List FileName}
    (h : (t.at? path).any isFolder = true) (htarget : (t.at? names).any isFolder = false)
    (bytes : Bytes) :
    ((update (fun _ => .file bytes) names (some t)).at? path).any isFolder = true := by
  induction path generalizing t names with
  | nil =>
    cases names with
    | nil =>
      rw [h] at htarget
      cases htarget
    | cons name names =>
      obtain ⟨entries, hentries⟩ := exists_folder_setEntry t name
        (update (fun _ => .file bytes) names (t.entry? name))
      rw [update, Option.getD_some, hentries]
      rfl
  | cons first path ih =>
    cases hentry : t.entry? first with
    | none => simp [at?, hentry] at h
    | some u =>
      have hu : (u.at? path).any isFolder = true := by simpa [at?, hentry] using h
      cases names with
      | nil =>
        cases t with
        | file content => cases hentry
        | folder entries => cases htarget
      | cons name names =>
        rw [update, Option.getD_some, at?]
        by_cases hname : first = name
        · subst hname
          rw [entry?_setEntry_self, hentry]
          rw [at?, hentry] at htarget
          exact ih hu htarget
        · rw [entry?_setEntry_of_ne hname hentry]
          exact hu

theorem any_isFolder_iff {found : Option FileTree} :
    found.any isFolder = true ↔ ∃ entries, found = some (.folder entries) := by
  rcases found with - | ⟨_ | _⟩ <;> simp [isFolder]

end FileTree

namespace FileSystem

variable {fs : FileSystem}

theorem isFolder_of_stepTo {names next : List FileName} {segment : String}
    (h : fs.stepTo names segment = some next) :
    (fs.root.at? names).any FileTree.isFolder = true := by
  unfold stepTo at h
  split at h
  · next hat => rw [hat]; rfl
  · cases h

/-- A folder is reached by folders only. -/
theorem isFolder_of_foldlM {segments : List String} {names last : List FileName}
    (h : segments.foldlM fs.stepTo names = some last)
    (hlast : (fs.root.at? last).any FileTree.isFolder = true) :
    (fs.root.at? names).any FileTree.isFolder = true := by
  cases segments with
  | nil =>
    cases h
    exact hlast
  | cons segment segments =>
    rw [List.foldlM_cons] at h
    obtain ⟨next, hstep, -⟩ := Option.bind_eq_some_iff.mp h
    exact isFolder_of_stepTo hstep

section Put

-- Nothing is put in the place of a folder.
variable {names : List FileName} (htarget : (fs.root.at? names).any FileTree.isFolder = false)
  (bytes : Bytes)

include htarget

theorem stepTo_put {front next : List FileName} {segment : String}
    (h : fs.stepTo front segment = some next)
    (hnext : (fs.root.at? next).any FileTree.isFolder = true) :
    (fs.put names bytes).stepTo front segment = some next := by
  obtain ⟨_, hfront⟩ := FileTree.any_isFolder_iff.mp (isFolder_of_stepTo h)
  obtain ⟨_, hfront'⟩ := FileTree.any_isFolder_iff.mp
    (FileTree.isFolder_at?_update (isFolder_of_stepTo h) htarget bytes)
  obtain ⟨_, hnext'⟩ := FileTree.any_isFolder_iff.mp
    (FileTree.isFolder_at?_update hnext htarget bytes)
  by_cases hplain : IsPlain segment
  · rw [stepTo_of_isPlain fs front hplain] at h
    split at h
    · cases h
      rw [stepTo_of_isPlain _ front hplain, put, hnext']
      rfl
    · cases h
  · have hspecial : segment = "" ∨ segment = "." ∨ segment = ".." := by
      by_contra hnone
      simp only [not_or] at hnone
      exact hplain ⟨hnone.1, hnone.2.1, hnone.2.2⟩
    unfold stepTo at h ⊢
    rw [hfront] at h
    rw [put, hfront']
    rcases hspecial with rfl | rfl | rfl <;> exact h

/-- The way to a folder is as it was. -/
theorem foldlM_stepTo_put {segments : List String} {front last : List FileName}
    (h : segments.foldlM fs.stepTo front = some last)
    (hlast : (fs.root.at? last).any FileTree.isFolder = true) :
    segments.foldlM (fs.put names bytes).stepTo front = some last := by
  induction segments generalizing front with
  | nil => exact h
  | cons segment segments ih =>
    rw [List.foldlM_cons] at h ⊢
    obtain ⟨next, hstep, hrest⟩ := Option.bind_eq_some_iff.mp h
    rw [stepTo_put htarget bytes hstep (isFolder_of_foldlM hrest hlast)]
    exact ih hrest

end Put

/-- A file is written into a folder that is there. -/
theorem exists_of_target? {p : Path} {names : List FileName} (h : fs.target? p = some names) :
    isProper p.raw = true ∧ ∃ segments name folder,
      Text.segments '/' p.text = segments ++ [name] ∧ IsPlain name ∧
      segments.foldlM fs.stepTo (fs.start p) = some folder ∧
      (fs.root.at? folder).any FileTree.isFolder = true ∧ names = folder ++ [.ofText name] := by
  unfold target? at h
  dsimp only at h
  split at h
  case h_5 name hempty hhere hup hlast =>
    have hsegments : Text.segments '/' p.text =
        (Text.segments '/' p.text).dropLast ++ [name] :=
      (List.dropLast_append_getLast? name hlast).symm
    split at h
    · next hproper =>
      obtain ⟨folder, hfolder, hnames⟩ := Option.bind_eq_some_iff.mp h
      refine ⟨(Bool.and_eq_true_iff.mp hproper).1, _, name, folder, hsegments,
        ⟨hempty, hhere, hup⟩, hfolder, ?_⟩
      split at hnames
      · next hat => exact ⟨by rw [hat]; rfl, (Option.some.inj hnames).symm⟩
      · cases hnames
    · cases h
  all_goals cases h

theorem read?_of_write? {p : Path} {bytes : Bytes} {fs' : FileSystem}
    (h : fs.write? p bytes = some fs') : fs'.read? p = some bytes := by
  unfold write? at h
  split at h
  · cases h
  · next names hresolved =>
    split at h
    · cases h
    · next hfile =>
      cases h
      have htarget : (fs.root.at? names).any FileTree.isFolder = false := by
        rw [Bool.eq_false_iff, ne_eq, FileTree.any_isFolder_iff]
        rintro ⟨entries, hat⟩
        exact hfile entries hat
      obtain ⟨hproper, segments, name, folder, hsegments, hname, hfolder, hisFolder, rfl⟩ :=
        exists_of_target? hresolved
      have hway := foldlM_stepTo_put htarget bytes hfolder hisFolder
      have hat : (fs.put (folder ++ [.ofText name]) bytes).root.at? (folder ++ [.ofText name]) =
          some (.file bytes) :=
        FileTree.at?_update bytes _ _
      have hresolve : (fs.put (folder ++ [.ofText name]) bytes).resolve? p =
          some (folder ++ [.ofText name]) := by
        have hstart : (fs.put (folder ++ [.ofText name]) bytes).start p = fs.start p := rfl
        rw [resolve?, if_pos hproper, hsegments, List.foldlM_append, hstart, hway]
        simp [stepTo_of_isPlain _ folder hname, hat]
      exact read?_eq_some_iff.mpr (Option.bind_eq_some_iff.mpr ⟨_, hresolve, hat⟩)

end FileSystem

end ClassAtlas
