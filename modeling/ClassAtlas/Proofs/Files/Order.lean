import ClassAtlas.Proofs.Files.Paths
import ClassAtlas.Proofs.Text.ByteOrder

/-!
# The order of a walk

A walk sorts the entries of one folder at a time, and yet all that it visits
comes in one order: chains of names are compared name by name, by how the names
are shown, and where two of them look the same, by which one is listed first.
If all names are texts, this is the order of their bytes, and how folders are
listed makes no difference.
-/

namespace ClassAtlas

/-! ## Order of names -/

/-- Names are compared by their bytes, and chains of names by the first names that differ. -/
def NamesBefore (names others : List FileName) : Prop :=
  names.map FileName.bytes < others.map FileName.bytes

theorem namesBefore_cons_of_lt {name other : FileName} (h : name.bytes < other.bytes)
    (names others : List FileName) : NamesBefore (name :: names) (other :: others) :=
  List.cons_lt_cons_iff.mpr (.inl h)

theorem namesBefore_cons_self {names others : List FileName} (h : NamesBefore names others)
    (name : FileName) : NamesBefore (name :: names) (name :: others) :=
  List.cons_lt_cons_iff.mpr (.inr ⟨rfl, h⟩)

/-- Texts are ordered as their bytes are. -/
theorem FileName.IsText.bytes_lt {name other : FileName} (hname : name.IsText)
    (hother : other.IsText) (h : name.shown < other.shown) : name.bytes < other.bytes := by
  rw [← hname, ← hother]
  exact Text.Utf8.encode_lt_encode h

theorem append_lt_append_iff {cs ds : List Char} (front : List Char) :
    front ++ cs < front ++ ds ↔ cs < ds := by
  induction front with
  | nil => rfl
  | cons c front ih => simp [ih]

/-- Paths of entries of one folder are compared by the names. -/
theorem RawPath.shown_enter_le_iff {p : RawPath} (hp : p.bytes ≠ []) {name other : FileName} :
    (p.enter name).shown.text ≤ (p.enter other).shown.text ↔ name.shown ≤ other.shown := by
  rw [← String.not_lt, ← String.not_lt, String.lt_iff, String.lt_iff,
    shown_enter hp, shown_enter hp, append_lt_append_iff, List.cons_lt_cons_iff]
  simp

section

variable {α : Type} {l : List α} {a b : α}

theorem pair_sublist_or (ha : a ∈ l) (hb : b ∈ l) (hne : a ≠ b) :
    [a, b].Sublist l ∨ [b, a].Sublist l := by
  obtain ⟨front, back, rfl⟩ := List.append_of_mem ha
  rcases List.mem_append.mp hb with hb | hb
  · right
    exact (List.singleton_sublist.mpr hb).append (List.singleton_sublist.mpr List.mem_cons_self)
  · left
    have hback : b ∈ back := (List.mem_cons.mp hb).resolve_left hne.symm
    exact ((List.singleton_sublist.mpr hback).cons_cons a).trans (List.sublist_append_right _ _)

theorem not_sublist_swap (h : l.Nodup) (hab : [a, b].Sublist l) : ¬ [b, a].Sublist l := by
  intro hba
  induction l with
  | nil => cases hab
  | cons c l ih =>
    obtain ⟨hc, hnodup⟩ := List.nodup_cons.mp h
    cases hab with
    | cons _ hab =>
      cases hba with
      | cons _ hba => exact ih hnodup hab hba
      | cons_cons _ _ => exact hc (hab.subset (by simp))
    | cons_cons _ hb =>
      cases hba with
      | cons _ hba => exact hc (hba.subset (by simp))
      | cons_cons _ _ => exact hc (List.singleton_sublist.mp hb)

end

namespace FileTree

/-- In the tree the first names are visited before the other ones. Where they part, the one that is
shown as the smaller text comes first, or of two that look the same the one that is listed first. -/
inductive Before : FileTree → List FileName → List FileName → Prop where
  | shown {entries : List (FileName × FileTree)} {name other : FileName}
      (h : name.shown < other.shown) (names others : List FileName) :
      Before (.folder entries) (name :: names) (other :: others)
  | listed {entries : List (FileName × FileTree)} {name other : FileName}
      (hsame : name.shown = other.shown) (h : [name, other].Sublist (entries.map (·.1)))
      (names others : List FileName) :
      Before (.folder entries) (name :: names) (other :: others)
  | inside {entries : List (FileName × FileTree)} {name : FileName} {t : FileTree}
      (hentry : (name, t) ∈ entries) {names others : List FileName} (h : Before t names others) :
      Before (.folder entries) (name :: names) (name :: others)

/-- Under one name there is one entry. -/
theorem eq_of_mem_of_mem {entries : List (FileName × FileTree)}
    (distinct : (entries.map (·.1)).Nodup) {name : FileName} {t u : FileTree}
    (ht : (name, t) ∈ entries) (hu : (name, u) ∈ entries) : t = u := by
  rw [← lookup_eq_some_iff_mem distinct] at ht hu
  exact Option.some.inj (ht.symm.trans hu)

theorem Before.asymm {t : FileTree} {names others : List FileName} (h : Before t names others)
    (ht : t.Sound) : ¬ Before t others names := by
  induction h with
  | shown h =>
    intro hback
    cases hback with
    | shown hback => exact absurd hback (String.lt_asymm h)
    | listed hsame =>
      rw [hsame] at h
      exact String.lt_irrefl _ h
    | inside => exact String.lt_irrefl _ h
  | listed hsame h =>
    cases ht with
    | folder distinct _ _ =>
      intro hback
      cases hback with
      | shown hback =>
        rw [hsame] at hback
        exact String.lt_irrefl _ hback
      | listed _ hback => exact not_sublist_swap distinct h hback
      | inside => exact not_sublist_swap distinct h h
  | @inside entries name t hentry names others h ih =>
    cases ht with
    | folder distinct _ trees =>
      intro hback
      cases hback with
      | shown hback => exact String.lt_irrefl _ hback
      | listed _ hback => exact not_sublist_swap distinct hback hback
      | @inside _ _ u hu _ _ hback =>
        obtain rfl := eq_of_mem_of_mem distinct hu hentry
        exact ih (trees _ hentry) hback

end FileTree

namespace FileSystem

/-! ## Visits -/

def entryLe (a b : FileName × FileTree) : Bool :=
  decide (a.1.shown ≤ b.1.shown)

theorem entryLe_trans (a b c : FileName × FileTree) (hab : entryLe a b = true)
    (hbc : entryLe b c = true) : entryLe a c = true :=
  decide_eq_true (String.le_trans (of_decide_eq_true hab) (of_decide_eq_true hbc))

theorem entryLe_total (a b : FileName × FileTree) : (entryLe a b || entryLe b a) = true := by
  rw [Bool.or_eq_true]
  exact (String.le_total a.1.shown b.1.shown).imp decide_eq_true decide_eq_true

/-- The entries as a walk takes them. -/
def inOrder (entries : List (FileName × FileTree)) : List (FileName × FileTree) :=
  entries.mergeSort entryLe

theorem mem_inOrder {entries : List (FileName × FileTree)} {e : FileName × FileTree} :
    e ∈ inOrder entries ↔ e ∈ entries :=
  List.mem_mergeSort

theorem walk_folder {path : RawPath} (hpath : isProper path = true)
    (entries : List (FileName × FileTree)) :
    walk path (.folder entries) =
      (inOrder entries).flatMap fun e => walk (path.enter e.1) e.2 := by
  have hbytes : path.bytes ≠ [] := (isProper_iff.mp hpath).1
  have hsorted :
      (inOrder entries).map (fun e => (path.enter e.1, walk (path.enter e.1) e.2)) =
        (entries.map fun e => (path.enter e.1, walk (path.enter e.1) e.2)).mergeSort pathLe :=
    List.map_mergeSort fun a _ b _ => decide_eq_decide.mpr (RawPath.shown_enter_le_iff hbytes).symm
  rw [walk, if_pos hpath, walkEntries_eq_map, ← hsorted, List.flatMap_map]

theorem pairwise_entryLe_inOrder (entries : List (FileName × FileTree)) :
    (inOrder entries).Pairwise fun a b => a.1.shown ≤ b.1.shown :=
  (List.pairwise_mergeSort entryLe_trans entryLe_total entries).imp of_decide_eq_true

/-- Sorting keeps the order of entries that look the same. -/
theorem pairwise_inOrder {entries : List (FileName × FileTree)}
    (distinct : (entries.map (·.1)).Nodup) :
    (inOrder entries).Pairwise fun a b => a.1.shown < b.1.shown ∨
      a.1.shown = b.1.shown ∧ [a.1, b.1].Sublist (entries.map (·.1)) := by
  have hnodup : (inOrder entries).Nodup :=
    (List.mergeSort_perm entries entryLe).nodup_iff.mpr (List.Nodup.of_map _ distinct)
  rw [List.pairwise_iff_forall_sublist]
  intro a b hab
  have hle : a.1.shown ≤ b.1.shown :=
    List.pairwise_iff_forall_sublist.mp (pairwise_entryLe_inOrder entries) hab
  have hne : a ≠ b := by
    rintro rfl
    exact not_sublist_swap hnodup hab hab
  by_cases hsame : a.1.shown = b.1.shown
  · refine .inr ⟨hsame, ?_⟩
    have ha := mem_inOrder.mp (hab.subset (by simp : a ∈ [a, b]))
    have hb := mem_inOrder.mp (hab.subset (by simp : b ∈ [a, b]))
    rcases pair_sublist_or ha hb hne with hlisted | hlisted
    · exact hlisted.map (·.1)
    · have hback : entryLe b a = true := decide_eq_true (hsame ▸ String.le_refl _)
      have hswap := List.pair_sublist_mergeSort entryLe_trans entryLe_total hback hlisted
      exact absurd hswap (not_sublist_swap hnodup hab)
  · refine .inl ?_
    by_contra hnot
    exact hsame (String.le_antisymm hle (String.not_lt.mp hnot))

/-- What is visited in the tree at `path`, each with the names that lead to it. A walk comes to
whatever stands below folders whose paths can be followed. There it takes the files, and whatever
it cannot follow further. -/
structure Visits (path : RawPath) (t : FileTree) (visits : List (List FileName × Option Bytes)) :
    Prop where
  walk : walk path t = visits.map fun v => (path.descend v.1, v.2)
  sorted : visits.Pairwise fun a b => t.Before a.1 b.1
  mem_iff : ∀ {names content}, (names, content) ∈ visits ↔ ∃ found, t.at? names = some found ∧
    (names ≠ [] → isProper (path.descend names.dropLast) = true) ∧
    (isProper (path.descend names) = true ∧ (∃ bytes, found = .file bytes ∧ content = some bytes) ∨
      isProper (path.descend names) = false ∧ content = none)

theorem visits_file (path : RawPath) (bytes : Bytes) :
    Visits path (.file bytes) [([], if isProper path then some bytes else none)] where
  walk := by rw [FileSystem.walk]; rfl
  sorted := List.pairwise_singleton _ _
  mem_iff := by
    intro names content
    simp only [List.mem_singleton, Prod.mk.injEq, FileTree.at?_file_eq_some_iff]
    constructor
    · rintro ⟨rfl, rfl⟩
      refine ⟨_, ⟨rfl, rfl⟩, by simp, ?_⟩
      cases h : isProper path <;> simp [h]
    · rintro ⟨_, ⟨rfl, rfl⟩, -, hend⟩
      refine ⟨rfl, ?_⟩
      rcases hend with ⟨hproper, _, hfile, rfl⟩ | ⟨hproper, rfl⟩
      · cases hfile
        exact (if_pos hproper).symm
      · exact (if_neg (by simpa using hproper)).symm

/-- A folder whose path cannot be followed is passed over. -/
theorem visits_unreached {path : RawPath} (hbytes : path.bytes ≠ []) (hpath : isProper path = false)
    (entries : List (FileName × FileTree)) : Visits path (.folder entries) [([], none)] where
  walk := by
    rw [FileSystem.walk, if_neg (by simp [hpath])]
    rfl
  sorted := List.pairwise_singleton _ _
  mem_iff := by
    intro names content
    rw [List.mem_singleton, Prod.mk.injEq]
    constructor
    · rintro ⟨rfl, rfl⟩
      exact ⟨_, rfl, by simp, .inr ⟨hpath, rfl⟩⟩
    · rintro ⟨found, hat, hway, hend⟩
      obtain rfl : names = [] := by
        by_contra hne
        have hproper := isProper_of_descend hbytes (hway hne)
        rw [hpath] at hproper
        cases hproper
      rcases hend with ⟨hproper, -⟩ | ⟨-, rfl⟩
      · rw [RawPath.descend_nil, hpath] at hproper
        cases hproper
      · exact ⟨rfl, rfl⟩

theorem visits_folder {path : RawPath} (hpath : isProper path = true)
    {entries : List (FileName × FileTree)} (distinct : (entries.map (·.1)).Nodup)
    {visits : FileName × FileTree → List (List FileName × Option Bytes)}
    (hvisits : ∀ e ∈ entries, Visits (path.enter e.1) e.2 (visits e)) :
    Visits path (.folder entries)
      ((inOrder entries).flatMap fun e => (visits e).map fun v => (e.1 :: v.1, v.2)) where
  walk := by
    rw [walk_folder hpath, List.map_flatMap]
    refine List.flatMap_congr fun e he => ?_
    rw [(hvisits e (mem_inOrder.mp he)).walk, List.map_map]
    rfl
  sorted := by
    rw [List.pairwise_flatMap]
    refine ⟨fun e he => ?_, ?_⟩
    · have hentry := mem_inOrder.mp he
      rw [List.pairwise_map]
      exact (hvisits e hentry).sorted.imp fun h => .inside hentry h
    · refine (pairwise_inOrder distinct).imp fun hfirst v hv w hw => ?_
      obtain ⟨v, -, rfl⟩ := List.mem_map.mp hv
      obtain ⟨w, -, rfl⟩ := List.mem_map.mp hw
      rcases hfirst with hshown | ⟨hsame, hlisted⟩
      · exact .shown hshown _ _
      · exact .listed hsame hlisted _ _
  mem_iff := by
    intro names content
    simp only [List.mem_flatMap, List.mem_map, mem_inOrder, Prod.mk.injEq]
    constructor
    · rintro ⟨e, he, ⟨names, _⟩, hmem, rfl, rfl⟩
      obtain ⟨found, hat, hway, hend⟩ := (hvisits e he).mem_iff.mp hmem
      refine ⟨found, (FileTree.at?_cons_eq_some_iff distinct).mpr ⟨e.2, he, hat⟩, fun _ => ?_, hend⟩
      cases names with
      | nil => exact hpath
      | cons second names => exact hway (by simp)
    · rintro ⟨found, hat, hway, hend⟩
      cases names with
      | nil =>
        cases hat
        rcases hend with ⟨-, _, hfile, -⟩ | ⟨hunreached, -⟩
        · cases hfile
        · rw [RawPath.descend_nil, hpath] at hunreached
          cases hunreached
      | cons name names =>
        obtain ⟨t, ht, hat⟩ := (FileTree.at?_cons_eq_some_iff distinct).mp hat
        refine ⟨(name, t), ht, (names, content), ?_, rfl, rfl⟩
        refine (hvisits _ ht).mem_iff.mpr ⟨found, hat, fun hne => ?_, hend⟩
        have hlast := hway (by simp)
        rwa [List.dropLast_cons_of_ne_nil hne] at hlast

/-- A walk visits in order. -/
theorem exists_visits {t : FileTree} (ht : t.Sound) {path : RawPath} (hbytes : path.bytes ≠ []) :
    ∃ visits, Visits path t visits := by
  induction ht generalizing path with
  | file bytes => exact ⟨_, visits_file path bytes⟩
  | @folder entries distinct _ _ ih =>
    by_cases hpath : isProper path = true
    · have hbelow (e : FileName × FileTree) (he : e ∈ entries) :
          ∃ visits, Visits (path.enter e.1) e.2 visits :=
        ih e he (RawPath.bytes_enter_ne_nil hbytes e.1)
      choose! visits hvisits using hbelow
      exact ⟨_, visits_folder hpath distinct hvisits⟩
    · exact ⟨_, visits_unreached hbytes (by simpa using hpath) entries⟩

end FileSystem

/-! ## Texts -/

namespace FileTree

/-- No two entries of a folder look the same. -/
inductive Discernible : FileTree → Prop where
  | file (bytes : Bytes) : Discernible (.file bytes)
  | folder {entries : List (FileName × FileTree)} (distinct : (entries.map (·.1.shown)).Nodup)
      (trees : ∀ e ∈ entries, Discernible e.2) : Discernible (.folder entries)

/-- All names are texts. -/
inductive Textual : FileTree → Prop where
  | file (bytes : Bytes) : Textual (.file bytes)
  | folder {entries : List (FileName × FileTree)} (names : ∀ e ∈ entries, e.1.IsText)
      (trees : ∀ e ∈ entries, Textual e.2) : Textual (.folder entries)

theorem Textual.discernible {t : FileTree} (h : t.Textual) (ht : t.Sound) : t.Discernible := by
  induction h with
  | file bytes => exact .file bytes
  | @folder entries names _ ih =>
    cases ht with
    | folder distinct _ trees =>
      refine .folder ?_ fun e he => ih e he (trees e he)
      rw [List.nodup_iff_pairwise_ne, List.pairwise_map] at distinct ⊢
      refine distinct.imp_of_mem fun {a b} ha hb hne hsame => hne ?_
      rw [← names a ha, ← names b hb, hsame]

/-- Among texts the order of a walk is that of their bytes. -/
theorem Before.namesBefore {t : FileTree} {names others : List FileName}
    (h : Before t names others) (ht : t.Sound) (htext : t.Textual) {found other : FileTree}
    (hfound : t.at? names = some found) (hother : t.at? others = some other) :
    NamesBefore names others := by
  induction h with
  | shown h =>
    cases ht with
    | folder distinct _ _ =>
      cases htext with
      | folder texts _ =>
        obtain ⟨_, hname, -⟩ := (at?_cons_eq_some_iff distinct).mp hfound
        obtain ⟨_, hother, -⟩ := (at?_cons_eq_some_iff distinct).mp hother
        have hbytes := (texts _ hname).bytes_lt (texts _ hother) h
        exact namesBefore_cons_of_lt hbytes _ _
  | listed hsame h =>
    cases ht with
    | folder distinct _ _ =>
      cases htext with
      | folder texts _ =>
        obtain ⟨_, hname, -⟩ := (at?_cons_eq_some_iff distinct).mp hfound
        obtain ⟨_, hother, -⟩ := (at?_cons_eq_some_iff distinct).mp hother
        have heq := texts _ hname
        rw [FileName.IsText, hsame, texts _ hother] at heq
        subst heq
        exact absurd h (not_sublist_swap distinct h)
  | inside hentry h ih =>
    cases ht with
    | folder distinct _ trees =>
      cases htext with
      | folder _ texts =>
        obtain ⟨t, ht, hfound⟩ := (at?_cons_eq_some_iff distinct).mp hfound
        obtain ⟨u, hu, hother⟩ := (at?_cons_eq_some_iff distinct).mp hother
        obtain rfl := eq_of_mem_of_mem distinct ht hentry
        obtain rfl := eq_of_mem_of_mem distinct hu hentry
        exact namesBefore_cons_self (ih (trees _ hentry) (texts _ hentry) hfound hother) _

/-! ## Listing in another order -/

/-- The same tree, with the entries of some folders in another order. -/
inductive Relisted : FileTree → FileTree → Prop where
  | refl (t : FileTree) : Relisted t t
  | trans {t u v : FileTree} (htu : Relisted t u) (huv : Relisted u v) : Relisted t v
  | order {entries others : List (FileName × FileTree)} (h : entries.Perm others) :
      Relisted (.folder entries) (.folder others)
  | inside {t u : FileTree} (h : Relisted t u) (name : FileName)
      (front back : List (FileName × FileTree)) :
      Relisted (.folder (front ++ (name, t) :: back)) (.folder (front ++ (name, u) :: back))

theorem Relisted.sound {t u : FileTree} (h : Relisted t u) (ht : t.Sound) : u.Sound := by
  induction h with
  | refl => exact ht
  | trans _ _ ihtu ihuv => exact ihuv (ihtu ht)
  | order h =>
    cases ht with
    | folder distinct names trees =>
      exact .folder ((h.map _).nodup_iff.mp distinct) (fun e he => names e (h.mem_iff.mpr he))
        fun e he => trees e (h.mem_iff.mpr he)
  | inside h name front back ih =>
    cases ht with
    | folder distinct names trees =>
      rw [List.forall_mem_append, List.forall_mem_cons] at names trees
      refine .folder (by simpa using distinct) ?_ ?_
      · rw [List.forall_mem_append, List.forall_mem_cons]
        exact names
      · rw [List.forall_mem_append, List.forall_mem_cons]
        exact ⟨trees.1, ih trees.2.1, trees.2.2⟩

theorem Relisted.discernible {t u : FileTree} (h : Relisted t u) (ht : t.Discernible) :
    u.Discernible := by
  induction h with
  | refl => exact ht
  | trans _ _ ihtu ihuv => exact ihuv (ihtu ht)
  | order h =>
    cases ht with
    | folder distinct trees =>
      exact .folder ((h.map _).nodup_iff.mp distinct) fun e he => trees e (h.mem_iff.mpr he)
  | inside h name front back ih =>
    cases ht with
    | folder distinct trees =>
      rw [List.forall_mem_append, List.forall_mem_cons] at trees
      refine .folder (by simpa using distinct) ?_
      rw [List.forall_mem_append, List.forall_mem_cons]
      exact ⟨trees.1, ih trees.2.1, trees.2.2⟩

theorem Relisted.files_perm {t u : FileTree} (h : Relisted t u) : t.files.Perm u.files := by
  induction h with
  | refl => exact .refl _
  | trans _ _ ihtu ihuv => exact ihtu.trans ihuv
  | order h =>
    rw [files_folder, files_folder]
    exact h.flatMap_right _
  | inside h name front back ih =>
    rw [files_folder, files_folder, List.flatMap_append, List.flatMap_append, List.flatMap_cons,
      List.flatMap_cons]
    exact ((ih.map _).append_right _).append_left _

theorem Relisted.content?_eq {t u : FileTree} (h : Relisted t u) (ht : t.Sound) (path : String) :
    t.content? path = u.content? path := by
  ext bytes
  rw [content?_eq_some_iff, content?_eq_some_iff, ← ht.mem_files_iff, ← (h.sound ht).mem_files_iff]
  exact h.files_perm.mem_iff

end FileTree

namespace FileSystem

theorem inOrder_eq_of_perm {entries others : List (FileName × FileTree)} (h : entries.Perm others)
    (distinct : (entries.map (·.1.shown)).Nodup) : inOrder entries = inOrder others := by
  have hperm : (inOrder entries).Perm (inOrder others) :=
    (List.mergeSort_perm _ _).trans (h.trans (List.mergeSort_perm _ _).symm)
  refine hperm.eq_of_pairwise ?_ (pairwise_entryLe_inOrder entries)
    (pairwise_entryLe_inOrder others)
  intro a b ha hb hab hba
  exact List.inj_on_of_nodup_map distinct (mem_inOrder.mp ha)
    (h.mem_iff.mpr (mem_inOrder.mp hb)) (String.le_antisymm hab hba)

theorem walk_eq_of_relisted {t u : FileTree} (h : t.Relisted u) (ht : t.Discernible)
    (path : RawPath) : walk path t = walk path u := by
  induction h generalizing path with
  | refl => rfl
  | trans htu _ ihtu ihuv => rw [ihtu ht, ihuv (htu.discernible ht)]
  | order h =>
    cases ht with
    | folder distinct _ =>
      by_cases hpath : isProper path = true
      · rw [walk_folder hpath, walk_folder hpath, inOrder_eq_of_perm h distinct]
      · rw [walk, walk, if_neg hpath, if_neg hpath]
  | @inside t u h name front back ih =>
    have hbelow : walk (path.enter name) t = walk (path.enter name) u := by
      cases ht with
      | folder _ trees => exact ih (trees (name, t) (by simp)) _
    rw [walk, walk, walkEntries_eq_map, walkEntries_eq_map, List.map_append, List.map_append,
      List.map_cons, List.map_cons, hbelow]

end FileSystem

end ClassAtlas
