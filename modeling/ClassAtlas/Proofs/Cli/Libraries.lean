import ClassAtlas.Proofs.Cli.Classpath
import Mathlib.Data.List.Chain

/-!
# The libraries of a classpath

Of the sorted entries, one stays of each run of texts for the same path. All
texts of a path make one run unless the text of another path sorts between
them. Then the path stays more than once, and the folder or file that it leads
to is registered under each of the texts that stay.
-/

namespace ClassAtlas

theorem Path.same_iff {p q : Path} : p.same q = true ↔ p.components = q.components :=
  beq_iff_eq

theorem Place.name_of_detect? {fs : FileSystem} {language : Language} {path : Path} {place : Place}
    (h : detect? fs language path = some place) : place.name = path.text := by
  unfold detect? at h
  split at h
  · cases h
  · cases h
    rfl
  · split at h
    · cases h
      rfl
    · cases h
      rfl
    · cases h

theorem Place.name_location [Formats] (fs : FileSystem) (place : Place) :
    (place.location fs).name = place.name := by
  cases place <;> rfl

namespace Cli

section

variable {paths classpath : List Path} {p q r : Path}

/-! ## What stays of a sorted list -/

theorem pathLe_refl (p : Path) : pathLe p p = true := by
  simpa using pathLe_total p p

theorem pathLe_iff : pathLe p q = true ↔ p.text ≤ q.text :=
  decide_eq_true_iff

theorem lt_of_pathLe_of_ne (hle : pathLe p q = true) (hne : p ≠ q) : p.text < q.text := by
  apply String.not_le.mp
  intro hge
  exact hne (pathLe_antisymm hle (pathLe_iff.mpr hge))

/-- An entry stays before what stays of the others, in place of their first if this is the same
path. -/
theorem dropRepeated_cons_cases (p : Path) (ps : List Path) :
    (∃ q rest, dropRepeated ps = q :: rest ∧ p.components = q.components ∧
        dropRepeated (p :: ps) = p :: rest) ∨
      (∀ q ∈ (dropRepeated ps).head?, p.components ≠ q.components) ∧
        dropRepeated (p :: ps) = p :: dropRepeated ps := by
  rw [dropRepeated]
  cases hps : dropRepeated ps with
  | nil => exact .inr ⟨by simp, rfl⟩
  | cons q rest =>
    by_cases hsame : p.components = q.components
    · exact .inl ⟨q, rest, rfl, hsame, if_pos (Path.same_iff.mpr hsame)⟩
    · exact .inr ⟨by simpa using hsame, if_neg (mt Path.same_iff.mp hsame)⟩

theorem dropRepeated_sublist (paths : List Path) : (dropRepeated paths).Sublist paths := by
  induction paths with
  | nil => exact .slnil
  | cons p ps ih =>
    obtain ⟨q, rest, hps, -, heq⟩ | ⟨-, heq⟩ := dropRepeated_cons_cases p ps
    · rw [hps] at ih
      exact heq ▸ ((List.sublist_cons_self q rest).trans ih).cons_cons p
    · exact heq ▸ ih.cons_cons p

/-- No two neighbours are the same path. -/
theorem isChain_dropRepeated (paths : List Path) :
    (dropRepeated paths).IsChain fun p q => p.components ≠ q.components := by
  induction paths with
  | nil => exact .nil
  | cons p ps ih =>
    obtain ⟨q, rest, hps, hsame, heq⟩ | ⟨hdiffer, heq⟩ := dropRepeated_cons_cases p ps
    · rw [hps, List.isChain_cons] at ih
      rw [heq, List.isChain_cons, hsame]
      exact ih
    · rw [heq, List.isChain_cons]
      exact ⟨hdiffer, ih⟩

theorem sorted_dropRepeated (h : Sorted paths) : Sorted (dropRepeated paths) :=
  h.sublist (dropRepeated_sublist paths)

/-- What holds between neighbours, and goes on to all that follow, holds between any two. -/
theorem Sorted.pairwise_of_isChain {R : Path → Path → Prop} (h : Sorted paths)
    (hchain : paths.IsChain R)
    (hon : ∀ p ∈ paths, ∀ q ∈ paths, ∀ r ∈ paths, pathLe p q = true → pathLe q r = true →
      R p q → R p r) : paths.Pairwise R := by
  induction paths with
  | nil => exact .nil
  | cons p ps ih =>
    obtain ⟨hle, hps⟩ := List.pairwise_cons.mp h
    obtain ⟨hnext, hchain⟩ := List.isChain_cons.mp hchain
    refine .cons (fun r hr => ?_) (ih hps hchain fun p hp q hq r hr =>
      hon p (.tail _ hp) q (.tail _ hq) r (.tail _ hr))
    cases ps with
    | nil => cases hr
    | cons q qs =>
      have hqr : pathLe q r = true := by
        rcases List.mem_cons.mp hr with rfl | hr
        · exact pathLe_refl r
        · exact (List.pairwise_cons.mp hps).1 r hr
      exact hon p List.mem_cons_self q (.tail _ List.mem_cons_self) r (.tail _ hr)
        (hle q List.mem_cons_self) hqr (hnext q rfl)

/-- What stays has different texts. -/
theorem Sorted.pairwise_lt_dropRepeated (h : Sorted paths) :
    (dropRepeated paths).Pairwise fun p q => p.text < q.text := by
  have hne : (dropRepeated paths).Pairwise (· ≠ ·) := by
    apply (sorted_dropRepeated h).pairwise_of_isChain
    · exact (isChain_dropRepeated paths).imp fun p q hdiffer heq => hdiffer (heq ▸ rfl)
    · rintro p - q - r - hpq hqr hne rfl
      exact hne (pathLe_antisymm hpq hqr)
  exact (List.pairwise_and_iff.mpr ⟨sorted_dropRepeated h, hne⟩).imp fun hpq =>
    lt_of_pathLe_of_ne hpq.1 hpq.2

/-- Of the texts that stay, the last one up to that of an entry is for the path of the entry. -/
theorem Sorted.exists_last_dropRepeated (h : Sorted paths) (hp : p ∈ paths) :
    ∃ q ∈ dropRepeated paths, q.components = p.components ∧ pathLe q p = true ∧
      ∀ r ∈ dropRepeated paths, pathLe r p = true → pathLe r q = true := by
  induction paths with
  | nil => cases hp
  | cons first ps ih =>
    obtain ⟨hle, hps⟩ := List.pairwise_cons.mp h
    have hcases := dropRepeated_cons_cases first ps
    rcases List.mem_cons.mp hp with rfl | hp
    · obtain ⟨rest, hrest⟩ := exists_dropRepeated_cons p ps
      exact ⟨p, hrest ▸ List.mem_cons_self, rfl, pathLe_refl p, fun r _ hr => hr⟩
    obtain ⟨q, hq, hsame, hqp, hlast⟩ := ih hps hp
    have hfirst : pathLe first q = true := hle q ((dropRepeated_sublist ps).subset hq)
    obtain ⟨second, rest, hrest, hsecond, heq⟩ | ⟨-, heq⟩ := hcases
    · rw [hrest] at hq hlast
      rw [heq]
      rcases List.mem_cons.mp hq with rfl | hq
      · -- `q` gives way to the first entry, and what stays after `q` is greater than `p`.
        have hlt := Sorted.pairwise_lt_dropRepeated hps
        rw [hrest] at hlt
        refine ⟨first, List.mem_cons_self, hsecond.trans hsame, hle p hp, ?_⟩
        rw [List.forall_mem_cons]
        refine ⟨fun _ => pathLe_refl first, fun r hr hrp => ?_⟩
        have hrq : r.text ≤ q.text := pathLe_iff.mp (hlast r (.tail _ hr) hrp)
        exact absurd hrq (String.not_le.mpr ((List.pairwise_cons.mp hlt).1 r hr))
      · refine ⟨q, .tail _ hq, hsame, hqp, ?_⟩
        rw [List.forall_mem_cons]
        exact ⟨fun _ => hfirst, fun r hr => hlast r (.tail _ hr)⟩
    · rw [heq]
      refine ⟨q, .tail _ hq, hsame, hqp, ?_⟩
      rw [List.forall_mem_cons]
      exact ⟨fun _ => hfirst, hlast⟩

/-! ## Texts of one path -/

/-- Between two texts of one path there is no text of another. -/
def Together (paths : List Path) : Prop :=
  ∀ p ∈ paths, ∀ q ∈ paths, ∀ r ∈ paths, p.text ≤ q.text → q.text ≤ r.text →
    p.same r = true → p.same q = true

theorem Sorted.nodup_dropRepeated_iff (h : Sorted paths) :
    ((dropRepeated paths).map Path.components).Nodup ↔ Together paths := by
  have hsub := (dropRepeated_sublist paths).subset
  constructor
  · intro hnodup p hp q hq r hr hpq hqr hpr
    obtain ⟨p', hp', hpsame, hple, -⟩ := h.exists_last_dropRepeated hp
    obtain ⟨q', hq', hqsame, hqle, hqlast⟩ := h.exists_last_dropRepeated hq
    obtain ⟨r', hr', hrsame, -, hrlast⟩ := h.exists_last_dropRepeated hr
    -- The ends stand for the same path, so they are one, and what is between them is that one, too.
    obtain rfl : p' = r' :=
      List.inj_on_of_nodup_map hnodup hp' hr' (by rw [hpsame, Path.same_iff.mp hpr, hrsame])
    have hqq : pathLe p' q' = true := hqlast p' hp' (pathLe_trans _ _ _ hple (pathLe_iff.mpr hpq))
    obtain rfl : p' = q' := pathLe_antisymm hqq
      (hrlast q' hq' (pathLe_trans _ _ _ hqle (pathLe_iff.mpr hqr)))
    rw [Path.same_iff, ← hpsame, hqsame]
  · intro htogether
    apply List.pairwise_map.mpr
    apply (sorted_dropRepeated h).pairwise_of_isChain (isChain_dropRepeated paths)
    intro p hp q hq r hr hpq hqr hdiffer hpr
    have hsame := htogether p (hsub hp) q (hsub hq) r (hsub hr) (pathLe_iff.mp hpq)
      (pathLe_iff.mp hqr) (Path.same_iff.mpr hpr)
    exact hdiffer (Path.same_iff.mp hsame)

theorem together_mergeSort_iff : Together (classpath.mergeSort pathLe) ↔ Together classpath := by
  simp only [Together, List.mem_mergeSort]

/-! ## Registered libraries -/

/-- The registered location is the library at a path. -/
structure IsLibraryAt [Formats] (fs : FileSystem) (language : Language) (p : Path)
    (r : Registered) : Prop where
  role : r.role = .library
  name : r.location.name = p.text
  place : ∃ place, Place.detect? fs language p = some place ∧ r.location = place.location fs

variable {fs : FileSystem} {language : Language} {settings : Settings} {input : Path} {view : View}

theorem place_eq_ok_iff {found : Place} :
    place fs language p = .ok found ↔ Place.detect? fs language p = some found := by
  unfold place
  split <;> simp_all

theorem buildView_eq_ok_iff [Formats] :
    buildView fs language settings input classpath = .ok view ↔
      ∃ program, place fs language input = .ok program ∧
        ∃ libraries, (libraryPaths classpath).mapM (place fs language) = .ok libraries ∧
          view = ⟨⟨program.location fs, .application⟩ ::
            libraries.map fun library => ⟨library.location fs, .library⟩,
            fun l => settings.optionsFor l.name⟩ := by
  simp only [buildView, bind_eq_ok_iff]
  refine exists_congr fun program => and_congr_right' (exists_congr fun libraries => ?_)
  exact and_congr_right' ⟨fun h => (Except.ok.inj h).symm, fun h => congrArg Except.ok h.symm⟩

theorem exists_buildView_iff [Formats] :
    (∃ view, buildView fs language settings input classpath = .ok view) ↔
      ∀ p ∈ input :: libraryPaths classpath, (Place.detect? fs language p).isSome = true := by
  have hplace {p : Path} :
      (∃ found, place fs language p = .ok found) ↔ (Place.detect? fs language p).isSome = true := by
    simp only [place_eq_ok_iff, Option.isSome_iff_exists]
  simp only [List.forall_mem_cons, ← hplace, ← exists_mapM_eq_ok_iff, buildView_eq_ok_iff]
  constructor
  · rintro ⟨-, program, hprogram, libraries, hlibraries, -⟩
    exact ⟨⟨program, hprogram⟩, libraries, hlibraries⟩
  · rintro ⟨⟨program, hprogram⟩, libraries, hlibraries⟩
    exact ⟨_, program, hprogram, libraries, hlibraries, rfl⟩

theorem forall₂_isLibraryAt [Formats] {places : List Place}
    (h : paths.mapM (place fs language) = .ok places) :
    List.Forall₂ (IsLibraryAt fs language) paths
      (places.map fun library => ⟨library.location fs, .library⟩) := by
  induction paths generalizing places with
  | nil =>
    cases h
    exact .nil
  | cons p ps ih =>
    obtain ⟨first, rest, hfirst, hrest, rfl⟩ := mapM_cons_eq_ok_iff.mp h
    have hdetect := place_eq_ok_iff.mp hfirst
    refine .cons ⟨rfl, ?_, first, hdetect, rfl⟩ (ih hrest)
    rw [Place.name_location, Place.name_of_detect? hdetect]

/-- The libraries of a classpath are entries of it. They come in the order of their texts, no text
twice, and no entry is without a library for its path. There is one library for each path exactly
if no text of another entry sorts between two texts of one path. These libraries are registered
after the program, whenever all of them are there. -/
theorem libraries_differ_iff_together [Formats] (classpath : List Path) :
    (∀ p ∈ libraryPaths classpath, p ∈ classpath) ∧
    (∀ p ∈ classpath, ∃ q ∈ libraryPaths classpath, q.same p = true) ∧
    (libraryPaths classpath).Pairwise (fun p q => p.text < q.text) ∧
    ((libraryPaths classpath).Pairwise (fun p q => p.same q = false) ↔ Together classpath) ∧
    ∀ fs language settings input,
      ((∃ view, buildView fs language settings input classpath = .ok view) ↔
        ∀ p ∈ input :: libraryPaths classpath, (Place.detect? fs language p).isSome = true) ∧
      ∀ view, buildView fs language settings input classpath = .ok view →
        ∃ program registered, view.locations = program :: registered ∧
          program.role = .application ∧
          List.Forall₂ (IsLibraryAt fs language) (libraryPaths classpath) registered := by
  have hsorted := sorted_mergeSort classpath
  refine ⟨?_, ?_, hsorted.pairwise_lt_dropRepeated, ?_, ?_⟩
  · intro p hp
    exact List.mem_mergeSort.mp ((dropRepeated_sublist _).subset hp)
  · intro p hp
    obtain ⟨q, hq, hsame, -⟩ := hsorted.exists_last_dropRepeated (List.mem_mergeSort.mpr hp)
    exact ⟨q, hq, Path.same_iff.mpr hsame⟩
  · rw [← together_mergeSort_iff, ← hsorted.nodup_dropRepeated_iff, List.Nodup, List.pairwise_map]
    simp only [Bool.eq_false_iff, ne_eq, Path.same_iff]
    rfl
  · intro fs language settings input
    refine ⟨exists_buildView_iff, fun view hview => ?_⟩
    obtain ⟨program, -, libraries, hlibraries, rfl⟩ := buildView_eq_ok_iff.mp hview
    exact ⟨_, _, rfl, rfl, forall₂_isLibraryAt hlibraries⟩

end

namespace Interleaved

/-- The name of the third folder sorts between two texts for the second one. -/
def fs : FileSystem :=
  ⟨.folder [
    ("app", .folder []),
    ("lib", .folder [
      ("A.class", .file (ClassOutline.plain .classA .object).bytes)]),
    ("lib-x", .folder [])], []⟩

def classpath : List Path :=
  [⟨"lib"⟩, ⟨"lib-x"⟩, ⟨"lib/"⟩]

theorem libraryPaths_classpath : libraryPaths classpath = classpath := by
  rw [libraryPaths, List.mergeSort_of_pairwise (by decide +kernel)]
  decide

theorem not_together : ¬ Together classpath := by
  intro h
  have hsame := h ⟨"lib"⟩ (by decide) ⟨"lib-x"⟩ (by decide) ⟨"lib/"⟩ (by decide) (by decide)
    (by decide) (by decide)
  revert hsame
  decide

def view : View :=
  ⟨⟨(Place.directory ⟨⟨"app"⟩, false⟩).location fs, .application⟩ ::
    classpath.map fun path => ⟨(Place.directory ⟨path, false⟩).location fs, .library⟩,
    fun l => Settings.empty.optionsFor l.name⟩

theorem buildView_classpath : buildView fs .standard .empty ⟨"app"⟩ classpath = .ok view := by
  rw [buildView, libraryPaths_classpath]
  rfl

end Interleaved

open Interleaved in
/-- The folder is registered twice, so that its class has two candidates. -/
theorem libraries_differ_iff_together_interleaved :
    buildView fs .standard .empty ⟨"app"⟩ classpath = .ok view ∧
    (∃ program registered, view.locations = program :: registered ∧
      List.Forall₂ (IsLibraryAt fs .standard) (libraryPaths classpath) registered) ∧
    libraryPaths classpath = [⟨"lib"⟩, ⟨"lib-x"⟩, ⟨"lib/"⟩] ∧
    ¬ (libraryPaths classpath).Pairwise (fun p q => p.same q = false) ∧
    (view.unit ⟨"", "A"⟩ .initial).1 = .error (.ambiguous ⟨"", "A"⟩ ["lib", "lib/"]) := by
  obtain ⟨-, -, -, hdiffer, hregistered⟩ := libraries_differ_iff_together classpath
  obtain ⟨-, hlibraries⟩ := hregistered fs .standard .empty ⟨"app"⟩
  obtain ⟨program, registered, hlocations, -, hstand⟩ := hlibraries view buildView_classpath
  refine ⟨buildView_classpath, ⟨program, registered, hlocations, hstand⟩, libraryPaths_classpath,
    fun h => not_together (hdiffer.mp h), ?_⟩
  decide +kernel

end Cli

end ClassAtlas
