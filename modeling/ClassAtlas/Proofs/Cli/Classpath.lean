import ClassAtlas.Proofs.ClassFile.Assembly
import ClassAtlas.Proofs.Cli.Reports
import ClassAtlas.Proofs.View.Identity
import Mathlib.Data.List.Dedup

/-!
# The classpath as a set

The entries of the classpath are sorted by their texts, and of neighbours that
are the same path the first one stays. Entries with one text end up side by
side, so how often and where an entry was given makes no difference, although
two texts of one path may stand apart and both stay. Nothing else of a run
looks at the order of the entries.
-/

namespace ClassAtlas.Cli

/-! ## Sorting -/

theorem pathLe_trans (p q r : Path) (hpq : pathLe p q = true) (hqr : pathLe q r = true) :
    pathLe p r = true := by
  simp only [pathLe, decide_eq_true_eq] at hpq hqr ⊢
  exact String.le_trans hpq hqr

theorem pathLe_total (p q : Path) : (pathLe p q || pathLe q p) = true := by
  simp only [pathLe, Bool.or_eq_true, decide_eq_true_eq]
  exact String.le_total p.text q.text

theorem pathLe_antisymm {p q : Path} (hpq : pathLe p q = true) (hqp : pathLe q p = true) :
    p = q := by
  simp only [pathLe, decide_eq_true_eq] at hpq hqp
  obtain ⟨s⟩ := p
  obtain ⟨t⟩ := q
  exact congrArg Path.mk (String.le_antisymm hpq hqp)

/-- In the order of their texts. -/
def Sorted (paths : List Path) : Prop :=
  paths.Pairwise fun p q => pathLe p q = true

theorem sorted_mergeSort (paths : List Path) : Sorted (paths.mergeSort pathLe) :=
  List.pairwise_mergeSort pathLe_trans pathLe_total paths

theorem Sorted.eq_of_mem_iff {paths others : List Path} (hp : Sorted paths) (ho : Sorted others)
    (hpn : paths.Nodup) (hon : others.Nodup) (h : ∀ p, p ∈ paths ↔ p ∈ others) :
    paths = others :=
  List.Perm.eq_of_pairwise (fun _ _ _ _ => pathLe_antisymm) hp ho
    ((List.perm_ext_iff_of_nodup hpn hon).mpr h)

/-! ## Repeated entries -/

theorem exists_dropRepeated_cons (p : Path) (ps : List Path) :
    ∃ rest, dropRepeated (p :: ps) = p :: rest := by
  rw [dropRepeated]
  split
  · exact ⟨_, rfl⟩
  · split <;> exact ⟨_, rfl⟩

theorem dropRepeated_cons_cons_self (p : Path) (ps : List Path) :
    dropRepeated (p :: p :: ps) = dropRepeated (p :: ps) := by
  obtain ⟨rest, hrest⟩ := exists_dropRepeated_cons p ps
  have hsame : p.same p = true := beq_self_eq_true _
  rw [dropRepeated, hrest]
  simp [hsame]

/-- Entries that are there more than once might be there once. -/
theorem Sorted.dropRepeated_dedup {paths : List Path} (h : Sorted paths) :
    dropRepeated paths.dedup = dropRepeated paths := by
  induction paths with
  | nil => rfl
  | cons p ps ih =>
    obtain ⟨hle, hps⟩ := List.pairwise_cons.mp h
    by_cases hp : p ∈ ps
    · -- The text is the least one, so its next occurrence is the next entry.
      rw [List.dedup_cons_of_mem hp, ih hps]
      cases ps with
      | nil => cases hp
      | cons q qs =>
        have hqp : pathLe q p = true := by
          rcases List.mem_cons.mp hp with rfl | hp
          · exact hle p List.mem_cons_self
          · exact (List.pairwise_cons.mp hps).1 p hp
        obtain rfl := pathLe_antisymm (hle q List.mem_cons_self) hqp
        rw [dropRepeated_cons_cons_self]
    · rw [List.dedup_cons_of_notMem hp, dropRepeated, ih hps, dropRepeated]

/-- The libraries depend on the set of entries only. -/
theorem libraryPaths_eq_of_mem_iff {classpath other : List Path}
    (h : ∀ p, p ∈ classpath ↔ p ∈ other) : libraryPaths classpath = libraryPaths other := by
  have hsorted (paths : List Path) : Sorted (paths.mergeSort pathLe).dedup :=
    (sorted_mergeSort paths).sublist (List.dedup_sublist _)
  have hdedup : (classpath.mergeSort pathLe).dedup = (other.mergeSort pathLe).dedup := by
    refine (hsorted _).eq_of_mem_iff (hsorted _) (List.nodup_dedup _) (List.nodup_dedup _) ?_
    intro p
    simpa only [List.mem_dedup, List.mem_mergeSort] using h p
  rw [libraryPaths, ← (sorted_mergeSort classpath).dropRepeated_dedup, hdedup,
    (sorted_mergeSort other).dropRepeated_dedup, libraryPaths]

/-! ## Runs -/

theorem checkClasspath_eq_ok_iff {fs : FileSystem} {classpath : List Path} :
    checkClasspath fs classpath = .ok () ↔ ∀ p ∈ classpath, fs.contains p = true := by
  induction classpath with
  | nil => simp [checkClasspath]
  | cons p ps ih =>
    rw [checkClasspath, List.forall_mem_cons]
    split
    · next hp => simp [hp, ih]
    · next hp => simp [hp]

theorem checkInput_eq_ok_iff {fs : FileSystem} {input : Path} :
    checkInput fs input = .ok () ↔ fs.contains input = true := by
  unfold checkInput
  split <;> simp_all

/-- What a report takes, step by step. -/
theorem report_eq_ok_iff [Formats] {fs : FileSystem} {a : Arguments} {r : Report} :
    report fs a = .ok r ↔ ∃ settings, a.loadSettings fs = .ok settings ∧
      fs.contains a.input = true ∧
      (∀ p ∈ a.mergedClasspath settings, fs.contains p = true) ∧
      ∃ view, buildView fs (a.language settings) settings a.input (a.mergedClasspath settings) =
          .ok view ∧
        ∃ classes, (view.classes .initial).1 = .ok classes ∧
          r = ⟨a.language settings, view.locations.map (·.location.name),
            classes.map ClassReport.ofUnit⟩ := by
  simp only [report, bind_eq_ok_iff]
  constructor
  · rintro ⟨settings, hload, ⟨⟩, hinput, ⟨⟩, hclasspath, view, hview, h⟩
    refine ⟨settings, hload, checkInput_eq_ok_iff.mp hinput,
      checkClasspath_eq_ok_iff.mp hclasspath, view, hview, ?_⟩
    split at h
    · cases h
    · next classes hclasses => exact ⟨classes, hclasses, (Except.ok.inj h).symm⟩
  · rintro ⟨settings, hload, hinput, hclasspath, view, hview, classes, hclasses, rfl⟩
    refine ⟨settings, hload, (), checkInput_eq_ok_iff.mpr hinput, (),
      checkClasspath_eq_ok_iff.mpr hclasspath, view, hview, ?_⟩
    rw [hclasses]
    rfl

/-- Both ask for the same, with the same entries of the classpath, wherever, in which order and how
often these are given. -/
structure SameRequest (fs : FileSystem) (a b : Arguments) (s t : Settings) : Prop where
  loadedLeft : a.loadSettings fs = .ok s
  loadedRight : b.loadSettings fs = .ok t
  input : a.input = b.input
  output : a.output = b.output
  version : a.javaVersion = b.javaVersion
  settingsVersion : s.javaVersion = t.javaVersion
  options : s.locationOptions = t.locationOptions
  entries : ∀ p, p ∈ a.mergedClasspath s ↔ p ∈ b.mergedClasspath t

namespace SameRequest

variable {fs : FileSystem} {a b : Arguments} {s t : Settings}

theorem symm (h : SameRequest fs a b s t) : SameRequest fs b a t s where
  loadedLeft := h.loadedRight
  loadedRight := h.loadedLeft
  input := h.input.symm
  output := h.output.symm
  version := h.version.symm
  settingsVersion := h.settingsVersion.symm
  options := h.options.symm
  entries p := (h.entries p).symm

theorem language_eq (h : SameRequest fs a b s t) : a.language s = b.language t := by
  unfold Arguments.language
  rw [h.version, h.settingsVersion]

theorem buildView_eq [Formats] (h : SameRequest fs a b s t) :
    buildView fs (a.language s) s a.input (a.mergedClasspath s) =
      buildView fs (b.language t) t b.input (b.mergedClasspath t) := by
  have hoptions : s.optionsFor = t.optionsFor := by
    funext location
    rw [Settings.optionsFor, h.options, Settings.optionsFor]
  unfold buildView
  rw [h.language_eq, h.input, libraryPaths_eq_of_mem_iff h.entries, hoptions]

theorem report_eq_ok [Formats] (h : SameRequest fs a b s t) {r : Report}
    (hr : report fs a = .ok r) : report fs b = .ok r := by
  obtain ⟨settings, hload, hinput, hclasspath, view, hview, hclasses⟩ := report_eq_ok_iff.mp hr
  obtain rfl : s = settings := Except.ok.inj (h.loadedLeft.symm.trans hload)
  refine report_eq_ok_iff.mpr ⟨t, h.loadedRight, h.input ▸ hinput, ?_, view, ?_, ?_⟩
  · intro p hp
    exact hclasspath p ((h.entries p).mpr hp)
  · rw [← h.buildView_eq, hview]
  · rwa [← h.language_eq]

end SameRequest

/-- Two runs on one file system that ask for the same, with the same entries of the classpath, both
fail or make the same report and leave the same behind. What they put out is the document of the
report, and that of no other. -/
theorem run_depends_on_entries [Formats] {fs : FileSystem} {a b : Arguments} {s t : Settings}
    (h : SameRequest fs a b s t) :
    (∀ r, report fs a = .ok r ↔ report fs b = .ok r) ∧
    (∀ o, run fs a = .ok o ↔ run fs b = .ok o) ∧
    (∀ o, run fs a = .ok o → ∀ r,
      report fs a = .ok r ↔ o.output? a.output = some (Text.Utf8.encode r.text)) ∧
    ∀ r : Report, Json.parse? r.text = some r.json := by
  have hreport : ∀ r, report fs a = .ok r ↔ report fs b = .ok r := fun r =>
    ⟨h.report_eq_ok, h.symm.report_eq_ok⟩
  refine ⟨hreport, fun o => ?_, fun o => report_eq_ok_iff_output, Report.parse?_text⟩
  simp only [run, bind_eq_ok_iff, hreport, h.output]

namespace Shuffled

def classFile (name : ShortText) : FileTree :=
  .file (ClassOutline.plain name .object).bytes

/-- Three classes, and settings with a part of the classpath. -/
def fs : FileSystem :=
  ⟨.folder [
    ("A.class", classFile .classA),
    ("p", .folder [
      ("A.class", classFile .classPA),
      ("B.class", classFile .classPB)]),
    ("s.json", .file (Text.Utf8.encode "[null, [\"p/A.class\", \"p/B.class\"]]"))], []⟩

/-- In order, the last entries from the settings. -/
def tidy : Arguments :=
  ⟨⟨"A.class"⟩, [⟨"p//B.class"⟩], some ⟨"s.json"⟩, none, none, false, false⟩

/-- In no order, one entry twice. -/
def untidy : Arguments :=
  ⟨⟨"A.class"⟩, [⟨"p/B.class"⟩, ⟨"p//B.class"⟩, ⟨"p/A.class"⟩, ⟨"p/B.class"⟩], none, none, none,
    false, false⟩

def settings : Settings :=
  ⟨none, [⟨"p/A.class"⟩, ⟨"p/B.class"⟩], []⟩

theorem sameRequest : SameRequest fs tidy untidy settings .empty where
  loadedLeft := by decide +kernel
  loadedRight := rfl
  input := rfl
  output := rfl
  version := rfl
  settingsVersion := rfl
  options := rfl
  entries p := by
    simp only [Arguments.mergedClasspath, tidy, untidy, settings, Settings.empty, List.mem_append,
      List.mem_cons, List.not_mem_nil, or_false]
    tauto

def view : View :=
  ⟨⟨(Place.singleFile ⟨⟨"A.class"⟩⟩).location fs, .application⟩ ::
    [⟨"p//B.class"⟩, ⟨"p/A.class"⟩, ⟨"p/B.class"⟩].map fun path =>
      ⟨(Place.singleFile ⟨path⟩).location fs, .library⟩, fun l => settings.optionsFor l.name⟩

/-- Two spellings of one path stand apart. -/
theorem libraryPaths_tidy : libraryPaths (tidy.mergedClasspath settings) =
    [⟨"p//B.class"⟩, ⟨"p/A.class"⟩, ⟨"p/B.class"⟩] := by
  rw [libraryPaths, List.mergeSort_of_pairwise (by decide +kernel)]
  decide

theorem exists_report_tidy : ∃ r, report fs tidy = .ok r ∧
    r.locations = ["A.class", "p//B.class", "p/A.class", "p/B.class"] ∧
    r.classes.map (fun c => (c.name, c.location)) =
      [("A", "A.class"), ("p.B", "p//B.class"), ("p.A", "p/A.class")] := by
  have hview : buildView fs (tidy.language settings) settings tidy.input
      (tidy.mergedClasspath settings) = .ok view := by
    rw [buildView, libraryPaths_tidy]
    rfl
  have hclasses : (view.classes .initial).1.toOption.map
        (fun units => (units.map ClassReport.ofUnit).map fun c => (c.name, c.location)) =
      some [("A", "A.class"), ("p.B", "p//B.class"), ("p.A", "p/A.class")] := by
    decide +kernel
  cases hunits : (view.classes .initial).1 with
  | error failure =>
    rw [hunits] at hclasses
    cases hclasses
  | ok units =>
    rw [hunits] at hclasses
    refine ⟨_, report_eq_ok_iff.mpr ⟨settings, sameRequest.loadedLeft, by decide +kernel,
      by decide +kernel, view, hview, units, hunits, rfl⟩, rfl, Option.some.inj hclasses⟩

end Shuffled

section

open Shuffled

theorem run_depends_on_entries_shuffled :
    SameRequest fs tidy untidy settings .empty ∧
    ∃ r, report fs tidy = .ok r ∧ report fs untidy = .ok r ∧
      run fs untidy = .ok ⟨r.text, fs⟩ ∧ Json.parse? r.text = some r.json ∧
      r.locations = ["A.class", "p//B.class", "p/A.class", "p/B.class"] ∧
      r.classes.map (fun c => (c.name, c.location)) =
        [("A", "A.class"), ("p.B", "p//B.class"), ("p.A", "p/A.class")] := by
  obtain ⟨r, hr, hlocations, hclasses⟩ := exists_report_tidy
  obtain ⟨hreport, hrun, -, hparse⟩ := run_depends_on_entries sameRequest
  have htidy : run fs tidy = .ok ⟨r.text, fs⟩ := by
    rw [run, hr]
    rfl
  exact ⟨sameRequest, r, hr, (hreport r).mp hr, (hrun _).mp htidy, hparse r, hlocations,
    hclasses⟩

end

end ClassAtlas.Cli
