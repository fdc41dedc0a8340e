import ClassAtlas.Proofs.View.Memo
import Mathlib.Data.List.Forall2

/-!
# The first offer counts

Locations that have fixed sources, but whose calls may fail at any time. What
a view keeps under a name is then built from the first location with that
name, in whatever order classes were asked for and whatever failed on the way:
a look-up is content only if no other location has the name, and a full
resolution comes to a location when all names before it have their units.
-/

namespace ClassAtlas

-- ---------------------------------------------------------------------------
-- Shelves
-- ---------------------------------------------------------------------------

/-- What a location has, whether or not it can be reached. -/
structure Shelf where
  role : Role
  holds : ClassName → Option Source
  named : ∀ {name : ClassName} {source : Source}, holds name = some source → source.name = name

/-- The location gives what is on the shelf, whenever it gives anything. -/
structure Registered.Serves (r : Registered) (shelf : Shelf) : Prop where
  role : r.role = shelf.role
  lookup : ∀ {n name options found}, r.location.lookup n name options = .ok found →
    found = shelf.holds name
  enumerate : ∀ {n options sources}, r.location.enumerate n options = .ok sources →
    ∀ source, source ∈ sources ↔ shelf.holds source.name = some source

def View.Serves (v : View) (shelves : List Shelf) : Prop :=
  List.Forall₂ Registered.Serves v.locations shelves

/-- The unit of a name: its source is that of the first shelf that has one. -/
def firstUnit? (shelves : List Shelf) (name : ClassName) : Option ResolvedUnit :=
  shelves.findSome? fun shelf => (shelf.holds name).map (Source.build shelf.role)

theorem exists_shelf_of_firstUnit? {shelves : List Shelf} {name : ClassName} {u : ResolvedUnit}
    (h : firstUnit? shelves name = some u) :
    ∃ before shelf after source, shelves = before ++ shelf :: after ∧
      (∀ other ∈ before, other.holds name = none) ∧ shelf.holds name = some source ∧
      IsUnitOf shelf.role source u := by
  obtain ⟨before, shelf, after, hsplit, hfirst, hbefore⟩ := List.findSome?_eq_some_iff.mp h
  obtain ⟨source, hholds, rfl⟩ := Option.map_eq_some_iff.mp hfirst
  refine ⟨before, shelf, after, source, hsplit, fun other hother => ?_, hholds,
    source.isUnitOf_build _⟩
  exact Option.map_eq_none_iff.mp (hbefore other hother)

namespace Registered.Serves

variable {r : Registered} {shelf : Shelf}

/-- Failing now and then is no other way to serve. -/
theorem failingFirst (h : r.Serves shelf) (lookups enumerations : Nat) (failure : Failure) :
    Registered.Serves ⟨r.location.failingFirst lookups enumerations failure, r.role⟩ shelf where
  role := h.role
  lookup := by
    intro n name options found hfound
    simp only [Location.failingFirst] at hfound
    split at hfound
    · cases hfound
    · exact h.lookup hfound
  enumerate := by
    intro n options sources hsources
    simp only [Location.failingFirst] at hsources
    split at hsources
    · cases hsources
    · exact h.enumerate hsources

end Registered.Serves

namespace MemoryStore

/-- Sources are found by their names. -/
def shelf (m : MemoryStore) (role : Role) : Shelf where
  role := role
  holds := m.find?
  named h := by simpa using List.find?_some h

theorem mem_sources_iff {m : MemoryStore} (hm : (m.sources.map Source.name).Nodup)
    (source : Source) : source ∈ m.sources ↔ m.find? source.name = some source := by
  refine ⟨fun h => ?_, List.mem_of_find?_eq_some⟩
  rw [find?, List.find?_eq_some_iff_append]
  obtain ⟨before, after, hsplit⟩ := List.append_of_mem h
  refine ⟨by simp, before, after, hsplit, ?_⟩
  intro other hother
  rw [hsplit, List.map_append, List.nodup_append] at hm
  have hne := hm.2.2 other.name (List.mem_map_of_mem hother) source.name (by simp)
  simpa using hne

/-- A source takes the place of the one with its name, and a new name goes to the end. -/
theorem names_insertInto (source : Source) (sources : List Source) :
    (insertInto source sources).map Source.name =
      if source.name ∈ sources.map Source.name then sources.map Source.name
      else sources.map Source.name ++ [source.name] := by
  fun_induction insertInto source sources with
  | case1 => simp
  | case2 t ts heq => simp [heq]
  | case3 t ts hne ih =>
    have hother : source.name ≠ t.name := fun heq => hne heq.symm
    rw [List.map_cons, ih]
    split <;> simp_all

theorem nodup_names_insertInto (source : Source) {sources : List Source}
    (h : (sources.map Source.name).Nodup) :
    ((insertInto source sources).map Source.name).Nodup := by
  rw [names_insertInto]
  split
  · exact h
  · next hnew => exact List.nodup_append.mpr ⟨h, by simp, by simpa using hnew⟩

theorem nodup_names_ofList (sources : List Source) :
    ((ofList sources).sources.map Source.name).Nodup := by
  have hfold : ∀ m : MemoryStore, (m.sources.map Source.name).Nodup →
      ((sources.foldl insert m).sources.map Source.name).Nodup := by
    induction sources with
    | nil => exact fun m hm => hm
    | cons source sources ih => exact fun m hm => ih _ (nodup_names_insertInto source hm)
  exact hfold empty List.nodup_nil

/-- Every store in memory is a fixed shelf. -/
theorem serves_ofList (sources : List Source) (name : String) (role : Role) :
    Registered.Serves ⟨(ofList sources).location name, role⟩ ((ofList sources).shelf role) where
  role := rfl
  lookup h := (Except.ok.inj h).symm
  enumerate h := Except.ok.inj h ▸ mem_sources_iff (nodup_names_ofList sources)

end MemoryStore

-- ---------------------------------------------------------------------------
-- What is found
-- ---------------------------------------------------------------------------

namespace View

variable {v : View} {shelves : List Shelf} {scope : Scope} {s s' : ViewState}

theorem Answers.eq_holds {r : Registered} {shelf : Shelf} {name : ClassName}
    {found : Option Source} (h : v.Answers r name found) (hr : r.Serves shelf) :
    found = shelf.holds name := by
  obtain ⟨n, hfound⟩ := h
  exact hr.lookup hfound

theorem Lists.mem_iff {r : Registered} {shelf : Shelf} {sources : List Source}
    (h : v.Lists r sources) (hr : r.Serves shelf) (source : Source) :
    source ∈ sources ↔ shelf.holds source.name = some source := by
  obtain ⟨n, hsources⟩ := h
  exact hr.enumerate hsources source

/-- If the name is on no list, it is not on the shelf. -/
theorem Lists.holds_eq_none {r : Registered} {shelf : Shelf} {sources : List Source}
    {name : ClassName} (h : v.Lists r sources) (hr : r.Serves shelf)
    (hname : ∀ t ∈ sources, t.name ≠ name) : shelf.holds name = none := by
  cases hholds : shelf.holds name with
  | none => rfl
  | some source =>
    have hsource : source.name = name := shelf.named hholds
    exact absurd hsource (hname source ((h.mem_iff hr source).mpr (hsource ▸ hholds)))

theorem firstUnit?_of_split {before after : List Registered} {r : Registered} {name : ClassName}
    {source : Source} (hserves : List.Forall₂ Registered.Serves (before ++ r :: after) shelves)
    (hbefore : ∀ other ∈ before, ∀ shelf, other.Serves shelf → shelf.holds name = none)
    (hr : ∀ shelf, r.Serves shelf → shelf.holds name = some source) :
    firstUnit? shelves name = some (source.build r.role) := by
  induction before generalizing shelves with
  | nil =>
    cases hserves with
    | cons hfirst _ => simp [firstUnit?, hr _ hfirst, hfirst.role]
  | cons other before ih =>
    cases hserves with
    | cons hother hrest =>
      have hnone := hbefore other List.mem_cons_self _ hother
      have hskip := ih hrest fun t ht => hbefore t (List.mem_cons_of_mem _ ht)
      simpa [firstUnit?, hnone] using hskip

/-- Both ways to find a source lead to the first shelf that has the name. -/
theorem Finds.firstUnit?_eq {name : ClassName} {role : Role} {source : Source}
    (h : v.Finds name role source) (hv : v.Serves shelves) :
    firstUnit? shelves name = some (source.build role) := by
  cases h with
  | alone hsplit hrole hfound hothers =>
    subst hrole
    unfold Serves at hv
    rw [hsplit] at hv
    refine firstUnit?_of_split hv ?_ fun shelf hr => (hfound.eq_holds hr).symm
    intro other hother shelf hserves
    exact ((hothers other (List.mem_append_left _ hother)).eq_holds hserves).symm
  | first hsplit hrole hlists hsource hname hbefore =>
    subst hrole hname
    unfold Serves at hv
    rw [hsplit] at hv
    refine firstUnit?_of_split hv ?_ fun shelf hr => (hlists.mem_iff hr source).mp hsource
    intro other hother shelf hserves
    obtain ⟨listed, hlisted, hnames⟩ := hbefore other hother
    exact hlisted.holds_eq_none hserves hnames

theorem Serves.exists_shelf (hv : v.Serves shelves) {r : Registered} (hr : r ∈ v.locations) :
    ∃ shelf, r.Serves shelf := by
  obtain ⟨i, hi, rfl⟩ := List.getElem_of_mem hr
  exact ⟨_, hv.get hi (hv.length_eq ▸ hi)⟩

theorem Finds.exists_holds {name : ClassName} {role : Role} {source : Source}
    (h : v.Finds name role source) (hv : v.Serves shelves) :
    ∃ r ∈ v.locations, ∃ shelf, r.Serves shelf ∧ shelf.holds name = some source := by
  cases h with
  | @alone before after r hsplit _ hfound _ =>
    have hr : r ∈ v.locations := by simp [hsplit]
    obtain ⟨shelf, hserves⟩ := hv.exists_shelf hr
    exact ⟨r, hr, shelf, hserves, (hfound.eq_holds hserves).symm⟩
  | @first before after r sources hsplit _ hlists hsource hname _ =>
    have hr : r ∈ v.locations := by simp [hsplit]
    obtain ⟨shelf, hserves⟩ := hv.exists_shelf hr
    exact ⟨r, hr, shelf, hserves, hname ▸ (hlists.mem_iff hserves source).mp hsource⟩

/-- When everything on every list has its unit, nothing is left to be found. -/
theorem Covered.isSome_of_finds (hcovered : v.Covered v.locations s) (hv : v.Serves shelves)
    {name : ClassName} {role : Role} {source : Source} (h : v.Finds name role source) :
    (s.cached? name).isSome := by
  obtain ⟨r, hr, shelf, hserves, hholds⟩ := h.exists_holds hv
  obtain ⟨sources, hlists, hcached⟩ := hcovered r hr
  obtain rfl : source.name = name := shelf.named hholds
  exact hcached source ((hlists.mem_iff hserves source).mpr hholds)

-- ---------------------------------------------------------------------------
-- Steps
-- ---------------------------------------------------------------------------

/-- All units are those of the first shelves with their names. -/
def FirstOffers (shelves : List Shelf) (s : ViewState) : Prop :=
  ∀ entry ∈ s.cache, firstUnit? shelves entry.1 = some entry.2

theorem Step.firstOffers (h : v.Step scope s s') (hv : v.Serves shelves)
    (hs : FirstOffers shelves s) : FirstOffers shelves s' := by
  cases h with
  | lookup => exact hs
  | enumeration => exact hs
  | build _ hfinds =>
    intro entry hentry
    rw [ViewState.cache_build, List.mem_append, List.mem_singleton] at hentry
    rcases hentry with hold | rfl
    · exact hs entry hold
    · exact hfinds.firstUnit?_eq hv
  | finish => exact hs

theorem Step.covered_of_resolved (h : v.Step scope s s')
    (hs : s.resolved = true → v.Covered v.locations s) :
    s'.resolved = true → v.Covered v.locations s' := by
  intro hresolved
  cases h with
  | lookup => exact hs hresolved
  | enumeration => exact hs hresolved
  | build => exact (hs hresolved).mono (List.prefix_append _ _)
  | finish _ hcovered => exact hcovered

theorem Step.cache_eq_of_covered (h : v.Step scope s s') (hv : v.Serves shelves)
    (hcovered : v.Covered v.locations s) : s'.cache = s.cache := by
  cases h with
  | lookup => rfl
  | enumeration => rfl
  | build hnew hfinds => simpa [hnew] using hcovered.isSome_of_finds hv hfinds
  | finish => rfl

-- ---------------------------------------------------------------------------
-- Runs
-- ---------------------------------------------------------------------------

theorem firstOffers_run (hv : v.Serves shelves) (qs : List Request) :
    FirstOffers shelves (v.run qs .initial).2 :=
  run_induction (P := FirstOffers shelves) (s := .initial)
    (by simp [FirstOffers, ViewState.initial]) (fun _ _ _ hstep ih => hstep.firstOffers hv ih) qs

theorem covered_run (qs : List Request) :
    (v.run qs .initial).2.resolved = true → v.Covered v.locations (v.run qs .initial).2 :=
  run_induction (P := fun t => t.resolved = true → v.Covered v.locations t) (s := .initial)
    (by simp [ViewState.initial]) (fun _ _ _ hstep ih => hstep.covered_of_resolved ih) qs

theorem cache_run_of_covered (hv : v.Serves shelves) (hcovered : v.Covered v.locations s)
    (qs : List Request) : (v.run qs s).2.cache = s.cache :=
  (run_induction (P := fun t => v.Covered v.locations t ∧ t.cache = s.cache) ⟨hcovered, rfl⟩
    (fun _ _ _ hstep ih => ⟨ih.1.mono hstep.isPrefix_cache,
      (hstep.cache_eq_of_covered hv ih.1).trans ih.2⟩) qs).2

/-- Over fixed shelves, whatever calls of the locations fail. After every run each unit has the role
of the first shelf with its name and says what the source there says, so another run, over locations
that fail otherwise, agrees with it wherever both have a unit. Once all classes were given, the
cache does not change any more. -/
theorem cache_from_first_offer {v : View} {shelves : List Shelf} (hv : v.Serves shelves)
    (qs : List Request) :
    let s := (v.run qs .initial).2
    (∀ name u, (name, u) ∈ s.cache → ∃ before shelf after source,
      shelves = before ++ shelf :: after ∧ (∀ other ∈ before, other.holds name = none) ∧
      shelf.holds name = some source ∧ u.name = name ∧ IsUnitOf shelf.role source u) ∧
    (∀ (w : View) (others : List Request), w.Serves shelves → ∀ name u u', (name, u) ∈ s.cache →
      (name, u') ∈ (w.run others .initial).2.cache → u = u') ∧
    (∀ units, (v.classes s).1 = .ok units → ∀ later,
      (v.run later (v.classes s).2).2.cache = (v.classes s).2.cache) := by
  intro s
  have hfirst : FirstOffers shelves s := firstOffers_run hv qs
  refine ⟨fun name u hu => ?_, ?_, ?_⟩
  · obtain ⟨before, shelf, after, source, hsplit, hbefore, hholds, hunit⟩ :=
      exists_shelf_of_firstUnit? (hfirst (name, u) hu)
    exact ⟨before, shelf, after, source, hsplit, hbefore, hholds,
      hunit.name.trans (shelf.named hholds), hunit⟩
  · intro w others hw name u u' hu hu'
    have h := hfirst (name, u) hu
    have h' := firstOffers_run hw others (name, u') hu'
    exact Option.some.inj (h.symm.trans h')
  · intro units hunits later
    have hresolved : (v.classes s).2.resolved = true := (resolved_classes_iff s).mpr ⟨units, hunits⟩
    have hcovered : v.Covered v.locations (v.classes s).2 :=
      (steps_classes s).induction (P := fun t => t.resolved = true → v.Covered v.locations t)
        (covered_run qs) (fun _ _ hstep ih => hstep.covered_of_resolved ih) hresolved
    exact cache_run_of_covered hv hcovered later

theorem flaky_serves : flaky.Serves [
    (MemoryStore.ofList [.declare "a" (.ofName ⟨"p", "A"⟩)]).shelf .application,
    (MemoryStore.ofList [.declare "b" (.ofName ⟨"p", "B"⟩),
      .declare "b" (.ofName ⟨"p", "A"⟩)]).shelf .library] :=
  .cons ((MemoryStore.serves_ofList _ _ _).failingFirst _ _ _)
    (.cons ((MemoryStore.serves_ofList _ _ _).failingFirst _ _ _) .nil)

/-- The shared class is that of the first store, though the second was listed, too. -/
theorem cache_from_first_offer_flaky :
    let s := (flaky.run flakyRun .initial).2
    s.cache = [
      (⟨"p", "B"⟩, .standard ⟨.library, ⟨"b", ⟨"p/B.class"⟩⟩, .ofName ⟨"p", "B"⟩⟩),
      (⟨"p", "A"⟩, .standard ⟨.application, ⟨"a", ⟨"p/A.class"⟩⟩, .ofName ⟨"p", "A"⟩⟩)] ∧
    (∀ name u, (name, u) ∈ s.cache → u.name = name) ∧
    (∃ units, (flaky.classes s).1 = .ok units) ∧
    ∀ later, (flaky.run later (flaky.classes s).2).2.cache = s.cache := by
  intro s
  obtain ⟨hunits, -, hlater⟩ := cache_from_first_offer flaky_serves flakyRun
  refine ⟨rfl, fun name u hu => ?_, ⟨_, rfl⟩, hlater _ rfl⟩
  obtain ⟨_, _, _, _, -, -, -, hname, -⟩ := hunits name u hu
  exact hname

end View

end ClassAtlas
