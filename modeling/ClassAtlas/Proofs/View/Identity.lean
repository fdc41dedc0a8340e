import ClassAtlas.Place
import ClassAtlas.Proofs.Location.Alike
import ClassAtlas.Proofs.View.Memo

/-!
# Units and their names

A view keeps what it finds under the name that was asked for and does not look
at the name that the source declares. That the two agree is up to the
locations, and every kind of place sees to it in its own way. So no unit is
ever kept or given under the name of another, whatever the files hold and
however they are read.
-/

namespace ClassAtlas

/-! ## Locations -/

/-- What is offered under a name declares that name. -/
def Location.OffersByName (l : Location) : Prop :=
  ∀ {n name options source}, l.lookup n name options = .ok (some source) → source.name = name

/-- Of the source of a module only the one with the right name is left. -/
theorem name_of_filter {name : ClassName} {found : Option Source} {source : Source}
    (h : found.filter (·.name == name) = some source) : source.name = name := by
  simpa using (Option.filter_eq_some_iff.mp h).2

theorem MemoryStore.offersByName (m : MemoryStore) (name : String) :
    (m.location name).OffersByName := by
  intro n name options source h
  have hfind : m.find? name = some source := Except.ok.inj h
  simpa using List.find?_some hfind

section Places

variable [Formats]

theorem Directory.offersByName (d : Directory) (fs : FileSystem) :
    (d.location fs).OffersByName := by
  intro n name options source h
  simp only [location, lookup] at h
  split at h
  · obtain ⟨found, -, hfound⟩ := bind_eq_ok_iff.mp h
    exact name_of_filter (Except.ok.inj hfound)
  · split at h
    · cases h
    · obtain ⟨decoded, -, h⟩ := bind_eq_ok_iff.mp h
      obtain ⟨checked, hexpect, h⟩ := bind_eq_ok_iff.mp h
      obtain ⟨hname, rfl⟩ := Source.expect_eq_ok_iff.mp hexpect
      cases h
      exact hname

theorem Jar.offersByName (j : Jar) (fs : FileSystem) : (j.location fs).OffersByName := by
  intro n name options source h
  simp only [location, lookup] at h
  obtain ⟨archive, -, h⟩ := bind_eq_ok_iff.mp h
  unfold lookupIn at h
  split at h
  · obtain ⟨found, -, hfound⟩ := bind_eq_ok_iff.mp h
    exact name_of_filter (Except.ok.inj hfound)
  · obtain ⟨found, -, h⟩ := bind_eq_ok_iff.mp h
    cases found with
    | none => cases h
    | some decoded =>
      obtain ⟨checked, hexpect, h⟩ := bind_eq_ok_iff.mp h
      obtain ⟨hname, rfl⟩ := Source.expect_eq_ok_iff.mp hexpect
      cases h
      exact hname

theorem SingleFile.offersByName (f : SingleFile) (fs : FileSystem) :
    (f.location fs).OffersByName := by
  intro n name options source h
  simp only [location, lookup] at h
  split at h
  · cases h
  · obtain ⟨decoded, -, h⟩ := bind_eq_ok_iff.mp h
    by_cases hname : decoded.name = name
    · rw [if_pos hname] at h
      cases h
      exact hname
    · rw [if_neg hname] at h
      cases h

theorem Place.offersByName (p : Place) (fs : FileSystem) : (p.location fs).OffersByName := by
  cases p with
  | memory name store => exact store.offersByName name
  | directory d => exact d.offersByName fs
  | jar j => exact j.offersByName fs
  | singleFile f => exact f.offersByName fs

end Places

/-! ## Views -/

/-- All units are kept under their own names. -/
def ViewState.OwnNames (s : ViewState) : Prop :=
  ∀ entry ∈ s.cache, entry.2.name = entry.1

theorem ViewState.OwnNames.name_eq {s : ViewState} (h : s.OwnNames) {name : ClassName}
    {u : ResolvedUnit} (hu : s.cached? name = some u) : u.name = name := by
  obtain ⟨before, after, hsplit, -⟩ := List.lookup_eq_some_iff.mp hu
  exact h (name, u) (by simp [hsplit])

theorem ViewState.OwnNames.sublist_classes {s : ViewState} (h : s.OwnNames) :
    (s.classes.map (·.decl.name)).Sublist s.keys := by
  unfold OwnNames at h
  unfold classes keys
  generalize s.cache = entries at h ⊢
  induction entries with
  | nil => exact .slnil
  | cons entry rest ih =>
    obtain ⟨name, u⟩ := entry
    have hrest := ih fun entry hentry => h entry (List.mem_cons_of_mem _ hentry)
    cases u with
    | standard c =>
      obtain rfl : c.decl.name = name := h (name, .standard c) List.mem_cons_self
      exact hrest.cons_cons _
    | module m => exact hrest.cons _

namespace View

variable {v : View} {scope : Scope} {s s' : ViewState}

theorem Finds.name_eq (hv : ∀ r ∈ v.locations, r.location.OffersByName) {name : ClassName}
    {role : Role} {source : Source} (h : v.Finds name role source) : source.name = name := by
  cases h with
  | @alone before after r hsplit _ hfound _ =>
    obtain ⟨n, hlookup⟩ := hfound
    exact hv r (by simp [hsplit]) hlookup
  | first _ _ _ _ hname _ => exact hname

theorem Step.ownNames (hv : ∀ r ∈ v.locations, r.location.OffersByName)
    (h : v.Step scope s s') (hs : s.OwnNames) : s'.OwnNames := by
  cases h with
  | lookup => exact hs
  | enumeration => exact hs
  | build _ hfinds =>
    intro entry hentry
    rw [ViewState.cache_build, List.mem_append, List.mem_singleton] at hentry
    rcases hentry with hold | rfl
    · exact hs entry hold
    · rw [Source.name_build]
      exact hfinds.name_eq hv
  | finish => exact hs

theorem ownNames_run (hv : ∀ r ∈ v.locations, r.location.OffersByName) (qs : List Request) :
    (v.run qs .initial).2.OwnNames :=
  run_induction (P := ViewState.OwnNames) (s := .initial)
    (by simp [ViewState.OwnNames, ViewState.initial])
    (fun _ _ _ hstep ih => hstep.ownNames hv ih) qs

theorem name_of_unit (hv : ∀ r ∈ v.locations, r.location.OffersByName) (hs : s.OwnNames)
    {name : ClassName} {u : ResolvedUnit} (h : (v.unit name s).1 = .ok u) : u.name = name := by
  have hcached : (v.unit name s).2.cached? name = some u := cached?_of_unit (Prod.ext h rfl)
  have hown : (v.unit name s).2.OwnNames :=
    (steps_unit name s).induction hs fun _ _ hstep ih => hstep.ownNames hv ih
  exact hown.name_eq hcached

/-- The view of places in a file system. -/
def ofPlaces [Formats] (fs : FileSystem) (places : List (Place × Role))
    (options : Location → Option LoadOptions) : View where
  locations := places.map fun (place, role) => ⟨place.location fs, role⟩
  options := options

theorem offersByName_ofPlaces [Formats] (fs : FileSystem) (places : List (Place × Role))
    (options : Location → Option LoadOptions) :
    ∀ r ∈ (ofPlaces fs places options).locations, r.location.OffersByName := by
  intro r hr
  obtain ⟨⟨place, role⟩, -, rfl⟩ := List.mem_map.mp hr
  exact place.offersByName fs

/-- Over any places, in any formats, after any requests. -/
theorem cache_under_own_names [Formats] (fs : FileSystem) (places : List (Place × Role))
    (options : Location → Option LoadOptions) (qs : List Request) :
    let v := ofPlaces fs places options
    let s := (v.run qs .initial).2
    (∀ name u, (name, u) ∈ s.cache → u.name = name) ∧
    (∀ name u, (v.unit name s).1 = .ok u → u.name = name) ∧
    (∀ name c, (v.standard name s).1 = .ok c → c.decl.name = name) ∧
    (∀ name m, (v.module name s).1 = .ok m → m.name = name) ∧
    (∀ units, (v.classes s).1 = .ok units → (units.map (·.decl.name)).Nodup) := by
  intro v s
  have hv := offersByName_ofPlaces fs places options
  have hown : s.OwnNames := ownNames_run hv qs
  refine ⟨fun name u hu => hown (name, u) hu, fun name u hu => name_of_unit hv hown hu, ?_, ?_, ?_⟩
  · intro name c hc
    rw [standard_eq] at hc
    obtain ⟨u, hu, hc⟩ := bind_eq_ok_iff.mp hc
    cases u with
    | standard unit =>
      cases hc
      exact name_of_unit hv hown hu
    | module unit => cases hc
  · intro name m hm
    rw [module_eq] at hm
    obtain ⟨u, hu, hm⟩ := bind_eq_ok_iff.mp hm
    cases u with
    | standard unit => cases hm
    | module unit =>
      cases hm
      exact name_of_unit hv hown hu
  · intro units hunits
    have hkeys : s.keys.Nodup :=
      run_induction (P := fun t => t.keys.Nodup) (s := .initial) List.nodup_nil
        (fun _ _ _ hstep ih => hstep.keys_nodup ih) qs
    have hkept : (v.classes s).2.keys.Nodup ∧ (v.classes s).2.OwnNames :=
      (steps_classes s).induction (P := fun t => t.keys.Nodup ∧ t.OwnNames) ⟨hkeys, hown⟩
        fun _ _ hstep ih => ⟨hstep.keys_nodup ih.1, hstep.ownNames hv ih.2⟩
    rw [classes_eq_of_ok hunits]
    exact hkept.2.sublist_classes.nodup hkept.1

end View

end ClassAtlas
