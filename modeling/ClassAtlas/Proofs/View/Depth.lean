import ClassAtlas.Proofs.Location.Listing
import ClassAtlas.Proofs.View.Assignability
import ClassAtlas.Proofs.View.Identity

/-!
# How deep a view searches

A class has supertypes to go on with if it is resolved already, or if some
location has it. Every place has finitely many classes and says how many, so
the generations that a view allows for are enough: more of them never change
an answer, nor what is looked up on the way to it.
-/

namespace ClassAtlas

/-! ## Places -/

/-- However it is asked, the location has no more classes than its size says. -/
def Location.Bounded (l : Location) : Prop :=
  ∀ options, ∃ names : List ClassName, names.length ≤ l.size ∧
    ∀ n name origin decl, l.lookup n name options = .ok (some (.standard origin decl)) →
      name ∈ names

theorem MemoryStore.bounded (m : MemoryStore) (name : String) : (m.location name).Bounded := by
  intro options
  refine ⟨m.sources.map Source.name, by simp [location, size], fun n name origin decl h => ?_⟩
  have hfind : m.find? name = some (.standard origin decl) := Except.ok.inj h
  rw [← MemoryStore.offersByName m _ h]
  exact List.mem_map_of_mem (List.mem_of_find?_eq_some hfind)

section Places

variable [Formats]

/-- Every file declares one class at most. -/
theorem exists_declared (options : LoadOptions) (files : List Bytes) :
    ∃ names : List ClassName, names.length ≤ files.length ∧
      ∀ bytes ∈ files, ∀ location path s, Source.ofClassFile location path options bytes = .ok s →
        s.name ∈ names := by
  induction files with
  | nil => exact ⟨[], by simp, by simp⟩
  | cons first files ih =>
    obtain ⟨names, hlength, hnames⟩ := ih
    by_cases hfirst : ∃ location path s, Source.ofClassFile location path options first = .ok s
    · obtain ⟨_, _, t, ht⟩ := hfirst
      refine ⟨t.name :: names, by simpa using hlength, ?_⟩
      intro bytes hbytes location path s hs
      rcases List.mem_cons.mp hbytes with rfl | hbytes
      · rw [Source.name_eq_of_ofClassFile hs ht]
        exact List.mem_cons_self
      · exact List.mem_cons_of_mem _ (hnames bytes hbytes location path s hs)
    · refine ⟨names, by rw [List.length_cons]; omega, ?_⟩
      intro bytes hbytes location path s hs
      rcases List.mem_cons.mp hbytes with rfl | hbytes
      · exact absurd ⟨location, path, s, hs⟩ hfirst
      · exact hnames bytes hbytes location path s hs

/-- A location is bounded if whatever it has of classes is in one of so many files. -/
theorem Location.bounded_of_files {l : Location} (hnames : l.OffersByName) (files : List Bytes)
    (hsize : files.length ≤ l.size)
    (hfiles : ∀ {n name options origin decl},
      l.lookup n name options = .ok (some (.standard origin decl)) →
      ∃ bytes ∈ files, ∃ location path,
        Source.ofClassFile location path options bytes = .ok (.standard origin decl)) :
    l.Bounded := by
  intro options
  obtain ⟨names, hlength, hdeclared⟩ := exists_declared options files
  refine ⟨names, hlength.trans hsize, fun n name origin decl h => ?_⟩
  obtain ⟨bytes, hbytes, location, path, hdecode⟩ := hfiles h
  rw [← hnames h]
  exact hdeclared bytes hbytes location path _ hdecode

omit [Formats] in
theorem FileSystem.mem_contents_of_read? {fs : FileSystem} {p : Path} {bytes : Bytes}
    (h : fs.read? p = some bytes) : bytes ∈ fs.root.files.map (·.2) := by
  obtain ⟨-, names, -, hat⟩ := exists_of_find? (read?_eq_some_iff.mp h)
  exact List.mem_map_of_mem (FileTree.mem_files_of_at? hat)

theorem Directory.bounded (d : Directory) (fs : FileSystem) : (d.location fs).Bounded := by
  refine Location.bounded_of_files (d.offersByName fs) (fs.root.files.map (·.2)) ?_ ?_
  · rw [List.length_map, FileTree.length_files]
    rfl
  · intro n name options origin decl h
    cases hname : name.isModuleInfo with
    | true =>
      simp only [location, lookup, hname, if_true] at h
      obtain ⟨found, hfound, hfilter⟩ := bind_eq_ok_iff.mp h
      obtain ⟨rfl, -⟩ := Option.filter_eq_some_iff.mp (Except.ok.inj hfilter)
      obtain ⟨descriptor, hdescriptor⟩ := exists_module_of_moduleSource hfound
      cases hdescriptor
    | false =>
      have hlookup : d.lookup fs name options = .ok (some (.standard origin decl)) := h
      obtain ⟨bytes, hfind, hdecode, -⟩ := (lookup_eq_some_iff hname).mp hlookup
      exact ⟨bytes, FileSystem.mem_contents_of_read? (FileSystem.read?_eq_some_iff.mpr hfind), _, _,
        hdecode⟩

theorem SingleFile.bounded (f : SingleFile) (fs : FileSystem) : (f.location fs).Bounded := by
  refine Location.bounded_of_files (f.offersByName fs) (fs.read? f.path).toList ?_ ?_
  · cases fs.read? f.path <;> simp [location]
  · intro n name options origin decl h
    simp only [location, lookup] at h
    split at h
    · cases h
    · obtain ⟨source, hsource, h⟩ := bind_eq_ok_iff.mp h
      split at h
      · cases h
        unfold SingleFile.source at hsource
        split at hsource
        · cases hsource
        · next bytes hbytes => exact ⟨bytes, by simp [hbytes], _, _, hsource⟩
      · cases h

/-- The contents of entries that can be read. -/
def Archive.contents (a : Archive) : List Bytes :=
  a.entries.filterMap (·.2.toOption)

omit [Formats] in
theorem Jar.mem_contents_of_entryBytes {j : Jar} {a : Archive} {entry : String} {bytes : Bytes}
    (h : j.entryBytes a entry = .ok (some bytes)) : bytes ∈ a.contents := by
  unfold entryBytes at h
  split at h
  · cases h
  · next content hentry =>
    cases h
    obtain ⟨before, after, hsplit, -⟩ := List.lookup_eq_some_iff.mp hentry
    exact List.mem_filterMap.mpr ⟨(entry, .ok bytes), by simp [hsplit], rfl⟩
  · cases h

omit [Formats] in
theorem Jar.exists_module_of_moduleSource {j : Jar} {a : Archive} {s : Source}
    (h : j.moduleSource a = .ok (some s)) : ∃ origin descriptor, s = .module origin descriptor := by
  unfold moduleSource at h
  split at h
  · obtain ⟨content, -, h⟩ := bind_eq_ok_iff.mp h
    cases content with
    | none => cases h
    | some bytes =>
      obtain ⟨source, hdecode, h⟩ := bind_eq_ok_iff.mp h
      cases h
      exact ⟨_, Source.exists_module_of_ofModuleFile hdecode⟩
  · cases h

theorem Jar.bounded (j : Jar) (fs : FileSystem) : (j.location fs).Bounded := by
  cases harchive : j.archive fs with
  | error failure =>
    refine fun options => ⟨[], Nat.zero_le _, fun n name origin decl h => ?_⟩
    simp only [location, lookup, harchive] at h
    cases h
  | ok a =>
    refine Location.bounded_of_files (j.offersByName fs) a.contents ?_ ?_
    · simp only [location, size, harchive]
      exact List.length_filterMap_le _ _
    · intro n name options origin decl h
      simp only [location, lookup, harchive] at h
      obtain ⟨_, harchive', h⟩ := bind_eq_ok_iff.mp h
      cases harchive'
      unfold lookupIn at h
      split at h
      · obtain ⟨found, hfound, hfilter⟩ := bind_eq_ok_iff.mp h
        obtain ⟨rfl, -⟩ := Option.filter_eq_some_iff.mp (Except.ok.inj hfilter)
        obtain ⟨_, _, hmodule⟩ := exists_module_of_moduleSource hfound
        cases hmodule
      · obtain ⟨found, hfound, h⟩ := bind_eq_ok_iff.mp h
        obtain ⟨content, hcontent, hfound⟩ := bind_eq_ok_iff.mp hfound
        cases content with
        | none =>
          cases hfound
          cases h
        | some bytes =>
          obtain ⟨source, hdecode, hsource⟩ := bind_eq_ok_iff.mp hfound
          cases hsource
          obtain ⟨checked, hexpect, h⟩ := bind_eq_ok_iff.mp h
          obtain ⟨-, rfl⟩ := Source.expect_eq_ok_iff.mp hexpect
          cases h
          exact ⟨bytes, mem_contents_of_entryBytes hcontent, _, _, hdecode⟩

theorem Place.bounded (p : Place) (fs : FileSystem) : (p.location fs).Bounded := by
  cases p with
  | memory name store => exact store.bounded name
  | directory d => exact d.bounded fs
  | jar j => exact j.bounded fs
  | singleFile f => exact f.bounded fs

end Places

/-! ## Views -/

namespace View

open Subtyping

variable {v : View} {s : ViewState}

/-- Some location has the class. -/
def Offers (v : View) (name : ClassName) : Prop :=
  ∃ r ∈ v.locations, ∃ origin decl, v.Answers r name (some (.standard origin decl))

/-- What is resolved once a class was asked for was so before, or is the unit of a location that
has this class. -/
theorem cached?_unit {name c : ClassName} {u : ResolvedUnit}
    (h : (v.unit name s).2.cached? c = some u) :
    s.cached? c = some u ∨ c = name ∧ ∃ r ∈ v.locations, ∃ source,
      v.Answers r name (some source) ∧ source.build r.role = u := by
  cases hcached : s.cached? name with
  | some _ =>
    rw [unit_of_cached hcached] at h
    exact .inl h
  | none =>
    have hcalls := congrFun (cached?_candidates (v := v) name 0 v.locations s) c
    rw [View.unit, hcached] at h
    dsimp only at h
    cases hcs : v.candidates name 0 v.locations s with
    | mk result s' =>
      rw [hcs] at hcalls h
      rcases result with failure | _ | ⟨candidate, _ | ⟨_, _⟩⟩
      · exact .inl (hcalls ▸ h)
      · exact .inl (hcalls ▸ h)
      · obtain ⟨before, after, hsplit, hfound, -⟩ := answers_of_candidates_singleton hcs
        rw [ViewState.cached?, ViewState.cache_build, List.lookup_append,
          Option.or_eq_some_iff] at h
        rcases h with hold | ⟨-, hnew⟩
        · exact .inl (hcalls ▸ hold)
        · obtain ⟨_, _, hbuilt, -⟩ := List.lookup_eq_some_iff.mp hnew
          have hmem : (c, u) ∈ [(name, candidate.source.build candidate.registered.role)] := by
            simp [hbuilt]
          obtain ⟨rfl, rfl⟩ := Prod.mk.inj (List.mem_singleton.mp hmem)
          exact .inr ⟨rfl, candidate.registered, by simp [hsplit], _, hfound, rfl⟩
      · exact .inl (hcalls ▸ h)

/-- A class that is resolved was so before, or some location has it. -/
theorem offers_of_unit {name c : ClassName} {unit : ClassUnit}
    (h : (v.unit name s).2.cached? c = some (.standard unit)) :
    s.cached? c = some (.standard unit) ∨ v.Offers c := by
  rcases cached?_unit h with hold | ⟨rfl, r, hr, source, hanswers, hbuild⟩
  · exact .inl hold
  · cases source with
    | standard origin decl => exact .inr ⟨r, hr, origin, decl, hanswers⟩
    | module origin descriptor => cases hbuild

/-- Every class that is asked for along a search and has supertypes was resolved before, or some
location has it. -/
theorem offers_of_asked {s' : ViewState} (h : Asked v.supertypes s s') {c d : ClassName}
    (hdeclares : s'.Declares c d) : c ∈ s.keys ∨ v.Offers c := by
  induction h with
  | refl => exact .inl hdeclares.mem_keys
  | tail _ hlast ih =>
    obtain ⟨name, rfl⟩ := hlast
    obtain ⟨unit, hunit, hd⟩ := hdeclares
    rw [supertypes_snd] at hunit
    rcases offers_of_unit hunit with hold | hoffers
    · exact ih ⟨unit, hold, hd⟩
    · exact .inr hoffers

/-- Locations have no more classes than their sizes make together. -/
theorem exists_offered (rs : List Registered) (hrs : ∀ r ∈ rs, r.location.Bounded) :
    ∃ names : List ClassName,
      (∀ r ∈ rs, ∀ c origin decl, v.Answers r c (some (.standard origin decl)) → c ∈ names) ∧
      ∀ n, names.length + n ≤ rs.foldr (·.location.size + ·) n := by
  induction rs with
  | nil => exact ⟨[], by simp, by simp⟩
  | cons r rs ih =>
    obtain ⟨hr, hrs⟩ := List.forall_mem_cons.mp hrs
    obtain ⟨own, hsize, hown⟩ := hr (v.optionsFor r.location)
    obtain ⟨others, hothers, hlength⟩ := ih hrs
    refine ⟨own ++ others, List.forall_mem_cons.mpr ⟨?_, ?_⟩, fun n => ?_⟩
    · rintro c origin decl ⟨n, hlookup⟩
      exact List.mem_append_left _ (hown n c origin decl hlookup)
    · intro other hother c origin decl hanswers
      exact List.mem_append_right _ (hothers other hother c origin decl hanswers)
    · have hrest := hlength n
      rw [List.length_append, List.foldr_cons]
      omega

/-- The bound on generations does not show: more of them give the same answer in the same state. -/
theorem assignable_eq_of_depth_le (hv : ∀ r ∈ v.locations, r.location.Bounded)
    (source target : JavaType) {fuel : Nat} (hfuel : v.depth s ≤ fuel) :
    Subtyping.assignable v.supertypes fuel source target s = v.assignable source target s := by
  obtain ⟨names, hnames, hlength⟩ := exists_offered (v := v) v.locations hv
  have hbound (s' : ViewState) (hasked : Asked v.supertypes s s') (c d : ClassName) (_ : True)
      (hcd : s'.Declares c d) : True ∧ c ∈ (s.keys ++ names).toFinset := by
    refine ⟨trivial, List.mem_toFinset.mpr (List.mem_append.mpr ?_)⟩
    refine (offers_of_asked hasked hcd).imp_right ?_
    rintro ⟨r, hr, origin, decl, hanswers⟩
    exact hnames r hr c origin decl hanswers
  have hcard : (s.keys ++ names).toFinset.card ≤ s.cache.length + names.length := by
    simpa [ViewState.keys] using List.toFinset_card_le (s.keys ++ names)
  have hdepth : names.length + (s.cache.length + 2) ≤ v.depth s := hlength _
  rw [View.assignable]
  rcases assignable_cases source target v.supertypes with ⟨answer, heq⟩ | ⟨sub, super, heq⟩
  · rw [heq, heq]
  · rw [heq, heq]
    exact learns_supertypes.isSubclass_eq_of_le hbound trivial (by omega) hfuel

/-- Over any places, in any formats and in any state. -/
theorem assignable_ofPlaces [Formats] (fs : FileSystem) (places : List (Place × Role))
    (options : Location → Option LoadOptions) (source target : JavaType) (s : ViewState)
    {fuel : Nat} (hfuel : (ofPlaces fs places options).depth s ≤ fuel) :
    Subtyping.assignable (ofPlaces fs places options).supertypes fuel source target s =
      (ofPlaces fs places options).assignable source target s := by
  refine assignable_eq_of_depth_le ?_ source target hfuel
  intro r hr
  obtain ⟨⟨place, role⟩, -, rfl⟩ := List.mem_map.mp hr
  exact place.bounded fs

end View

end ClassAtlas
