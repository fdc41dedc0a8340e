import ClassAtlas.Proofs.View.FirstOffer

/-!
# Trying again

A full resolution that fails has taken up the locations in front of the one
that failed, and the next one comes to them again. Where locations always list
the same sources, if they list any, nothing is taken up twice, so in the end
the cache is the same as if the first attempt had succeeded.
-/

namespace ClassAtlas

-- ---------------------------------------------------------------------------
-- Offers
-- ---------------------------------------------------------------------------

/-- The first unit for every name that is not known, in the order of the offers. -/
def additions (known : List ClassName) (offers : List (ClassName × ResolvedUnit)) :
    List (ClassName × ResolvedUnit) :=
  (offers.filter (·.1 ∉ known)).eraseDupsBy fun offer other => offer.1 == other.1

/-- The cache with what it takes up of the offers. -/
def takeUp (cache offers : List (ClassName × ResolvedUnit)) : List (ClassName × ResolvedUnit) :=
  cache ++ additions (cache.map (·.1)) offers

section Offers

variable {cache offers more : List (ClassName × ResolvedUnit)} {offer : ClassName × ResolvedUnit}

@[simp] theorem takeUp_nil (cache : List (ClassName × ResolvedUnit)) : takeUp cache [] = cache := by
  simp [takeUp, additions]

theorem takeUp_cons_of_mem (h : offer.1 ∈ cache.map (·.1)) :
    takeUp cache (offer :: offers) = takeUp cache offers := by
  unfold takeUp additions
  rw [List.filter_cons_of_neg (by simpa using h)]

theorem takeUp_cons_of_not_mem (h : offer.1 ∉ cache.map (·.1)) :
    takeUp cache (offer :: offers) = takeUp (cache ++ [offer]) offers := by
  -- What has the name of the offer is dropped behind it, as if the name had been known.
  have hrest : (offers.filter (·.1 ∉ cache.map (·.1))).filter
      (fun other => decide ((other.1 == offer.1) = false)) =
      offers.filter (·.1 ∉ (cache ++ [offer]).map (·.1)) := by
    rw [List.filter_filter]
    refine List.filter_congr fun other _ => ?_
    rw [Bool.eq_iff_iff]
    simp [and_comm]
  unfold takeUp additions
  rw [List.filter_cons_of_pos (by simpa using h), List.eraseDupsBy_cons, hrest, List.append_assoc]
  rfl

theorem takeUp_append (cache offers more : List (ClassName × ResolvedUnit)) :
    takeUp cache (offers ++ more) = takeUp (takeUp cache offers) more := by
  induction offers generalizing cache with
  | nil => simp
  | cons offer offers ih =>
    rw [List.cons_append]
    by_cases h : offer.1 ∈ cache.map (·.1)
    · rw [takeUp_cons_of_mem h, takeUp_cons_of_mem h, ih]
    · rw [takeUp_cons_of_not_mem h, takeUp_cons_of_not_mem h, ih]

theorem takeUp_of_known (h : ∀ offer ∈ offers, offer.1 ∈ cache.map (·.1)) :
    takeUp cache offers = cache := by
  induction offers with
  | nil => simp
  | cons offer offers ih =>
    rw [takeUp_cons_of_mem (h offer List.mem_cons_self)]
    exact ih fun other hother => h other (List.mem_cons_of_mem _ hother)

theorem isPrefix_takeUp (cache offers : List (ClassName × ResolvedUnit)) :
    cache <+: takeUp cache offers :=
  List.prefix_append _ _

theorem mem_names_takeUp (h : offer ∈ offers) : offer.1 ∈ (takeUp cache offers).map (·.1) := by
  have hmono : ∀ {cache more : List (ClassName × ResolvedUnit)} {name : ClassName},
      name ∈ cache.map (·.1) → name ∈ (takeUp cache more).map (·.1) := fun hname =>
    ((isPrefix_takeUp _ _).map _).subset hname
  induction offers generalizing cache with
  | nil => cases h
  | cons first offers ih =>
    by_cases hfirst : first.1 ∈ cache.map (·.1)
    · rw [takeUp_cons_of_mem hfirst]
      rcases List.mem_cons.mp h with rfl | h
      · exact hmono hfirst
      · exact ih h
    · rw [takeUp_cons_of_not_mem hfirst]
      rcases List.mem_cons.mp h with rfl | h
      · exact hmono (by simp)
      · exact ih h

/-- What was taken up of the first offers is passed over when all of them come. -/
theorem takeUp_again (h : offers <+: more) :
    takeUp (takeUp cache offers) more = takeUp cache more := by
  obtain ⟨rest, rfl⟩ := h
  rw [takeUp_append (takeUp cache offers), takeUp_of_known (fun offer => mem_names_takeUp),
    ← takeUp_append]

end Offers

-- ---------------------------------------------------------------------------
-- Catalogues
-- ---------------------------------------------------------------------------

/-- What a location lists, whenever it lists anything. -/
structure Catalogue where
  role : Role
  sources : List Source

/-- The units of the sources in their order. -/
def Catalogue.units (c : Catalogue) : List (ClassName × ResolvedUnit) :=
  c.sources.map fun source => (source.name, source.build c.role)

/-- An offer is a source under its name, as a unit. -/
def Catalogue.Offers (c : Catalogue) (source : Source) (offer : ClassName × ResolvedUnit) : Prop :=
  offer.1 = source.name ∧ IsUnitOf c.role source offer.2

theorem Catalogue.offers_units (c : Catalogue) : List.Forall₂ c.Offers c.sources c.units := by
  unfold units
  induction c.sources with
  | nil => exact .nil
  | cons source sources ih => exact .cons ⟨rfl, source.isUnitOf_build c.role⟩ ih

/-- Whenever the location lists anything, it lists these sources. -/
def Location.ListsOnly (l : Location) (sources : List Source) : Prop :=
  ∀ n options found, l.enumerate n options = .ok found → found = sources

theorem MemoryStore.listsOnly (m : MemoryStore) (name : String) :
    (m.location name).ListsOnly m.sources :=
  fun _ _ _ h => (Except.ok.inj h).symm

theorem Location.ListsOnly.failingFirst {l : Location} {sources : List Source}
    (h : l.ListsOnly sources) (lookups enumerations : Nat) (failure : Failure) :
    (l.failingFirst lookups enumerations failure).ListsOnly sources := by
  intro n options found hfound
  simp only [Location.failingFirst] at hfound
  split at hfound
  · cases hfound
  · exact h n options found hfound

namespace View

structure PublishesAt (v : View) (r : Registered) (c : Catalogue) : Prop where
  role : r.role = c.role
  lists : ∀ {sources}, v.Lists r sources → sources = c.sources

def Publishes (v : View) (catalogues : List Catalogue) : Prop :=
  List.Forall₂ v.PublishesAt v.locations catalogues

theorem publishesAt_of_listsOnly (v : View) {l : Location} {sources : List Source}
    (h : l.ListsOnly sources) (role : Role) : v.PublishesAt ⟨l, role⟩ ⟨role, sources⟩ where
  role := rfl
  lists := by
    rintro found ⟨n, hfound⟩
    exact h n _ found hfound

/-- No location ever fails to list its sources. -/
def Steady (v : View) : Prop :=
  ∀ r ∈ v.locations, ∀ n, ∃ sources, r.location.enumerate n (v.optionsFor r.location) = .ok sources

variable {v : View} {catalogues : List Catalogue} {s : ViewState}

-- ---------------------------------------------------------------------------
-- One attempt
-- ---------------------------------------------------------------------------

theorem cache_absorb (role : Role) (sources : List Source) (s : ViewState) :
    (absorb role sources s).cache =
      takeUp s.cache (sources.map fun source => (source.name, source.build role)) := by
  fun_induction absorb role sources s with
  | case1 s => simp
  | case2 source sources s u hu ih =>
    have hknown : source.name ∈ s.cache.map (·.1) := by
      by_contra hnew
      rw [ViewState.cached?_eq_none_iff.mpr hnew] at hu
      cases hu
    rw [ih, List.map_cons, takeUp_cons_of_mem hknown]
  | case3 source sources s hnone ih =>
    have hnew : source.name ∉ s.cache.map (·.1) := ViewState.cached?_eq_none_iff.mp hnone
    rw [ih, List.map_cons, takeUp_cons_of_not_mem hnew, ViewState.cache_build]

@[simp] theorem enumerations_absorb (role : Role) (sources : List Source) (s : ViewState)
    (i : Nat) : (absorb role sources s).enumerations i = s.enumerations i := by
  fun_induction absorb role sources s with
  | case1 s => rfl
  | case2 source sources s _ _ ih => exact ih
  | case3 source sources s _ ih => rw [ih, ViewState.enumerations_build]

/-- One location is listed and taken up. -/
theorem cache_absorb_of_lists {r : Registered} {c : Catalogue} {sources : List Source}
    (hr : v.PublishesAt r c) (hlists : v.Lists r sources) (a : Action) :
    (absorb r.role sources (s.record a)).cache = takeUp s.cache c.units := by
  rw [cache_absorb, ViewState.cache_record, hr.role, hr.lists hlists]
  rfl

theorem cache_resolveAll_of_ok {i : Nat} {rs : List Registered}
    (hrs : List.Forall₂ v.PublishesAt rs catalogues) (h : (v.resolveAll i rs s).1 = .ok ()) :
    (v.resolveAll i rs s).2.cache = takeUp s.cache (catalogues.flatMap Catalogue.units) := by
  induction hrs generalizing i s with
  | nil => simp [resolveAll]
  | @cons r c rs catalogues hr _ ih =>
    rw [resolveAll] at h ⊢
    cases hanswer : r.location.enumerate (s.enumerations i).length (v.optionsFor r.location) with
    | error failure => simp [hanswer] at h
    | ok sources =>
      simp only [hanswer] at h ⊢
      rw [ih h, cache_absorb_of_lists hr ⟨_, hanswer⟩, List.flatMap_cons, takeUp_append]

/-- A failure of the location at the given place ends the attempt; what stands before it is taken
up, and nothing else. -/
theorem cache_resolveAll_of_error {i : Nat} {rs : List Registered} {failure : Failure}
    (hrs : List.Forall₂ v.PublishesAt rs catalogues)
    (h : (v.resolveAll i rs s).1 = .error failure) :
    ∃ k r, rs[k]? = some r ∧
      r.location.enumerate (s.enumerations (i + k)).length (v.optionsFor r.location) =
        .error failure ∧
      (v.resolveAll i rs s).2.cache =
        takeUp s.cache ((catalogues.take k).flatMap Catalogue.units) := by
  induction hrs generalizing i s with
  | nil => simp [resolveAll] at h
  | @cons r c rs catalogues hr _ ih =>
    rw [resolveAll] at h ⊢
    cases hanswer : r.location.enumerate (s.enumerations i).length (v.optionsFor r.location) with
    | error other =>
      simp only [hanswer, Except.error.injEq] at h
      subst h
      exact ⟨0, r, rfl, hanswer, by simp⟩
    | ok sources =>
      simp only [hanswer] at h ⊢
      obtain ⟨k, failing, hk, hfails, hcache⟩ := ih h
      refine ⟨k + 1, failing, hk, ?_, ?_⟩
      · have hother : i ≠ i + (k + 1) := by omega
        rw [Nat.add_right_comm, Nat.add_assoc] at hfails
        simpa [Action.enumerationAt?, hother] using hfails
      · rw [hcache, cache_absorb_of_lists hr ⟨_, hanswer⟩, List.take_succ_cons, List.flatMap_cons,
          takeUp_append]

theorem Steady.exists_classes (hv : v.Steady) (s : ViewState) :
    ∃ units, (v.classes s).1 = .ok units := by
  have hresolve : ∀ {rs : List Registered} {i : Nat} {s : ViewState}, (∀ r ∈ rs, r ∈ v.locations) →
      (v.resolveAll i rs s).1 = .ok () := by
    intro rs
    induction rs with
    | nil => exact fun _ => rfl
    | cons r rs ih =>
      intro i s hrs
      obtain ⟨sources, hsources⟩ := hv r (hrs r List.mem_cons_self) (s.enumerations i).length
      rw [resolveAll, hsources]
      exact ih fun other hother => hrs other (List.mem_cons_of_mem _ hother)
  cases hresolved : s.resolved with
  | true => exact ⟨_, congrArg Prod.fst (classes_of_resolved hresolved)⟩
  | false =>
    rw [classes_of_open hresolved, hresolve fun r hr => hr]
    exact ⟨_, rfl⟩

-- ---------------------------------------------------------------------------
-- Attempts
-- ---------------------------------------------------------------------------

/-- Nothing is left to be taken up once all locations were listed. -/
theorem Covered.takeUp_eq (hcovered : v.Covered v.locations s) (hv : v.Publishes catalogues) :
    takeUp s.cache (catalogues.flatMap Catalogue.units) = s.cache := by
  apply takeUp_of_known
  intro offer hoffer
  obtain ⟨c, hc, hoffer⟩ := List.mem_flatMap.mp hoffer
  obtain ⟨source, hsource, rfl⟩ := List.mem_map.mp hoffer
  obtain ⟨k, hk, rfl⟩ := List.getElem_of_mem hc
  have hlt : k < v.locations.length := hv.length_eq ▸ hk
  obtain ⟨sources, hlists, hcached⟩ := hcovered v.locations[k] (List.getElem_mem hlt)
  have hsources := (hv.get hlt hk).lists hlists
  by_contra hnew
  have hsome := hcached source (hsources ▸ hsource)
  rw [ViewState.cached?_eq_none_iff.mpr hnew] at hsome
  cases hsome

theorem cache_classes_of_ok (hv : v.Publishes catalogues)
    (hs : s.resolved = true → takeUp s.cache (catalogues.flatMap Catalogue.units) = s.cache)
    {units : List ClassUnit} (h : (v.classes s).1 = .ok units) :
    (v.classes s).2.cache = takeUp s.cache (catalogues.flatMap Catalogue.units) := by
  cases hresolved : s.resolved with
  | true => rw [classes_of_resolved hresolved, hs hresolved]
  | false =>
    rw [classes_of_open hresolved] at h ⊢
    refine cache_resolveAll_of_ok hv ?_
    cases hresult : (v.resolveAll 0 v.locations s).1 with
    | error failure => simp [hresult, Except.map] at h
    | ok done => rfl

theorem cache_classes_of_error (hv : v.Publishes catalogues) {failure : Failure}
    (h : (v.classes s).1 = .error failure) :
    ∃ k r, v.locations[k]? = some r ∧
      r.location.enumerate (s.enumerations k).length (v.optionsFor r.location) = .error failure ∧
      (v.classes s).2.resolved = false ∧
      (v.classes s).2.cache =
        takeUp s.cache ((catalogues.take k).flatMap Catalogue.units) := by
  have hstays : (v.classes s).2.resolved = false := by
    rw [Bool.eq_false_iff, ne_eq, resolved_classes_iff, h]
    simp
  cases hresolved : s.resolved with
  | true => simp [classes_of_resolved hresolved] at h
  | false =>
    rw [classes_of_open hresolved] at h hstays ⊢
    cases hresult : (v.resolveAll 0 v.locations s).1 with
    | ok done => simp [hresult, Except.map] at h
    | error other =>
      obtain rfl : other = failure := by simpa [hresult, Except.map] using h
      obtain ⟨k, r, hk, hfails, hcache⟩ := cache_resolveAll_of_error hv hresult
      rw [Nat.zero_add] at hfails
      exact ⟨k, r, hk, hfails, hstays, hcache⟩

/-- However many attempts fail, the first that does not leads to the same cache. -/
theorem cache_classes_after_failures (hv : v.Publishes catalogues)
    (hs : s.resolved = true → takeUp s.cache (catalogues.flatMap Catalogue.units) = s.cache)
    {tries : List Request} (htries : ∀ q ∈ tries, q.scope = .all)
    (hfail : ∀ reply ∈ (v.run tries s).1, ∃ failure, reply = .classes (.error failure))
    {units : List ClassUnit} (h : (v.classes (v.run tries s).2).1 = .ok units) :
    (v.classes (v.run tries s).2).2.cache =
      takeUp s.cache (catalogues.flatMap Catalogue.units) := by
  induction tries generalizing s with
  | nil => exact cache_classes_of_ok hv hs h
  | cons q tries ih =>
    have hanswer : v.answer s q = (v.classes s).map .classes id :=
      answer_of_all (htries q List.mem_cons_self) s
    rw [run_cons, hanswer] at hfail h ⊢
    obtain ⟨failure, hfailure⟩ := hfail _ List.mem_cons_self
    obtain ⟨k, r, -, -, hopen, hcache⟩ := cache_classes_of_error hv (Reply.classes.inj hfailure)
    have hprefix : (catalogues.take k).flatMap Catalogue.units <+:
        catalogues.flatMap Catalogue.units := by
      conv_rhs => rw [← List.take_append_drop k catalogues, List.flatMap_append]
      exact List.prefix_append _ _
    rw [ih (fun hresolved => ?_) (fun other hother => htries other (List.mem_cons_of_mem _ hother))
      (fun reply hreply => hfail reply (List.mem_cons_of_mem _ hreply)) h]
    · exact (congrArg (takeUp · _) hcache).trans (takeUp_again hprefix)
    · exact absurd hresolved (by simp [hopen])

/-- Locations with fixed lists, in any state that requests lead to. An attempt to get all classes
that fails leaves the flag down and takes up what the locations before the failing one list, nothing
else. After any number of such attempts, one that succeeds has added the first unit of every other
name, location by location, each in its own order, and gives the classes of the cache. Had no
location failed, the first attempt would have given just that. The units offered have the roles of
their locations and say what the sources say. -/
theorem classes_after_failures {v : View} {catalogues : List Catalogue}
    (hv : v.Publishes catalogues) (qs : List Request) :
    let s := (v.run qs .initial).2
    (∀ c ∈ catalogues, List.Forall₂ c.Offers c.sources c.units) ∧
    (∀ failure, (v.classes s).1 = .error failure → ∃ k r, v.locations[k]? = some r ∧
      r.location.enumerate (s.enumerations k).length (v.optionsFor r.location) = .error failure ∧
      (v.classes s).2.resolved = false ∧
      (v.classes s).2.cache =
        s.cache ++ additions s.keys ((catalogues.take k).flatMap Catalogue.units)) ∧
    (∀ tries units, (∀ q ∈ tries, q.scope = .all) →
      (∀ reply ∈ (v.run tries s).1, ∃ failure, reply = .classes (.error failure)) →
      let t := (v.run tries s).2
      (v.classes t).1 = .ok units →
        (v.classes t).2.cache = s.cache ++ additions s.keys (catalogues.flatMap Catalogue.units) ∧
        units = (v.classes t).2.cache.filterMap (·.2.standard?) ∧
        ∀ w : View, w.Publishes catalogues → w.Steady →
          (w.classes s).1 = .ok units ∧ (w.classes s).2.cache = (v.classes t).2.cache) := by
  intro s
  have hs : s.resolved = true → takeUp s.cache (catalogues.flatMap Catalogue.units) = s.cache :=
    fun hresolved => (covered_run qs hresolved).takeUp_eq hv
  refine ⟨fun c _ => c.offers_units, fun failure => cache_classes_of_error hv, ?_⟩
  intro tries units htries hfail t hunits
  have hcache := cache_classes_after_failures hv hs htries hfail hunits
  have hlist : units = (v.classes t).2.classes := classes_eq_of_ok hunits
  refine ⟨hcache, hlist, ?_⟩
  intro w hw hsteady
  obtain ⟨others, hothers⟩ := hsteady.exists_classes s
  have hsame : (w.classes s).2.cache = (v.classes t).2.cache :=
    (cache_classes_of_ok hw hs hothers).trans hcache.symm
  refine ⟨?_, hsame⟩
  rw [hothers, classes_eq_of_ok hothers, hlist, ViewState.classes, ViewState.classes, hsame]

/-- Two stores that share a class. The second cannot be listed at first. -/
def stumbling : View where
  locations := [
    ⟨(MemoryStore.ofList [.declare "a" (.ofName ⟨"p", "A"⟩)]).location "a", .application⟩,
    ⟨(MemoryStore.ofList [.declare "b" (.ofName ⟨"p", "B"⟩), .declare "b" (.ofName ⟨"p", "A"⟩),
      .declare "b" (.ofName ⟨"p", "C"⟩)]).location "b" |>.failingFirst 0 1 (.unreadable ⟨"b"⟩),
      .library⟩]
  options _ := none

theorem stumbling_publishes : stumbling.Publishes [
    ⟨.application, [.declare "a" (.ofName ⟨"p", "A"⟩)]⟩,
    ⟨.library, [.declare "b" (.ofName ⟨"p", "B"⟩), .declare "b" (.ofName ⟨"p", "A"⟩),
      .declare "b" (.ofName ⟨"p", "C"⟩)]⟩] :=
  .cons (publishesAt_of_listsOnly _ (MemoryStore.listsOnly _ _) _)
    (.cons (publishesAt_of_listsOnly _ ((MemoryStore.listsOnly _ _).failingFirst _ _ _) _) .nil)

/-- One class is there before the attempts, the shared one is added by the first of them, which
fails, and the last one by the second. -/
theorem classes_after_failures_stumbling :
    let s := (stumbling.run [.unit ⟨"p", "B"⟩] .initial).2
    let t := (stumbling.run [.classes] s).2
    s.keys = [⟨"p", "B"⟩] ∧ t.keys = [⟨"p", "B"⟩, ⟨"p", "A"⟩] ∧ t.resolved = false ∧
    (stumbling.classes t).2.keys = [⟨"p", "B"⟩, ⟨"p", "A"⟩, ⟨"p", "C"⟩] ∧
    (stumbling.classes t).2.cache = s.cache ++
      [(⟨"p", "A"⟩, .standard ⟨.application, ⟨"a", ⟨"p/A.class"⟩⟩, .ofName ⟨"p", "A"⟩⟩),
        (⟨"p", "C"⟩, .standard ⟨.library, ⟨"b", ⟨"p/C.class"⟩⟩, .ofName ⟨"p", "C"⟩⟩)] := by
  intro s t
  have hafter := (classes_after_failures stumbling_publishes [.unit ⟨"p", "B"⟩]).2.2 [.classes] _
    (by simp [Request.scope]) (by rintro reply hreply; exact ⟨_, List.mem_singleton.mp hreply⟩) rfl
  exact ⟨rfl, rfl, rfl, rfl, hafter.1⟩

end View

end ClassAtlas
