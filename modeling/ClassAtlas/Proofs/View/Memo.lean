import ClassAtlas.Location.Memory
import ClassAtlas.Proofs.View.Steps

/-!
# Units are kept

Whatever the locations answer, a view builds a unit once and keeps it: its
cache only grows at the end, no name comes up twice, and every build left a
unit. A full resolution that has succeeded is never made again.
-/

namespace ClassAtlas

/-- The name of the unit that is built. -/
def Action.built? : Action → Option ClassName
  | build name => some name
  | lookup .. | enumeration .. => none

namespace ViewState

def keys (s : ViewState) : List ClassName :=
  s.cache.map (·.1)

/-- The names of all units built so far, in the order of their building. -/
def builds (s : ViewState) : List ClassName :=
  s.trace.filterMap Action.built?

@[simp] theorem keys_record (s : ViewState) (a : Action) : (s.record a).keys = s.keys := rfl

@[simp] theorem keys_build (s : ViewState) (name : ClassName) (role : Role) (source : Source) :
    (s.build name role source).2.keys = s.keys ++ [name] := by
  simp [keys]

@[simp] theorem builds_record (s : ViewState) (a : Action) :
    (s.record a).builds = s.builds ++ a.built?.toList := by
  cases a <;> simp [builds, record, Action.built?]

@[simp] theorem builds_build (s : ViewState) (name : ClassName) (role : Role) (source : Source) :
    (s.build name role source).2.builds = s.builds ++ [name] :=
  builds_record s (.build name)

@[simp] theorem enumerations_record (s : ViewState) (a : Action) (i : Nat) :
    (s.record a).enumerations i = s.enumerations i ++ (a.enumerationAt? i).toList := by
  simp only [enumerations, record, List.filterMap_append]
  cases ha : a.enumerationAt? i <;> simp [ha]

@[simp] theorem enumerations_build (s : ViewState) (name : ClassName) (role : Role)
    (source : Source) (i : Nat) :
    (s.build name role source).2.enumerations i = s.enumerations i := by
  have h := enumerations_record s (.build name) i
  simp only [Action.enumerationAt?, Option.toList_none, List.append_nil] at h
  exact h

theorem cached?_eq_none_iff {s : ViewState} {name : ClassName} :
    s.cached? name = none ↔ name ∉ s.keys := by
  simp only [cached?, keys, List.lookup_eq_none_iff, bne_iff_ne, List.mem_map]
  constructor
  · rintro h ⟨entry, hentry, rfl⟩
    exact h entry hentry rfl
  · rintro h entry hentry rfl
    exact h ⟨entry, hentry, rfl⟩

theorem cached?_build_self {s : ViewState} {name : ClassName} (hnew : s.cached? name = none)
    (role : Role) (source : Source) :
    (s.build name role source).2.cached? name = some (source.build role) := by
  unfold cached? at hnew ⊢
  rw [cache_build, List.lookup_append, hnew]
  simp

end ViewState

namespace View

variable {v : View} {scope : Scope} {s s' : ViewState}

-- ---------------------------------------------------------------------------
-- One step
-- ---------------------------------------------------------------------------

theorem Step.keys_nodup (h : v.Step scope s s') (hs : s.keys.Nodup) : s'.keys.Nodup := by
  cases h with
  | lookup => exact hs
  | enumeration => exact hs
  | build hnew =>
    rw [ViewState.keys_build, List.nodup_append]
    refine ⟨hs, by simp, ?_⟩
    rintro name hname _ hsingle rfl
    rw [List.mem_singleton] at hsingle
    subst hsingle
    exact ViewState.cached?_eq_none_iff.mp hnew hname
  | finish => exact hs

theorem Step.builds_eq_keys (h : v.Step scope s s') (hs : s.builds = s.keys) :
    s'.builds = s'.keys := by
  cases h with
  | lookup => simpa [Action.built?] using hs
  | enumeration => simpa [Action.built?] using hs
  | build => simpa using hs
  | finish => exact hs

theorem Step.resolved_eq (h : v.Step .one s s') : s'.resolved = s.resolved := by
  cases h with
  | lookup => rfl
  | build => rfl

theorem Step.enumerations_eq (h : v.Step .one s s') (i : Nat) :
    s'.enumerations i = s.enumerations i := by
  cases h with
  | lookup => simp [Action.enumerationAt?]
  | build => simp

-- ---------------------------------------------------------------------------
-- One request
-- ---------------------------------------------------------------------------

/-- A unit that is given is there from then on. -/
theorem cached?_of_unit {name : ClassName} {s s' : ViewState} {u : ResolvedUnit}
    (h : v.unit name s = (.ok u, s')) : s'.cached? name = some u := by
  cases hcached : s.cached? name with
  | some old =>
    rw [unit_of_cached hcached] at h
    obtain ⟨hu, rfl⟩ := Prod.mk.inj h
    rw [hcached, Except.ok.inj hu]
  | none =>
    have hmiss := congrFun (cached?_candidates (v := v) name 0 v.locations s) name
    rw [hcached] at hmiss
    rw [unit, hcached] at h
    dsimp only at h
    cases hcs : v.candidates name 0 v.locations s with
    | mk result t =>
      rw [hcs] at h hmiss
      cases result with
      | error failure => simp at h
      | ok sources =>
        rcases sources with - | ⟨c, - | ⟨second, others⟩⟩
        · simp at h
        · obtain ⟨hu, rfl⟩ := Prod.mk.inj h
          rw [ViewState.cached?_build_self hmiss, ← Except.ok.inj hu]
          rfl
        · simp at h

theorem resolved_answer_of_one {q : Request} (hq : q.scope = .one) (s : ViewState) :
    (v.answer s q).2.resolved = s.resolved :=
  answer_induction hq (P := fun t => t.resolved = s.resolved) rfl
    fun _ _ hstep ih => hstep.resolved_eq.trans ih

theorem enumerations_answer_of_one {q : Request} (hq : q.scope = .one) (s : ViewState) (i : Nat) :
    (v.answer s q).2.enumerations i = s.enumerations i :=
  answer_induction hq (P := fun t => t.enumerations i = s.enumerations i) rfl
    fun _ _ hstep ih => (hstep.enumerations_eq i).trans ih

theorem answer_of_all {q : Request} (hq : q.scope = .all) (s : ViewState) :
    v.answer s q = (v.classes s).map .classes id := by
  cases q with
  | classes => rfl
  | stream => rfl
  | standard | module | unit | packageAnnotations | supertypes | assignable => cases hq

theorem resolved_classes_iff (s : ViewState) :
    (v.classes s).2.resolved = true ↔ ∃ units, (v.classes s).1 = .ok units := by
  cases h : s.resolved with
  | true => simp [classes_of_resolved h, h]
  | false =>
    rw [classes_of_open h, resolved_resolveAll h]
    cases (v.resolveAll 0 v.locations s).1 with
    | error failure => simp [Except.map]
    | ok done => simp [Except.map]

theorem classes_eq_of_ok {units : List ClassUnit} (h : (v.classes s).1 = .ok units) :
    units = (v.classes s).2.classes := by
  cases hresolved : s.resolved with
  | true =>
    rw [classes_of_resolved hresolved] at h ⊢
    exact (Except.ok.inj h).symm
  | false =>
    rw [classes_of_open hresolved] at h ⊢
    cases hresult : (v.resolveAll 0 v.locations s).1 with
    | error failure => simp [hresult, Except.map] at h
    | ok done =>
      rw [hresult] at h
      exact (Except.ok.inj h).symm

/-- The flag is raised by a list of all classes, and by nothing else. -/
theorem resolved_answer_iff (q : Request) (s : ViewState) :
    (v.answer s q).2.resolved = true ↔
      s.resolved = true ∨ ∃ units, (v.answer s q).1 = .classes (.ok units) := by
  cases hq : q.scope with
  | one =>
    have hreply : ∀ answer, (v.answer s q).1 ≠ .classes answer := by
      cases q <;> simp [answer, Request.scope] at hq ⊢
    simp [resolved_answer_of_one hq, hreply]
  | all =>
    rw [answer_of_all hq]
    have hclasses := resolved_classes_iff (v := v) s
    simp only [Prod.map_snd, Prod.map_fst, id_eq, Reply.classes.injEq] at hclasses ⊢
    rw [hclasses]
    refine ⟨.inr, ?_⟩
    rintro (hresolved | hunits)
    · exact ⟨_, by rw [classes_of_resolved hresolved]⟩
    · exact hunits

theorem answer_of_resolved {q : Request} (hq : q.scope = .all) (h : s.resolved = true) :
    (v.answer s q).2 = s := by
  rw [answer_of_all hq, classes_of_resolved h]
  rfl

-- ---------------------------------------------------------------------------
-- Runs
-- ---------------------------------------------------------------------------

theorem isPrefix_cache_run (qs : List Request) (s : ViewState) :
    s.cache <+: (v.run qs s).2.cache :=
  run_induction (P := fun t => s.cache <+: t.cache) (List.prefix_refl _)
    (fun _ _ _ hstep ih => ih.trans hstep.isPrefix_cache) qs

theorem resolved_run_iff (qs : List Request) (s : ViewState) :
    (v.run qs s).2.resolved = true ↔
      s.resolved = true ∨ ∃ units, Reply.classes (.ok units) ∈ (v.run qs s).1 := by
  induction qs generalizing s with
  | nil => simp
  | cons q qs ih =>
    rw [run_cons, ih, resolved_answer_iff, or_assoc]
    simp only [List.mem_cons, exists_or, eq_comm (b := (v.answer s q).1)]

theorem enumerations_run_of_resolved (h : s.resolved = true) (qs : List Request) (i : Nat) :
    (v.run qs s).2.enumerations i = s.enumerations i := by
  induction qs generalizing s with
  | nil => rfl
  | cons q qs ih =>
    have hresolved : (v.answer s q).2.resolved = true := (resolved_answer_iff q s).mpr (.inl h)
    rw [run_cons, ih hresolved]
    cases hq : q.scope with
    | one => exact enumerations_answer_of_one hq s i
    | all => rw [answer_of_resolved hq h]

/-- A request for a name with a unit leaves the state as it is, so it calls no location. -/
theorem answer_of_cached {q : Request} {name : ClassName} {u : ResolvedUnit}
    (hq : q.name? = some name) (hu : s.cached? name = some u) : (v.answer s q).2 = s := by
  rw [answer_snd_of_name? hq, unit_of_cached hu]

/-- Runs from the beginning, over any locations. No name has two units, each unit comes from one
build and there is no other build; the flag tells whether all classes were ever given. From there
on, whatever is asked next only adds to the cache, a unit that is there is given back again and
again without a call, and a raised flag ends all enumeration. -/
theorem run_memoizes (v : View) (qs : List Request) :
    let replies := (v.run qs .initial).1
    let s := (v.run qs .initial).2
    s.keys.Nodup ∧ s.builds = s.keys ∧ s.builds.length = s.cache.length ∧
    (s.resolved = true ↔ ∃ units, Reply.classes (.ok units) ∈ replies) ∧
    (∀ q, s.cache <+: (v.answer s q).2.cache) ∧
    (∀ name u, s.cached? name = some u → ∀ later, let t := (v.run later s).2
      v.unit name t = (.ok u, t) ∧
      v.standard name t = (u.expectStandard name, t) ∧
      v.module name t = (u.expectModule name, t) ∧
      ∀ q, q.name? = some name → (v.answer t q).2 = t) ∧
    (s.resolved = true → ∀ later i, (v.run later s).2.enumerations i = s.enumerations i) := by
  intro replies s
  have hkeys : s.keys.Nodup :=
    run_induction (P := fun t => t.keys.Nodup) (s := .initial) List.nodup_nil
      (fun _ _ _ hstep ih => hstep.keys_nodup ih) qs
  have hbuilds : s.builds = s.keys :=
    run_induction (P := fun t => t.builds = t.keys) rfl
      (fun _ _ _ hstep ih => hstep.builds_eq_keys ih) qs
  have hresolved : s.resolved = true ↔ ∃ units, Reply.classes (.ok units) ∈ replies :=
    (resolved_run_iff qs .initial).trans (or_iff_right Bool.false_ne_true)
  refine ⟨hkeys, hbuilds, ?_, hresolved, fun q => (v.steps_answer q s).isPrefix_cache, ?_, ?_⟩
  · rw [hbuilds, ViewState.keys, List.length_map]
  · intro name u hu later t
    have ht : t.cached? name = some u := ViewState.cached?_mono (isPrefix_cache_run later s) hu
    have hunit : v.unit name t = (.ok u, t) := unit_of_cached ht
    refine ⟨hunit, ?_, ?_, fun q hq => answer_of_cached hq ht⟩
    · rw [standard_eq, hunit]
      rfl
    · rw [module_eq, hunit]
      rfl
  · intro h later i
    exact enumerations_run_of_resolved h later i

/-- Two stores that share a class. The first cannot be listed at first, and the second cannot be
asked at first. -/
def flaky : View where
  locations := [
    ⟨(MemoryStore.ofList [.declare "a" (.ofName ⟨"p", "A"⟩)]).location "a" |>.failingFirst 0 1
      (.unreadable ⟨"a"⟩), .application⟩,
    ⟨(MemoryStore.ofList [.declare "b" (.ofName ⟨"p", "B"⟩),
      .declare "b" (.ofName ⟨"p", "A"⟩)]).location "b" |>.failingFirst 1 0
      (.unreadable ⟨"b"⟩), .library⟩]
  options _ := none

/-- A failed look-up, a failed resolution, a class on its own, then all of them. -/
def flakyRun : List Request :=
  [.unit ⟨"p", "B"⟩, .classes, .standard ⟨"p", "B"⟩, .stream]

theorem run_memoizes_flaky :
    let s := (flaky.run flakyRun .initial).2
    s.keys = [⟨"p", "B"⟩, ⟨"p", "A"⟩] ∧ s.resolved = true ∧
    ∀ later, (flaky.run later s).2.enumerations 0 = [.full, .full] ∧
      (flaky.unit ⟨"p", "B"⟩ (flaky.run later s).2).2 = (flaky.run later s).2 := by
  intro s
  have hrun := run_memoizes flaky flakyRun
  refine ⟨by rfl, by rfl, fun later => ⟨(hrun.2.2.2.2.2.2 rfl later 0).trans rfl, ?_⟩⟩
  rw [(hrun.2.2.2.2.2.1 ⟨"p", "B"⟩ _ rfl later).1]

end View

end ClassAtlas
