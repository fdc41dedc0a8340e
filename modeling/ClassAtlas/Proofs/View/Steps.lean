import ClassAtlas.Proofs.Subtyping.Search
import ClassAtlas.View

/-!
# Steps of a view

Whatever is asked of a view, its state changes in small steps: a location is
called, a unit is built under a name that has none, or the end of a full
resolution is noted. Every request is a sequence of such steps, so what each
step keeps is kept by every run.
-/

namespace ClassAtlas

-- ---------------------------------------------------------------------------
-- Units
-- ---------------------------------------------------------------------------

/-- Of a class a unit says what the source says, of a module what is proper in its descriptor. -/
structure IsUnitOf (role : Role) (source : Source) (u : ResolvedUnit) : Prop where
  role : u.role = role
  origin : u.origin = source.origin
  name : u.name = source.name
  declares : ∀ {origin decl}, source = .standard origin decl → u = .standard ⟨u.role, origin, decl⟩
  describes : ∀ {origin d}, source = .module origin d → ∃ m, u = .module m ∧
    m.moduleName = d.name ∧ m.modifiers = d.modifiers ∧ m.requires = d.requiredModules ∧
    m.exports = d.exportedPackages ∧ m.opens = d.openedPackages ∧
    m.provides = d.providedServices ∧ m.uses = d.usedServices

theorem Source.isUnitOf_build (role : Role) (source : Source) :
    IsUnitOf role source (source.build role) where
  role := source.role_build role
  origin := source.origin_build role
  name := source.name_build role
  declares := by
    rintro origin decl rfl
    rfl
  describes := by
    rintro origin d rfl
    exact ⟨_, rfl, rfl, rfl, rfl, rfl, rfl, rfl, rfl⟩

-- ---------------------------------------------------------------------------
-- Requests
-- ---------------------------------------------------------------------------

/-- What can be asked of a view. -/
inductive Request where
  | standard (name : ClassName)
  | module (name : ClassName)
  | unit (name : ClassName)
  | classes
  /-- All classes, to be gone through one by one. -/
  | stream
  | packageAnnotations (package : String)
  | supertypes (name : ClassName)
  | assignable (source target : JavaType)
deriving DecidableEq

inductive Reply where
  | standard (answer : Except Failure ClassUnit)
  | module (answer : Except Failure ModuleUnit)
  | unit (answer : Except Failure ResolvedUnit)
  | classes (answer : Except Failure (List ClassUnit))
  | packageAnnotations (answer : Except Failure (List Annotation))
  | supertypes (names : List ClassName)
  | assignable (answer : Bool)

/-- Whether single classes are asked for, or all. -/
inductive Scope where
  | one
  | all
deriving DecidableEq

def Request.scope : Request → Scope
  | classes | stream => .all
  | _ => .one

/-- The class that a request is for. -/
def Request.name? : Request → Option ClassName
  | standard name | module name | unit name | supertypes name => some name
  | packageAnnotations package => some (.packageInfo package)
  | classes | stream | assignable .. => none

namespace ResolvedUnit

/-- The class proper that was asked for by its name. -/
def expectStandard (name : ClassName) : ResolvedUnit → Except Failure ClassUnit
  | standard c => .ok c
  | module _ => .error (.wrongKind name .standard .module)

/-- The module that was asked for by its name. -/
def expectModule (name : ClassName) : ResolvedUnit → Except Failure ModuleUnit
  | standard _ => .error (.wrongKind name .module .standard)
  | module m => .ok m

end ResolvedUnit

namespace View

def answer (v : View) (s : ViewState) : Request → Reply × ViewState
  | .standard name => (v.standard name s).map .standard id
  | .module name => (v.module name s).map .module id
  | .unit name => (v.unit name s).map .unit id
  | .classes | .stream => (v.classes s).map .classes id
  | .packageAnnotations package => (v.packageAnnotations package s).map .packageAnnotations id
  | .supertypes name => (v.supertypes name s).map .supertypes id
  | .assignable source target => (v.assignable source target s).map .assignable id

/-- Answers requests one after the other. A request that fails does not end the run. -/
def run (v : View) : List Request → ViewState → List Reply × ViewState
  | [], s => ([], s)
  | q :: qs, s =>
    match v.answer s q with
    | (reply, s) =>
      match v.run qs s with
      | (replies, s) => (reply :: replies, s)

@[simp] theorem run_nil (v : View) (s : ViewState) : v.run [] s = ([], s) := rfl

@[simp] theorem run_cons (v : View) (q : Request) (qs : List Request) (s : ViewState) :
    v.run (q :: qs) s =
      ((v.answer s q).1 :: (v.run qs (v.answer s q).2).1, (v.run qs (v.answer s q).2).2) := rfl

-- ---------------------------------------------------------------------------
-- Steps
-- ---------------------------------------------------------------------------

/-- At some time the location answers a look-up in this way. -/
def Answers (v : View) (r : Registered) (name : ClassName) (found : Option Source) : Prop :=
  ∃ n, r.location.lookup n name (v.optionsFor r.location) = .ok found

/-- At some time the location lists these sources. -/
def Lists (v : View) (r : Registered) (sources : List Source) : Prop :=
  ∃ n, r.location.enumerate n (v.optionsFor r.location) = .ok sources

/-- Why a source is built under a name. -/
inductive Finds (v : View) (name : ClassName) (role : Role) (source : Source) : Prop where
  /-- Of all locations only one has the name. -/
  | alone {before after : List Registered} {r : Registered}
      (hsplit : v.locations = before ++ r :: after) (hrole : r.role = role)
      (hfound : v.Answers r name (some source))
      (hothers : ∀ other ∈ before ++ after, v.Answers other name none)
  /-- A location lists the source, and those before it list none with its name. -/
  | first {before after : List Registered} {r : Registered} {sources : List Source}
      (hsplit : v.locations = before ++ r :: after) (hrole : r.role = role)
      (hlists : v.Lists r sources) (hsource : source ∈ sources) (hname : source.name = name)
      (hbefore : ∀ other ∈ before, ∃ listed, v.Lists other listed ∧ ∀ t ∈ listed, t.name ≠ name)

/-- All sources that some location lists have a unit under their names. -/
def Covered (v : View) (rs : List Registered) (s : ViewState) : Prop :=
  ∀ r ∈ rs, ∃ sources, v.Lists r sources ∧ ∀ t ∈ sources, (s.cached? t.name).isSome

/-- What can happen while one class or all of them are asked for. -/
inductive Step (v : View) : Scope → ViewState → ViewState → Prop where
  | lookup {s : ViewState} (i : Nat) (name : ClassName) (options : LoadOptions) :
      v.Step .one s (s.record (.lookup i name options))
  | enumeration {s : ViewState} (i : Nat) (options : LoadOptions) :
      v.Step .all s (s.record (.enumeration i options))
  | build {scope : Scope} {s : ViewState} {name : ClassName} {role : Role} {source : Source}
      (hnew : s.cached? name = none) (hfinds : v.Finds name role source) :
      v.Step scope s (s.build name role source).2
  | finish {s : ViewState} (hopen : s.resolved = false) (hcovered : v.Covered v.locations s) :
      v.Step .all s { s with resolved := true }

abbrev Steps (v : View) (scope : Scope) : ViewState → ViewState → Prop :=
  Relation.ReflTransGen (v.Step scope)

end View

-- ---------------------------------------------------------------------------
-- Caches
-- ---------------------------------------------------------------------------

namespace ViewState

@[simp] theorem cache_record (s : ViewState) (a : Action) : (s.record a).cache = s.cache := rfl

@[simp] theorem resolved_record (s : ViewState) (a : Action) :
    (s.record a).resolved = s.resolved := rfl

@[simp] theorem cached?_record (s : ViewState) (a : Action) (name : ClassName) :
    (s.record a).cached? name = s.cached? name := rfl

@[simp] theorem resolved_build (s : ViewState) (name : ClassName) (role : Role) (source : Source) :
    (s.build name role source).2.resolved = s.resolved := rfl

@[simp] theorem cache_build (s : ViewState) (name : ClassName) (role : Role) (source : Source) :
    (s.build name role source).2.cache = s.cache ++ [(name, source.build role)] := rfl

theorem cached?_mono {s s' : ViewState} (h : s.cache <+: s'.cache) {name : ClassName}
    {u : ResolvedUnit} (hu : s.cached? name = some u) : s'.cached? name = some u := by
  obtain ⟨new, hnew⟩ := h
  unfold cached? at hu ⊢
  rw [← hnew, List.lookup_append, hu]
  rfl

theorem isSome_cached?_mono {s s' : ViewState} (h : s.cache <+: s'.cache) {name : ClassName}
    (hs : (s.cached? name).isSome) : (s'.cached? name).isSome := by
  obtain ⟨u, hu⟩ := Option.isSome_iff_exists.mp hs
  rw [cached?_mono h hu]
  rfl

theorem isSome_cached?_build (s : ViewState) (name : ClassName) (role : Role) (source : Source) :
    ((s.build name role source).2.cached? name).isSome := by
  simp [cached?, List.lookup_append]

end ViewState

namespace View

theorem Step.isPrefix_cache {v : View} {scope : Scope} {s s' : ViewState} (h : v.Step scope s s') :
    s.cache <+: s'.cache := by
  cases h with
  | lookup => exact List.prefix_refl _
  | enumeration => exact List.prefix_refl _
  | build => exact List.prefix_append _ _
  | finish => exact List.prefix_refl _

theorem Steps.induction {v : View} {scope : Scope} {P : ViewState → Prop} {s s' : ViewState}
    (h : v.Steps scope s s') (hs : P s) (hstep : ∀ s s', v.Step scope s s' → P s → P s') :
    P s' := by
  induction h with
  | refl => exact hs
  | tail _ hlast ih => exact hstep _ _ hlast ih

theorem Steps.isPrefix_cache {v : View} {scope : Scope} {s s' : ViewState}
    (h : v.Steps scope s s') : s.cache <+: s'.cache :=
  h.induction (P := fun t => s.cache <+: t.cache) (List.prefix_refl _)
    fun _ _ hstep ih => ih.trans hstep.isPrefix_cache

-- ---------------------------------------------------------------------------
-- One class
-- ---------------------------------------------------------------------------

variable {v : View}

theorem steps_candidates (name : ClassName) (i : Nat) (rs : List Registered) (s : ViewState) :
    v.Steps .one s (v.candidates name i rs s).2 := by
  induction rs generalizing i s with
  | nil => exact .refl
  | cons r rs ih =>
    have hcall := Step.lookup (v := v) (s := s) i name (v.optionsFor r.location)
    rw [candidates]
    cases r.location.lookup (s.lookups i).length name (v.optionsFor r.location) with
    | error failure => exact .single hcall
    | ok found =>
      have hrest := ih (i + 1) (s.record (.lookup i name (v.optionsFor r.location)))
      dsimp only
      split
      all_goals
        next heq =>
          rw [heq] at hrest
          exact .head hcall hrest

/-- Looking up builds nothing. -/
theorem cached?_candidates (name : ClassName) (i : Nat) (rs : List Registered) (s : ViewState) :
    (v.candidates name i rs s).2.cached? = s.cached? := by
  induction rs generalizing i s with
  | nil => rfl
  | cons r rs ih =>
    rw [candidates]
    cases r.location.lookup (s.lookups i).length name (v.optionsFor r.location) with
    | error failure => rfl
    | ok found =>
      have hrest := ih (i + 1) (s.record (.lookup i name (v.optionsFor r.location)))
      dsimp only
      split
      all_goals
        next heq =>
          rw [heq] at hrest
          exact hrest

/-- If no location fails, each gives its answer in turn. -/
theorem candidates_cons_ok {name : ClassName} {i : Nat} {r : Registered} {rs : List Registered}
    {s s' : ViewState} {cs : List Candidate} (h : v.candidates name i (r :: rs) s = (.ok cs, s')) :
    ∃ found others, v.Answers r name found ∧
      v.candidates name (i + 1) rs (s.record (.lookup i name (v.optionsFor r.location))) =
        (.ok others, s') ∧
      cs = (found.map (⟨r, ·⟩)).toList ++ others := by
  rw [candidates] at h
  cases hanswer : r.location.lookup (s.lookups i).length name (v.optionsFor r.location) with
  | error failure => simp [hanswer] at h
  | ok found =>
    simp only [hanswer] at h
    split at h
    · simp at h
    · next others s'' heq =>
      obtain ⟨hcs, rfl⟩ := Prod.mk.inj h
      exact ⟨found, others, ⟨_, hanswer⟩, heq, (Except.ok.inj hcs).symm⟩

theorem answers_of_candidates_nil {name : ClassName} {i : Nat} {rs : List Registered}
    {s s' : ViewState} (h : v.candidates name i rs s = (.ok [], s')) :
    ∀ r ∈ rs, v.Answers r name none := by
  induction rs generalizing i s with
  | nil => simp
  | cons r rs ih =>
    obtain ⟨found, others, hfound, hrest, hcs⟩ := candidates_cons_ok h
    obtain ⟨hnone, rfl⟩ := List.append_eq_nil_iff.mp hcs.symm
    have hfound' : found = none := by simpa using hnone
    intro other hmem
    rcases List.mem_cons.mp hmem with rfl | hmem
    · exact hfound' ▸ hfound
    · exact ih hrest other hmem

theorem answers_of_candidates_singleton {name : ClassName} {i : Nat} {rs : List Registered}
    {s s' : ViewState} {c : Candidate} (h : v.candidates name i rs s = (.ok [c], s')) :
    ∃ before after, rs = before ++ c.registered :: after ∧
      v.Answers c.registered name (some c.source) ∧
      ∀ other ∈ before ++ after, v.Answers other name none := by
  induction rs generalizing i s with
  | nil => simp [candidates] at h
  | cons r rs ih =>
    obtain ⟨found, others, hfound, hrest, hcs⟩ := candidates_cons_ok h
    cases found with
    | some source =>
      simp only [Option.map_some, Option.toList_some, List.singleton_append,
        List.cons.injEq] at hcs
      obtain ⟨rfl, rfl⟩ := hcs
      exact ⟨[], rs, rfl, hfound, answers_of_candidates_nil hrest⟩
    | none =>
      simp only [Option.map_none, Option.toList_none, List.nil_append] at hcs
      subst hcs
      obtain ⟨before, after, rfl, hc, hothers⟩ := ih hrest
      refine ⟨r :: before, after, rfl, hc, ?_⟩
      intro other hmem
      rcases List.mem_cons.mp hmem with rfl | hmem
      · exact hfound
      · exact hothers other hmem

/-- A unit that is there is given back, and nothing else happens. -/
theorem unit_of_cached {name : ClassName} {s : ViewState} {u : ResolvedUnit}
    (h : s.cached? name = some u) : v.unit name s = (.ok u, s) := by
  simp [unit, h]

theorem steps_unit (name : ClassName) (s : ViewState) : v.Steps .one s (v.unit name s).2 := by
  cases hcached : s.cached? name with
  | some u => rw [unit_of_cached hcached]
  | none =>
    have hcalls := steps_candidates (v := v) name 0 v.locations s
    have hmiss := congrFun (cached?_candidates (v := v) name 0 v.locations s) name
    rw [hcached] at hmiss
    rw [unit, hcached]
    dsimp only
    cases hcs : v.candidates name 0 v.locations s with
    | mk result s' =>
      rw [hcs] at hcalls hmiss
      match result with
      | .error failure => exact hcalls
      | .ok [] => exact hcalls
      | .ok [c] =>
        obtain ⟨before, after, hsplit, hfound, hothers⟩ := answers_of_candidates_singleton hcs
        exact hcalls.tail (.build hmiss (.alone hsplit rfl hfound hothers))
      | .ok (_ :: _ :: _) => exact hcalls

theorem standard_eq (name : ClassName) (s : ViewState) :
    v.standard name s =
      ((v.unit name s).1.bind (ResolvedUnit.expectStandard name), (v.unit name s).2) := by
  rw [standard]
  cases v.unit name s with
  | mk answer s' =>
    match answer with
    | .error failure => rfl
    | .ok (.standard c) => rfl
    | .ok (.module m) => rfl

theorem module_eq (name : ClassName) (s : ViewState) :
    v.module name s =
      ((v.unit name s).1.bind (ResolvedUnit.expectModule name), (v.unit name s).2) := by
  rw [module]
  cases v.unit name s with
  | mk answer s' =>
    match answer with
    | .error failure => rfl
    | .ok (.standard c) => rfl
    | .ok (.module m) => rfl

theorem packageAnnotations_snd (package : String) (s : ViewState) :
    (v.packageAnnotations package s).2 = (v.unit (.packageInfo package) s).2 := by
  have hstate := congrArg Prod.snd (standard_eq (v := v) (.packageInfo package) s)
  rw [packageAnnotations]
  split <;> simp_all

theorem supertypes_snd (name : ClassName) (s : ViewState) :
    (v.supertypes name s).2 = (v.unit name s).2 := by
  have hstate := congrArg Prod.snd (standard_eq (v := v) name s)
  rw [supertypes]
  split <;> simp_all

/-- All that a request for one class does is to get the unit of the class. -/
theorem answer_snd_of_name? {q : Request} {name : ClassName} (h : q.name? = some name)
    (s : ViewState) : (v.answer s q).2 = (v.unit name s).2 := by
  cases q with
  | standard | module | unit | supertypes | packageAnnotations =>
    cases h
    simp [answer, standard_eq, module_eq, packageAnnotations_snd, supertypes_snd]
  | classes | stream | assignable => cases h

-- ---------------------------------------------------------------------------
-- All classes
-- ---------------------------------------------------------------------------

theorem Covered.mono {rs : List Registered} {s s' : ViewState} (h : v.Covered rs s)
    (hcache : s.cache <+: s'.cache) : v.Covered rs s' := by
  intro r hr
  obtain ⟨sources, hlists, hcached⟩ := h r hr
  exact ⟨sources, hlists, fun t ht => ViewState.isSome_cached?_mono hcache (hcached t ht)⟩

/-- A name without unit is listed nowhere among covered locations. -/
theorem Covered.not_listed {rs : List Registered} {s : ViewState} (h : v.Covered rs s)
    {name : ClassName} (hnew : s.cached? name = none) :
    ∀ r ∈ rs, ∃ listed, v.Lists r listed ∧ ∀ t ∈ listed, t.name ≠ name := by
  intro r hr
  obtain ⟨listed, hlists, hcached⟩ := h r hr
  refine ⟨listed, hlists, ?_⟩
  rintro t ht rfl
  simpa [hnew] using hcached t ht

theorem steps_absorb {role : Role} {sources : List Source} {s : ViewState}
    (h : ∀ t ∈ sources, s.cached? t.name = none → v.Finds t.name role t) :
    v.Steps .all s (absorb role sources s) := by
  induction sources generalizing s with
  | nil => exact .refl
  | cons source sources ih =>
    rw [absorb]
    split
    · exact ih fun t ht => h t (List.mem_cons_of_mem _ ht)
    · next hnew =>
      have hbuild : v.Step .all s (s.build source.name role source).2 :=
        .build hnew (h source List.mem_cons_self hnew)
      refine .head hbuild (ih fun t ht hnone => h t (List.mem_cons_of_mem _ ht) ?_)
      -- What has no unit afterwards had none before.
      rw [← Option.not_isSome_iff_eq_none] at hnone ⊢
      exact fun hsome => hnone (ViewState.isSome_cached?_mono hbuild.isPrefix_cache hsome)

theorem isPrefix_cache_absorb (role : Role) (sources : List Source) (s : ViewState) :
    s.cache <+: (absorb role sources s).cache := by
  fun_induction absorb role sources s with
  | case1 s => exact List.prefix_refl _
  | case2 s source sources _ _ ih => exact ih
  | case3 s source sources _ ih => exact (List.prefix_append _ _).trans ih

theorem isSome_cached?_absorb {role : Role} {sources : List Source} {s : ViewState} {t : Source}
    (h : t ∈ sources) : ((absorb role sources s).cached? t.name).isSome := by
  fun_induction absorb role sources s with
  | case1 s => simp at h
  | case2 s source sources u hu ih =>
    rcases List.mem_cons.mp h with rfl | h
    · rw [ViewState.cached?_mono (isPrefix_cache_absorb _ _ _) hu]
      rfl
    · exact ih h
  | case3 s source sources _ ih =>
    rcases List.mem_cons.mp h with rfl | h
    · exact ViewState.isSome_cached?_mono (isPrefix_cache_absorb _ _ _)
        (ViewState.isSome_cached?_build _ _ _ _)
    · exact ih h

@[simp] theorem resolved_absorb (role : Role) (sources : List Source) (s : ViewState) :
    (absorb role sources s).resolved = s.resolved := by
  fun_induction absorb role sources s with
  | case1 s => rfl
  | case2 s source sources _ _ ih => exact ih
  | case3 s source sources _ ih => exact ih

/-- Goes on behind the locations `before`, whose sources all have their units. -/
theorem steps_resolveAll (before : List Registered) {rs : List Registered} {i : Nat} {s : ViewState}
    (hsplit : v.locations = before ++ rs) (hopen : s.resolved = false)
    (hcovered : v.Covered before s) : v.Steps .all s (v.resolveAll i rs s).2 := by
  induction rs generalizing before i s with
  | nil =>
    rw [List.append_nil] at hsplit
    exact .single (.finish hopen (hsplit ▸ hcovered))
  | cons r rs ih =>
    have hcall := Step.enumeration (v := v) (s := s) i (v.optionsFor r.location)
    rw [resolveAll]
    cases hanswer : r.location.enumerate (s.enumerations i).length (v.optionsFor r.location) with
    | error failure => exact .single hcall
    | ok sources =>
      have hlists : v.Lists r sources := ⟨_, hanswer⟩
      have habsorb : v.Steps .all (s.record (.enumeration i (v.optionsFor r.location)))
          (absorb r.role sources (s.record (.enumeration i (v.optionsFor r.location)))) :=
        steps_absorb fun t ht hnew =>
          .first hsplit rfl hlists ht rfl (hcovered.not_listed hnew)
      refine .head hcall (habsorb.trans (ih (before ++ [r]) ?_ ?_ ?_))
      · rw [hsplit, List.append_assoc]
        rfl
      · rw [resolved_absorb]
        exact hopen
      · intro other hother
        rcases List.mem_append.mp hother with hother | hother
        · exact hcovered.mono (hcall.isPrefix_cache.trans habsorb.isPrefix_cache) other hother
        · rw [List.mem_singleton] at hother
          subst hother
          exact ⟨sources, hlists, fun t ht => isSome_cached?_absorb ht⟩

theorem resolved_resolveAll {i : Nat} {rs : List Registered} {s : ViewState}
    (hopen : s.resolved = false) :
    (v.resolveAll i rs s).2.resolved = true ↔ (v.resolveAll i rs s).1 = .ok () := by
  induction rs generalizing i s with
  | nil => simp [resolveAll]
  | cons r rs ih =>
    rw [resolveAll]
    cases r.location.enumerate (s.enumerations i).length (v.optionsFor r.location) with
    | error failure => simp [hopen]
    | ok sources =>
      refine ih ?_
      rw [resolved_absorb]
      exact hopen

theorem classes_of_resolved {s : ViewState} (h : s.resolved = true) :
    v.classes s = (.ok s.classes, s) := by
  simp [classes, h]

theorem classes_of_open {s : ViewState} (h : s.resolved = false) :
    v.classes s = ((v.resolveAll 0 v.locations s).1.map fun _ =>
      (v.resolveAll 0 v.locations s).2.classes, (v.resolveAll 0 v.locations s).2) := by
  rw [classes, h]
  cases v.resolveAll 0 v.locations s with
  | mk result s' => cases result <;> rfl

theorem steps_classes (s : ViewState) : v.Steps .all s (v.classes s).2 := by
  cases h : s.resolved with
  | true => rw [classes_of_resolved h]
  | false =>
    rw [classes_of_open h]
    exact steps_resolveAll [] rfl h (by simp [Covered])

end View

-- ---------------------------------------------------------------------------
-- Runs
-- ---------------------------------------------------------------------------

namespace View

theorem steps_supertypes {v : View} (name : ClassName) (s : ViewState) :
    v.Steps .one s (v.supertypes name s).2 := by
  rw [supertypes_snd]
  exact steps_unit name s

theorem steps_answer (v : View) (q : Request) (s : ViewState) :
    v.Steps q.scope s (v.answer s q).2 := by
  cases q with
  | classes => exact steps_classes s
  | stream => exact steps_classes s
  | assignable source target =>
    exact Subtyping.steps_assignable steps_supertypes _ source target s
  | standard | module | unit | packageAnnotations | supertypes =>
    rw [answer_snd_of_name? rfl]
    exact steps_unit _ s

theorem answer_induction {v : View} {q : Request} {scope : Scope} (hq : q.scope = scope)
    {P : ViewState → Prop} {s : ViewState} (hs : P s)
    (hstep : ∀ s s', v.Step scope s s' → P s → P s') : P (v.answer s q).2 := by
  subst hq
  exact (v.steps_answer q s).induction hs hstep

/-- What every step keeps is kept by every run. -/
theorem run_induction {v : View} {P : ViewState → Prop} {s : ViewState} (hs : P s)
    (hstep : ∀ scope s s', v.Step scope s s' → P s → P s') (qs : List Request) :
    P (v.run qs s).2 := by
  induction qs generalizing s with
  | nil => exact hs
  | cons q qs ih => exact ih (answer_induction rfl hs (hstep q.scope))

end View

end ClassAtlas
