import ClassAtlas.Proofs.View.Memo

/-!
# Assignability over time

A view learns about supertypes while it searches them: a class that cannot be
resolved has none for the moment. What it has learned it keeps, so an
assignment that was once allowed is allowed for good.
-/

namespace ClassAtlas

namespace ViewState

/-- A class is resolved, and it declares the supertype. -/
def Declares (s : ViewState) (c d : ClassName) : Prop :=
  ∃ unit, s.cached? c = some (.standard unit) ∧ d ∈ unit.decl.supertypes

theorem Declares.mono {s s' : ViewState} (hcache : s.cache <+: s'.cache) {c d : ClassName}
    (h : s.Declares c d) : s'.Declares c d := by
  obtain ⟨unit, hunit, hd⟩ := h
  exact ⟨unit, cached?_mono hcache hunit, hd⟩

theorem Declares.mem_keys {s : ViewState} {c d : ClassName} (h : s.Declares c d) :
    c ∈ s.keys := by
  obtain ⟨unit, hunit, -⟩ := h
  by_contra hc
  rw [cached?_eq_none_iff.mpr hc] at hunit
  cases hunit

end ViewState

namespace View

open Subtyping

variable {v : View}

/-! ## What a view learns -/

theorem declares_of_mem_supertypes {c d : ClassName} {s : ViewState}
    (h : d ∈ (v.supertypes c s).1) : (v.supertypes c s).2.Declares c d := by
  rw [supertypes, standard_eq] at *
  cases hunit : v.unit c s with
  | mk answer s' =>
    rw [hunit] at h
    cases answer with
    | error failure => simp [Except.bind] at h
    | ok unit =>
      cases unit with
      | standard unit => exact ⟨unit, cached?_of_unit hunit, h⟩
      | module m => simp [Except.bind, ResolvedUnit.expectStandard] at h

theorem mem_supertypes_of_declares {c d : ClassName} {s : ViewState} (h : s.Declares c d) :
    d ∈ (v.supertypes c s).1 := by
  obtain ⟨unit, hunit, hd⟩ := h
  rw [supertypes, standard_eq, unit_of_cached hunit]
  exact hd

theorem learns_supertypes : Learns v.supertypes ViewState.Declares where
  keeps c s _ _ h := h.mono (steps_supertypes c s).isPrefix_cache
  told _ _ _ h := declares_of_mem_supertypes h
  tells _ _ _ h := mem_supertypes_of_declares h

/-! ## Searches at different times -/

theorem isSubclass_persists {fuel more : Nat} {sub super : ClassName} {s t : ViewState}
    (h : (isSubclass v.supertypes fuel sub super s).1 = true)
    (hcache : (isSubclass v.supertypes fuel sub super s).2.cache <+: t.cache)
    (hmore : t.cache.length ≤ more) : (isSubclass v.supertypes more sub super t).1 = true := by
  rcases learns_supertypes.below_of_isSubclass h with rfl | rfl | hpath
  · simp [isSubclass]
  · simp [isSubclass]
  · have hpath : Relation.TransGen t.Declares sub super :=
      Relation.TransGen.mono (fun _ _ hdeclares => hdeclares.mono hcache) _ _ hpath
    have hshort : Within t.Declares t.keys.toFinset.card sub super :=
      within_card_of_transGen (fun _ _ hdeclares => List.mem_toFinset.mpr hdeclares.mem_keys) hpath
    have hcard : t.keys.toFinset.card ≤ t.cache.length := by
      simpa [ViewState.keys] using List.toFinset_card_le t.keys
    exact learns_supertypes.isSubclass_of_within
      (hshort.mono (fun _ _ => id) (hcard.trans hmore))

theorem length_cache_le_depth (v : View) (s : ViewState) : s.cache.length ≤ v.depth s := by
  unfold depth
  induction v.locations with
  | nil =>
    rw [List.foldr_nil]
    omega
  | cons r rs ih =>
    rw [List.foldr_cons]
    omega

/-- Whatever the locations answer, and whatever is asked in between. The second part is about
searches of any depth, as long as the later one may go through all units. -/
theorem assignable_persists (v : View) (qs : List Request) (source target : JavaType) :
    let s := (v.run qs .initial).2
    ((v.assignable source target s).1 = true → ∀ later,
      (v.assignable source target (v.run later (v.assignable source target s).2).2).1 = true) ∧
    ∀ fuel, let found := Subtyping.assignable v.supertypes fuel source target s
      found.1 = true → ∀ later, let t := (v.run later found.2).2
        ∀ more ≥ v.depth t, (Subtyping.assignable v.supertypes more source target t).1 = true := by
  intro s
  have hany : ∀ fuel, (Subtyping.assignable v.supertypes fuel source target s).1 = true →
      ∀ later, ∀ more ≥ v.depth
        (v.run later (Subtyping.assignable v.supertypes fuel source target s).2).2,
      (Subtyping.assignable v.supertypes more source target
        (v.run later (Subtyping.assignable v.supertypes fuel source target s).2).2).1 = true := by
    intro fuel hfound later more hmore
    have hcache := isPrefix_cache_run (v := v) later
      (Subtyping.assignable v.supertypes fuel source target s).2
    have hlength := (v.length_cache_le_depth _).trans hmore
    rcases assignable_cases source target v.supertypes with ⟨answer, heq⟩ | ⟨sub, super, heq⟩
    · rw [heq] at hfound ⊢
      exact hfound
    · rw [heq] at hfound hcache hlength ⊢
      rw [heq]
      exact isSubclass_persists hfound hcache hlength
  exact ⟨fun hfound later => hany _ hfound later _ le_rfl, hany⟩

/-- A class and its superclass, in a store that cannot be asked at first. -/
def slowStart : View where
  locations := [
    ⟨(MemoryStore.ofList [.declare "a" { ClassDecl.ofName ⟨"p", "A"⟩ with
      superclass := some ⟨"p", "B"⟩ }]).location "a" |>.failingFirst 1 0 (.unreadable ⟨"a"⟩),
      .application⟩]
  options _ := none

/-- The first answer is no, the second is yes, and so are all that follow. -/
theorem assignable_persists_slowStart :
    let ask := slowStart.assignable (.named ⟨"p", "A"⟩) (.named ⟨"p", "B"⟩)
    let s := (slowStart.run [.assignable (.named ⟨"p", "A"⟩) (.named ⟨"p", "B"⟩)] .initial).2
    (ask .initial).1 = false ∧ (ask s).1 = true ∧
      ∀ later, (ask (slowStart.run later (ask s).2).2).1 = true := by
  intro ask s
  have hyes : (ask s).1 = true := by rfl
  exact ⟨by rfl, hyes, (assignable_persists slowStart _ _ _).1 hyes⟩

end View

end ClassAtlas
