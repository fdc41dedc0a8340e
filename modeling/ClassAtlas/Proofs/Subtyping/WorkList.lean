import ClassAtlas.Proofs.Subtyping.Preorder

/-!
# The work list of a search

Class by class, a search is a loop over a work list that nothing bounds. Over
fixed declarations with finitely many classes above the start the loop ends,
cycles or not, and a search by generations asks the same classes in the same
order. No class gets on the list twice; the start alone is there without being
seen, so that a cycle may bring it back once.
-/

namespace ClassAtlas.Subtyping

open Relation

/-! ## The loop -/

/-- The loop ends: from these classes seen and this work list it goes on to ask `asked`, in this
order, and comes to the answer. -/
inductive Ends (supers : ClassName → List ClassName) (target : ClassName) :
    List ClassName → List ClassName → List ClassName → Bool → Prop where
  | exhausted {seen : List ClassName} : Ends supers target seen [] [] false
  | found {seen queue : List ClassName} {c : ClassName} (hfound : target ∈ supers c) :
      Ends supers target seen (c :: queue) [c] true
  | missed {seen queue asked : List ClassName} {c : ClassName} {answer : Bool}
      (hmiss : target ∉ supers c)
      (hrest : Ends supers target (seen ++ fresh seen (supers c)) (queue ++ fresh seen (supers c))
        asked answer) :
      Ends supers target seen (c :: queue) (c :: asked) answer

variable {supers : ClassName → List ClassName} {target : ClassName}
  {seen queue asked : List ClassName} {answer : Bool}

namespace Ends

/-- Nothing is asked but what is above the work list. -/
theorem reachable (h : Ends supers target seen queue asked answer) :
    ∀ d ∈ asked, ∃ c ∈ queue, ReflTransGen (Declares supers) c d := by
  induction h with
  | exhausted => simp
  | @found seen queue c _ =>
    intro d hd
    rw [List.mem_singleton] at hd
    exact ⟨c, List.mem_cons_self, hd ▸ .refl⟩
  | @missed seen queue asked c answer _ _ ih =>
    intro d hd
    rcases List.mem_cons.mp hd with rfl | hd
    · exact ⟨d, List.mem_cons_self, .refl⟩
    · obtain ⟨e, he, hpath⟩ := ih d hd
      rcases List.mem_append.mp he with he | he
      · exact ⟨e, List.mem_cons_of_mem c he, hpath⟩
      · exact ⟨c, List.mem_cons_self, .head (mem_fresh.mp he).1 hpath⟩

/-- If all classes asked before and all on the work list are seen, each of them once, then no class
is asked a second time. -/
theorem nodup (h : Ends supers target seen queue asked answer) (old : List ClassName)
    (hnodup : (old ++ queue).Nodup) (hseen : ∀ d ∈ old ++ queue, d ∈ seen) :
    (old ++ asked).Nodup := by
  induction h generalizing old with
  | exhausted => exact hnodup
  | @found seen queue c _ =>
    rw [List.append_cons] at hnodup
    exact hnodup.of_append_left
  | @missed seen queue asked c answer _ _ ih =>
    rw [List.append_cons] at hnodup hseen ⊢
    apply ih (old ++ [c])
    · rw [← List.append_assoc]
      refine List.nodup_append.mpr ⟨hnodup, nodup_fresh _ _, ?_⟩
      rintro d hd _ hfresh rfl
      exact (mem_fresh.mp hfresh).2 (hseen d hd)
    · intro d hd
      rw [← List.append_assoc] at hd
      rcases List.mem_append.mp hd with hd | hd
      · exact List.mem_append_left _ (hseen d hd)
      · exact List.mem_append_right _ hd

end Ends

/-! ## Termination -/

/-- Every class that gets on the work list is one fewer to be seen. -/
theorem card_unseen_fresh (seen : List ClassName) {F : Finset ClassName} {cs : List ClassName}
    (hcs : ∀ d ∈ cs, d ∈ F) :
    (F.filter (· ∉ seen ++ fresh seen cs)).card + (fresh seen cs).length ≤
      (F.filter (· ∉ seen)).card := by
  have hlength : (fresh seen cs).toFinset.card = (fresh seen cs).length :=
    List.toFinset_card_of_nodup (nodup_fresh _ _)
  have hdisjoint : Disjoint (F.filter (· ∉ seen ++ fresh seen cs)) (fresh seen cs).toFinset := by
    rw [Finset.disjoint_left]
    intro d hd hfresh
    rw [Finset.mem_filter] at hd
    exact hd.2 (List.mem_append_right _ (List.mem_toFinset.mp hfresh))
  rw [← hlength, ← Finset.card_union_of_disjoint hdisjoint]
  apply Finset.card_le_card
  intro d hd
  rw [Finset.mem_filter]
  rcases Finset.mem_union.mp hd with hd | hd
  · rw [Finset.mem_filter] at hd
    exact ⟨hd.1, fun hseen => hd.2 (List.mem_append_left _ hseen)⟩
  · obtain ⟨hmem, hseen⟩ := mem_fresh.mp (List.mem_toFinset.mp hd)
    exact ⟨hcs d hmem, hseen⟩

/-- By the classes not seen and the length of the work list: a class taken off counts no more, and
one put on counts there instead of among those not seen. -/
theorem exists_ends {F : Finset ClassName} (hF : ∀ c ∈ F, ∀ d ∈ supers c, d ∈ F)
    (hqueue : ∀ c ∈ queue, c ∈ F) : ∃ asked answer, Ends supers target seen queue asked answer := by
  induction hn : (F.filter (· ∉ seen)).card + queue.length using Nat.strong_induction_on
    generalizing seen queue with
  | _ n ih =>
    cases queue with
    | nil => exact ⟨[], false, .exhausted⟩
    | cons c queue =>
      by_cases hfound : target ∈ supers c
      · exact ⟨[c], true, .found hfound⟩
      · have hsupers : ∀ d ∈ supers c, d ∈ F := hF c (hqueue c List.mem_cons_self)
        have hfewer := card_unseen_fresh seen hsupers
        have hqueue' : ∀ d ∈ queue ++ fresh seen (supers c), d ∈ F := by
          intro d hd
          rcases List.mem_append.mp hd with hd | hd
          · exact hqueue d (List.mem_cons_of_mem c hd)
          · exact hsupers d (mem_fresh.mp hd).1
        have hless : (F.filter (· ∉ seen ++ fresh seen (supers c))).card +
            (queue ++ fresh seen (supers c)).length < n := by
          rw [List.length_cons] at hn
          rw [List.length_append]
          omega
        obtain ⟨asked, answer, hrest⟩ := ih _ hless hqueue' rfl
        exact ⟨c :: asked, answer, .missed hfound hrest⟩

/-! ## Generations -/

namespace Ends

/-- One generation is a stretch of the loop: the loop ends within it, or goes on behind it. -/
theorem generation_eq {cs next : List ClassName}
    (h : Ends supers target seen (cs ++ next) asked answer) :
    (answer = true ∧
      ∀ log, generation (declared supers) target cs seen next log = (none, log ++ asked)) ∨
    ∃ seen' next' rest, asked = cs ++ rest ∧ Ends supers target seen' next' rest answer ∧
      ∀ log, generation (declared supers) target cs seen next log =
        (some (seen', next'), log ++ cs) := by
  induction cs generalizing seen next asked with
  | nil => exact .inr ⟨seen, next, asked, rfl, h, fun log => by simp [generation]⟩
  | cons c cs ih =>
    rw [List.cons_append] at h
    cases h with
    | found hfound =>
      refine .inl ⟨rfl, fun log => ?_⟩
      simp [generation, declared, hfound]
    | missed hmiss hrest =>
      have hgeneration : ∀ log, generation (declared supers) target (c :: cs) seen next log =
          generation (declared supers) target cs (seen ++ fresh seen (supers c))
            (next ++ fresh seen (supers c)) (log ++ [c]) := by
        intro log
        simp [generation, declared, hmiss]
      rw [List.append_assoc] at hrest
      rcases ih hrest with ⟨htrue, hlog⟩ | ⟨seen', next', rest, rfl, hends, hlog⟩
      · refine .inl ⟨htrue, fun log => ?_⟩
        rw [hgeneration, hlog, List.append_assoc]
        rfl
      · refine .inr ⟨seen', next', rest, rfl, hends, fun log => ?_⟩
        rw [hgeneration, hlog, List.append_assoc]
        rfl

/-- With generations enough, a search is the loop. -/
theorem search_eq (h : Ends supers target seen queue asked answer) :
    ∃ n, ∀ fuel ≥ n, ∀ log,
      search (declared supers) target fuel seen queue log = (answer, log ++ asked) := by
  induction hlength : asked.length using Nat.strong_induction_on generalizing seen queue asked with
  | _ n ih =>
    cases queue with
    | nil =>
      cases h
      exact ⟨0, fun fuel _ log => by rw [search_nil, List.append_nil]⟩
    | cons c cs =>
      rw [← List.append_nil (c :: cs)] at h
      rcases h.generation_eq with ⟨rfl, hlog⟩ | ⟨seen', next', rest, rfl, hends, hlog⟩
      · refine ⟨1, fun fuel hfuel log => ?_⟩
        obtain ⟨fuel, rfl⟩ : ∃ m, fuel = m + 1 := ⟨fuel - 1, by omega⟩
        rw [search, hlog]
      · have hless : rest.length < n := by
          rw [← hlength, List.length_append, List.length_cons]
          omega
        obtain ⟨m, hm⟩ := ih _ hless hends rfl
        refine ⟨m + 1, fun fuel hfuel log => ?_⟩
        obtain ⟨fuel, rfl⟩ : ∃ k, fuel = k + 1 := ⟨fuel - 1, by omega⟩
        rw [search, hlog]
        dsimp only
        rw [hm fuel (by omega), List.append_assoc]

end Ends

/-! ## Searches from one class -/

/-- Behind the start, every class on the work list is seen, so only the start may come twice. -/
theorem Ends.count_le {sub : ClassName} (h : Ends supers target [] [sub] asked answer) :
    (∀ c, c ≠ sub → asked.count c ≤ 1) ∧ asked.count sub ≤ 2 := by
  obtain ⟨rest, rfl, hrest⟩ : ∃ rest, asked = sub :: rest ∧ rest.Nodup := by
    cases h with
    | found => exact ⟨[], rfl, List.nodup_nil⟩
    | missed _ hends => exact ⟨_, rfl, hends.nodup [] (nodup_fresh _ _) fun _ => id⟩
  have honce : ∀ c, rest.count c ≤ 1 := List.nodup_iff_count_le_one.mp hrest
  refine ⟨fun c hc => ?_, ?_⟩
  · rw [List.count_cons_of_ne hc.symm]
    exact honce c
  · rw [List.count_cons_self]
    exact Nat.succ_le_succ (honce sub)

theorem exists_ends_of_finite {sub : ClassName}
    (hfinite : {c | TransGen (Declares supers) sub c}.Finite) (target : ClassName) :
    ∃ asked answer, Ends supers target [] [sub] asked answer := by
  refine exists_ends (F := insert sub hfinite.toFinset) ?_ (by simp)
  intro c hc d hd
  simp only [Finset.mem_insert, Set.Finite.mem_toFinset, Set.mem_ofPred_eq] at hc ⊢
  rcases hc with rfl | hc
  · exact .inr (.single hd)
  · exact .inr (hc.tail hd)

/-- An answer that stays is right. -/
theorem isSubclass_eq_true_iff {sub super : ClassName} {n : Nat}
    (h : ∀ fuel ≥ n, isSubclass (declared supers) fuel sub super [] = (answer, asked)) :
    answer = true ↔ Below (Declares supers) sub super := by
  constructor
  · rintro rfl
    exact learns_declared.below_of_isSubclass (congrArg Prod.fst (h n le_rfl))
  · intro hbelow
    obtain ⟨m, hm⟩ := isSubclass_of_below hbelow
    rw [← hm (max n m) (le_max_right n m) [], h (max n m) (le_max_left n m)]

/-- Over any declarations, cyclic or not, with finitely many classes above the start: the search
comes to an end, finds exactly what is above the start, and asks no class but the start and those
above it, the start twice at most and every other class once at most. -/
theorem isSubclass_decides_reachability (supers : ClassName → List ClassName)
    (sub super : ClassName) (hfinite : {c | TransGen (Declares supers) sub c}.Finite) :
    ∃ answer asked,
      (∃ n, ∀ fuel ≥ n, isSubclass (declared supers) fuel sub super [] = (answer, asked)) ∧
      ((sub = super ∨ super = ClassName.object) ∧ asked = [] ∨
        Ends supers super [] [sub] asked answer) ∧
      (answer = true ↔
        sub = super ∨ super = ClassName.object ∨ TransGen (Declares supers) sub super) ∧
      (∀ c ∈ asked, c = sub ∨ TransGen (Declares supers) sub c) ∧
      (∀ c, c ≠ sub → asked.count c ≤ 1) ∧ asked.count sub ≤ 2 := by
  by_cases hshort : sub = super ∨ super = ClassName.object
  · have hstable : ∀ fuel ≥ 0, isSubclass (declared supers) fuel sub super [] = (true, []) :=
      fun _ _ => if_pos hshort
    exact ⟨true, [], ⟨0, hstable⟩, .inl ⟨hshort, rfl⟩, isSubclass_eq_true_iff hstable, by simp⟩
  · obtain ⟨asked, answer, hends⟩ := exists_ends_of_finite hfinite super
    obtain ⟨n, hn⟩ := hends.search_eq
    have hstable : ∀ fuel ≥ n, isSubclass (declared supers) fuel sub super [] = (answer, asked) :=
      fun fuel hfuel => (if_neg hshort).trans (hn fuel hfuel [])
    refine ⟨answer, asked, ⟨n, hstable⟩, .inr hends, isSubclass_eq_true_iff hstable, ?_,
      hends.count_le⟩
    intro c hc
    obtain ⟨start, hstart, hpath⟩ := hends.reachable c hc
    rw [List.mem_singleton] at hstart
    subst hstart
    exact reflTransGen_iff_eq_or_transGen.mp hpath

/-- Two classes that extend each other. The search for a class that is not there comes back to the
start, and asks it again before it gives up. -/
theorem isSubclass_decides_reachability_mutualExtension :
    let supers := Hierarchy.mutualExtension.supertypes
    {c | TransGen (Declares supers) ⟨"p", "A"⟩ c}.Finite ∧
    (∃ n, ∀ fuel ≥ n, isSubclass (declared supers) fuel ⟨"p", "A"⟩ ⟨"p", "C"⟩ [] =
      (false, [⟨"p", "A"⟩, ⟨"p", "B"⟩, ⟨"p", "A"⟩, ⟨"p", "I"⟩])) ∧
    ¬ TransGen (Declares supers) ⟨"p", "A"⟩ ⟨"p", "C"⟩ := by
  intro supers
  have hfinite := Hierarchy.mutualExtension.finite_above ⟨"p", "A"⟩
  obtain ⟨answer, asked, ⟨n, hn⟩, -, hiff, -⟩ :=
    isSubclass_decides_reachability supers ⟨"p", "A"⟩ ⟨"p", "C"⟩ hfinite
  have heval : isSubclass (declared supers) (n + 5) ⟨"p", "A"⟩ ⟨"p", "C"⟩ [] =
      (false, [⟨"p", "A"⟩, ⟨"p", "B"⟩, ⟨"p", "A"⟩, ⟨"p", "I"⟩]) := by
    rfl
  obtain ⟨rfl, rfl⟩ := Prod.mk.inj ((hn (n + 5) (by omega)).symm.trans heval)
  exact ⟨hfinite, ⟨n, hn⟩, fun hpath => Bool.false_ne_true (hiff.mpr (.inr (.inr hpath)))⟩

end ClassAtlas.Subtyping
