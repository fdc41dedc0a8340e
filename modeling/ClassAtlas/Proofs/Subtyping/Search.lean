import ClassAtlas.Subtyping
import Mathlib.Data.Finset.Card
import Mathlib.Logic.Relation

/-!
# Searches

A search goes through supertypes generation by generation. It finds its target
only along a path of answers, it finds every path that was known when it
began and is no longer than its generations, and it ends by itself when only
finitely many classes can have supertypes.
-/

namespace ClassAtlas.Subtyping

open Relation

/-! ## Steps -/

section Steps

-- Whoever is asked moves by steps of `r`, and so does every search that asks.
variable {σ : Type} {r : σ → σ → Prop} {ask : SupertypeQuery σ}
  (hask : ∀ c s, ReflTransGen r s (ask c s).2)

include hask

theorem steps_generation (target : ClassName) (cs seen next : List ClassName) (s : σ) :
    ReflTransGen r s (generation ask target cs seen next s).2 := by
  induction cs generalizing seen next s with
  | nil => exact .refl
  | cons c cs ih =>
    rw [generation]
    dsimp only
    split
    · exact hask c s
    · exact (hask c s).trans (ih _ _ _)

theorem steps_search (target : ClassName) (fuel : Nat) (seen cs : List ClassName) (s : σ) :
    ReflTransGen r s (search ask target fuel seen cs s).2 := by
  induction fuel generalizing seen cs s with
  | zero => exact .refl
  | succ fuel ih =>
    cases cs with
    | nil => exact .refl
    | cons c cs =>
      have hgeneration := steps_generation hask target (c :: cs) seen [] s
      rw [search]
      cases hstate : generation ask target (c :: cs) seen [] s with
      | mk outcome s' =>
        rw [hstate] at hgeneration
        cases outcome with
        | none => exact hgeneration
        | some found => exact hgeneration.trans (ih _ _ _)

theorem steps_isSubclass (fuel : Nat) (sub super : ClassName) (s : σ) :
    ReflTransGen r s (isSubclass ask fuel sub super s).2 := by
  rw [isSubclass]
  split
  · exact .refl
  · exact steps_search hask super fuel [] [sub] s

theorem steps_arrayAssignable (fuel : Nat) (source target : ArrayType) (s : σ) :
    ReflTransGen r s (arrayAssignable ask fuel source target s).2 := by
  rw [arrayAssignable]
  split
  · split
    · exact .refl
    · exact steps_isSubclass hask fuel _ _ s
    · exact .refl
  · split
    · split <;> exact .refl
    · exact .refl

theorem steps_assignable (fuel : Nat) (source target : JavaType) (s : σ) :
    ReflTransGen r s (assignable ask fuel source target s).2 := by
  cases source with
  | named c =>
    cases target with
    | named d => exact steps_isSubclass hask fuel c d s
    | _ => exact .refl
  | array a =>
    cases target with
    | array b => exact steps_arrayAssignable hask fuel a b s
    | _ => exact .refl
  | _ => cases target <;> exact .refl

end Steps

/-! ## Paths -/

section Paths

variable {α : Type} {R S : α → α → Prop}

/-- A path of at least one step and at most `n`. -/
def Within (R : α → α → Prop) : Nat → α → α → Prop
  | 0, _, _ => False
  | n + 1, a, b => R a b ∨ ∃ e, R a e ∧ Within R n e b

theorem Within.mono (hRS : ∀ a b, R a b → S a b) {n m : Nat} (hnm : n ≤ m) {a b : α}
    (h : Within R n a b) : Within S m a b := by
  induction n generalizing m a with
  | zero => exact h.elim
  | succ n ih =>
    obtain ⟨m, rfl⟩ : ∃ k, m = k + 1 := ⟨m - 1, by omega⟩
    rcases h with hab | ⟨e, hae, heb⟩
    · exact .inl (hRS a b hab)
    · exact .inr ⟨e, hRS a e hae, ih (by omega) heb⟩

theorem exists_within_of_transGen {a b : α} (h : TransGen R a b) : ∃ n, Within R n a b := by
  induction h using TransGen.head_induction_on with
  | single hab => exact ⟨1, .inl hab⟩
  | head hae _ ih =>
    obtain ⟨n, heb⟩ := ih
    exact ⟨n + 1, .inr ⟨_, hae, heb⟩⟩

/-- A path is free of `x`, or it can be entered where it leaves `x` for the last time. -/
theorem transGen_avoiding_or (x : α) {a b : α} (h : TransGen R a b) :
    TransGen (fun c d => c ≠ x ∧ R c d) a b ∨
      ∃ e, R x e ∧ (e = b ∨ TransGen (fun c d => c ≠ x ∧ R c d) e b) := by
  induction h using TransGen.head_induction_on with
  | @single a hab =>
    by_cases hax : a = x
    · subst hax
      exact .inr ⟨b, hab, .inl rfl⟩
    · exact .inl (.single ⟨hax, hab⟩)
  | @head a c hac _ ih =>
    rcases ih with hcb | hlast
    · by_cases hax : a = x
      · subst hax
        exact .inr ⟨c, hac, .inr hcb⟩
      · exact .inl (.head ⟨hax, hac⟩ hcb)
    · exact .inr hlast

/-- No path needs more steps than there are places to leave. -/
theorem within_card_of_transGen [DecidableEq α] {F : Finset α} (hF : ∀ a b, R a b → a ∈ F)
    {a b : α} (h : TransGen R a b) : Within R F.card a b := by
  induction hn : F.card generalizing F R a with
  | zero =>
    obtain ⟨e, hae, -⟩ := TransGen.head'_iff.mp h
    rw [Finset.card_eq_zero] at hn
    subst hn
    exact absurd (hF a e hae) (Finset.notMem_empty a)
  | succ n ih =>
    have hlast : ∃ e, R a e ∧ (e = b ∨ TransGen (fun c d => c ≠ a ∧ R c d) e b) := by
      rcases transGen_avoiding_or a h with havoid | hlast
      · obtain ⟨e, ⟨hne, -⟩, -⟩ := TransGen.head'_iff.mp havoid
        exact absurd rfl hne
      · exact hlast
    obtain ⟨e, hae, rfl | heb⟩ := hlast
    · exact .inl hae
    · have hcard : (F.erase a).card = n := by
        rw [Finset.card_erase_of_mem (hF a e hae), hn]
        rfl
      have hshort := ih (fun c d hcd => Finset.mem_erase.mpr ⟨hcd.1, hF c d hcd.2⟩) heb hcard
      exact .inr ⟨e, hae, hshort.mono (fun c d hcd => hcd.2) le_rfl⟩

/-- A path that leaves a set over its border is shorter from the border. -/
theorem Within.exists_border {P Q : α → Prop} {b : α}
    (hclosed : ∀ a, P a → ∀ e, R a e → e ≠ b ∧ (P e ∨ Q e)) {n : Nat} {a : α}
    (h : Within R n a b) (ha : P a ∨ Q a) : ∃ e, Q e ∧ Within R n e b := by
  induction n generalizing a with
  | zero => exact h.elim
  | succ n ih =>
    rcases ha with ha | ha
    · rcases h with hab | ⟨e, hae, heb⟩
      · exact absurd rfl (hclosed a ha b hab).1
      · obtain ⟨f, hf, hfb⟩ := ih heb (hclosed a ha e hae).2
        exact ⟨f, hf, hfb.mono (fun _ _ => id) (Nat.le_succ n)⟩
    · exact ⟨a, ha, h⟩

end Paths

/-! ## What is known -/

/-- What a state knows of supertypes: an answer is known from then on, and what is known is
answered. -/
structure Learns {σ : Type} (ask : SupertypeQuery σ)
    (Knows : σ → ClassName → ClassName → Prop) : Prop where
  keeps : ∀ c s a b, Knows s a b → Knows (ask c s).2 a b
  told : ∀ c s, ∀ d ∈ (ask c s).1, Knows (ask c s).2 c d
  tells : ∀ c s d, Knows s c d → d ∈ (ask c s).1

theorem mem_fresh {seen cs : List ClassName} {d : ClassName} :
    d ∈ fresh seen cs ↔ d ∈ cs ∧ d ∉ seen := by
  fun_induction fresh seen cs with
  | case1 seen => simp
  | case2 seen c cs hc ih => grind
  | case3 seen c cs hc ih => grind

theorem nodup_fresh (seen cs : List ClassName) : (fresh seen cs).Nodup := by
  fun_induction fresh seen cs with
  | case1 seen => exact List.nodup_nil
  | case2 seen c cs _ ih => exact ih
  | case3 seen c cs _ ih =>
    refine List.nodup_cons.mpr ⟨?_, ih⟩
    intro hc
    exact (mem_fresh.mp hc).2 List.mem_cons_self

section Known

variable {σ : Type} {ask : SupertypeQuery σ} {Knows : σ → ClassName → ClassName → Prop}
  {target : ClassName}

/-- The later state is that after some more questions. -/
def Asked (ask : SupertypeQuery σ) : σ → σ → Prop :=
  ReflTransGen fun s s' => ∃ c, s' = (ask c s).2

theorem asked_of_generation {cs seen next : List ClassName} {s s' : σ}
    {outcome : Option (List ClassName × List ClassName)}
    (h : generation ask target cs seen next s = (outcome, s')) : Asked ask s s' := by
  have hsteps : Asked ask s (generation ask target cs seen next s).2 :=
    steps_generation (fun c _ => .single ⟨c, rfl⟩) target cs seen next s
  rwa [h] at hsteps

theorem Learns.keeps_of_asked (hask : Learns ask Knows) {s s' : σ} (h : Asked ask s s')
    {a b : ClassName} (hab : Knows s a b) : Knows s' a b := by
  induction h with
  | refl => exact hab
  | tail _ hstep ih =>
    obtain ⟨c, rfl⟩ := hstep
    exact hask.keeps c _ a b ih

theorem Learns.keeps_search (hask : Learns ask Knows) {fuel : Nat} {seen cs : List ClassName}
    {s : σ} {a b : ClassName} (hab : Knows s a b) :
    Knows (search ask target fuel seen cs s).2 a b :=
  hask.keeps_of_asked (steps_search (fun c _ => .single ⟨c, rfl⟩) target fuel seen cs s) hab

theorem Learns.of_generation_none (hask : Learns ask Knows) {cs seen next : List ClassName}
    {s s' : σ} (h : generation ask target cs seen next s = (none, s')) :
    ∃ c ∈ cs, Knows s' c target := by
  induction cs generalizing seen next s with
  | nil => simp [generation] at h
  | cons c cs ih =>
    rw [generation] at h
    dsimp only at h
    split at h
    · next hfound =>
      obtain ⟨-, rfl⟩ := Prod.mk.inj h
      rw [List.contains_iff_mem] at hfound
      exact ⟨c, List.mem_cons_self, hask.told c s target hfound⟩
    · obtain ⟨e, he, hknows⟩ := ih h
      exact ⟨e, List.mem_cons_of_mem c he, hknows⟩

/-- A generation that does not meet the target has asked all its classes. What it adds to the
classes seen is the next generation. -/
structure Advances (Knows : σ → ClassName → ClassName → Prop) (target : ClassName)
    (cs seen : List ClassName) (s : σ) (added : List ClassName) (s' : σ) : Prop where
  nodup : added.Nodup
  unseen : ∀ d ∈ added, d ∉ seen
  told : ∀ d ∈ added, ∃ c ∈ cs, Knows s' c d
  asked : ∀ c ∈ cs, ∀ d, Knows s c d → d ≠ target ∧ (d ∈ seen ∨ d ∈ added)

theorem Learns.of_generation_some (hask : Learns ask Knows)
    {cs seen next seen' next' : List ClassName}
    {s s' : σ} (h : generation ask target cs seen next s = (some (seen', next'), s')) :
    ∃ added, seen' = seen ++ added ∧ next' = next ++ added ∧
      Advances Knows target cs seen s added s' := by
  induction cs generalizing seen next s with
  | nil =>
    simp only [generation, Prod.mk.injEq, Option.some.injEq] at h
    obtain ⟨⟨rfl, rfl⟩, rfl⟩ := h
    exact ⟨[], by simp, by simp, ⟨List.nodup_nil, by simp, by simp, by simp⟩⟩
  | cons c cs ih =>
    rw [generation] at h
    dsimp only at h
    split at h
    · simp at h
    · next hmiss =>
      rw [List.contains_iff_mem] at hmiss
      have hkeeps : ∀ a b, Knows (ask c s).2 a b → Knows s' a b :=
        fun _ _ => hask.keeps_of_asked (asked_of_generation h)
      obtain ⟨added, rfl, rfl, hadv⟩ := ih h
      refine ⟨fresh seen (ask c s).1 ++ added, by simp, by simp, ?_, ?_, ?_, ?_⟩
      · refine List.nodup_append.mpr ⟨nodup_fresh _ _, hadv.nodup, ?_⟩
        rintro d hd _ hadded rfl
        exact hadv.unseen d hadded (List.mem_append_right _ hd)
      · intro d hd hseen
        rcases List.mem_append.mp hd with hd | hd
        · exact (mem_fresh.mp hd).2 hseen
        · exact hadv.unseen d hd (List.mem_append_left _ hseen)
      · intro d hd
        rcases List.mem_append.mp hd with hd | hd
        · exact ⟨c, List.mem_cons_self, hkeeps c d (hask.told c s d (mem_fresh.mp hd).1)⟩
        · obtain ⟨e, he, hed⟩ := hadv.told d hd
          exact ⟨e, List.mem_cons_of_mem c he, hed⟩
      · intro e he d hed
        rcases List.mem_cons.mp he with rfl | he
        · have hd : d ∈ (ask e s).1 := hask.tells e s d hed
          refine ⟨fun heq => hmiss (heq ▸ hd), ?_⟩
          by_cases hseen : d ∈ seen
          · exact .inl hseen
          · exact .inr (List.mem_append_left _ (mem_fresh.mpr ⟨hd, hseen⟩))
        · obtain ⟨hne, hd⟩ := hadv.asked e he d (hask.keeps c s e d hed)
          refine ⟨hne, ?_⟩
          rw [List.mem_append] at hd ⊢
          exact or_assoc.mp hd

/-! ## Found paths -/

/-- What is found lies at the end of a path of answers. -/
theorem Learns.transGen_of_search (hask : Learns ask Knows) {fuel : Nat}
    {seen cs : List ClassName} {s : σ} (h : (search ask target fuel seen cs s).1 = true) :
    ∃ c ∈ cs, TransGen (Knows (search ask target fuel seen cs s).2) c target := by
  induction fuel generalizing seen cs s with
  | zero => simp [search] at h
  | succ fuel ih =>
    cases cs with
    | nil => simp [search] at h
    | cons c cs =>
      rw [search] at h ⊢
      cases hgen : generation ask target (c :: cs) seen [] s with
      | mk outcome s' =>
        rw [hgen] at h
        cases outcome with
        | none =>
          obtain ⟨e, he, hknows⟩ := hask.of_generation_none hgen
          exact ⟨e, he, .single hknows⟩
        | some pair =>
          obtain ⟨added, hseen, hnext, hadv⟩ := hask.of_generation_some hgen
          rw [List.nil_append] at hnext
          obtain ⟨d, hd, hpath⟩ := ih h
          obtain ⟨e, he, hed⟩ := hadv.told d (hnext ▸ hd)
          exact ⟨e, he, .head (hask.keeps_search hed) hpath⟩

/-- What is known at the start is found within as many generations as the path has steps. The
classes asked so far satisfy `P`; a path that comes from them crosses the present generation. -/
theorem Learns.search_of_within (hask : Learns ask Knows) {R : ClassName → ClassName → Prop}
    {P : ClassName → Prop} {fuel : Nat} {seen cs : List ClassName} {s : σ}
    (hR : ∀ a b, R a b → Knows s a b) (hseen : ∀ d ∈ seen, P d ∨ d ∈ cs)
    (hclosed : ∀ c, P c → ∀ d, R c d → d ≠ target ∧ (P d ∨ d ∈ cs))
    {c : ClassName} (hc : c ∈ cs) (hpath : Within R fuel c target) :
    (search ask target fuel seen cs s).1 = true := by
  induction fuel generalizing seen cs s P c with
  | zero => exact hpath.elim
  | succ fuel ih =>
    cases cs with
    | nil => simp at hc
    | cons b bs =>
      rw [search]
      cases hgen : generation ask target (b :: bs) seen [] s with
      | mk outcome s' =>
        cases outcome with
        | none => rfl
        | some pair =>
          obtain ⟨added, hseen', hnext, hadv⟩ := hask.of_generation_some hgen
          rw [List.nil_append] at hnext
          dsimp only
          rw [hseen', hnext]
          have hR' : ∀ a b, R a b → Knows s' a b :=
            fun a e hae => hask.keeps_of_asked (asked_of_generation hgen) (hR a e hae)
          have hasked : ∀ d, d ∈ seen ∨ d ∈ added → (P d ∨ d ∈ b :: bs) ∨ d ∈ added :=
            fun d hd => hd.imp_left (hseen d)
          have hclosed' : ∀ e, (P e ∨ e ∈ b :: bs) → ∀ d, R e d →
              d ≠ target ∧ ((P d ∨ d ∈ b :: bs) ∨ d ∈ added) := by
            rintro e (he | he) d hed
            · exact ⟨(hclosed e he d hed).1, .inl (hclosed e he d hed).2⟩
            · obtain ⟨hne, hd⟩ := hadv.asked e he d (hR e d hed)
              exact ⟨hne, hasked d hd⟩
          rcases hpath with htarget | ⟨e, hce, hpath⟩
          · exact absurd rfl (hclosed' c (.inr hc) target htarget).1
          · obtain ⟨f, hf, hpath⟩ := hpath.exists_border hclosed' (hclosed' c (.inr hc) e hce).2
            exact ih hR' (fun d hd => hasked d (List.mem_append.mp hd)) hclosed' hf hpath

/-- What makes a class a subclass, by what is known of supertypes. -/
def Below (R : ClassName → ClassName → Prop) (sub super : ClassName) : Prop :=
  sub = super ∨ super = ClassName.object ∨ TransGen R sub super

theorem Learns.below_of_isSubclass (hask : Learns ask Knows) {fuel : Nat}
    {sub super : ClassName} {s : σ} (h : (isSubclass ask fuel sub super s).1 = true) :
    Below (Knows (isSubclass ask fuel sub super s).2) sub super := by
  unfold isSubclass at h ⊢
  split
  · next heq => exact heq.imp_right .inl
  · next hne =>
    rw [if_neg hne] at h
    obtain ⟨c, hc, hpath⟩ := hask.transGen_of_search h
    rw [List.mem_singleton] at hc
    subst hc
    exact .inr (.inr hpath)

theorem Learns.isSubclass_of_within (hask : Learns ask Knows) {fuel : Nat}
    {sub super : ClassName} {s : σ} (h : Within (Knows s) fuel sub super) :
    (isSubclass ask fuel sub super s).1 = true := by
  unfold isSubclass
  split
  · rfl
  · exact hask.search_of_within (P := fun _ => False) (fun _ _ => id) (by simp) (by simp)
      List.mem_cons_self h

/-! ## The end of a search -/

@[simp] theorem search_nil (ask : SupertypeQuery σ) (fuel : Nat) (seen : List ClassName) (s : σ) :
    search ask target fuel seen [] s = (false, s) := by
  cases fuel <;> rfl

-- From classes in `A` the way leads to classes in `A`, and only those in `G` ever have supertypes.
variable {A : ClassName → Prop} {G : Finset ClassName}

theorem card_unasked_lt {old new : List ClassName} {c : ClassName} (hc : c ∈ G) (hold : c ∉ old)
    (hnew : c ∈ new) : (G.filter (· ∉ old ++ new)).card < (G.filter (· ∉ old)).card := by
  refine Finset.card_lt_card (Finset.ssubset_iff_of_subset ?_ |>.mpr ⟨c, ?_, ?_⟩)
  · intro e he
    rw [Finset.mem_filter] at he ⊢
    exact ⟨he.1, fun hmem => he.2 (List.mem_append_left _ hmem)⟩
  · exact Finset.mem_filter.mpr ⟨hc, hold⟩
  · intro he
    exact (Finset.mem_filter.mp he).2 (List.mem_append_right _ hnew)

/-- Every generation but the last asks a class of `G` that was not asked before, so that more
generations than there are such classes make no difference. -/
theorem Learns.search_eq_of_le (hask : Learns ask Knows)
    {s : σ} (hbound : ∀ s', Asked ask s s' → ∀ c d, A c → Knows s' c d → A d ∧ c ∈ G)
    (old : List ClassName) {cs : List ClassName} (hcs : ∀ c ∈ cs, A c) (hnodup : (old ++ cs).Nodup)
    {fuel more : Nat}
    (hfuel : (G.filter (· ∉ old)).card < fuel) (hle : fuel ≤ more) :
    search ask target more (old ++ cs) cs s = search ask target fuel (old ++ cs) cs s := by
  induction fuel generalizing more old cs s with
  | zero => omega
  | succ fuel ih =>
    obtain ⟨more, rfl⟩ : ∃ m, more = m + 1 := ⟨more - 1, by omega⟩
    cases cs with
    | nil => rw [search_nil, search_nil]
    | cons b bs =>
      rw [search, search]
      cases hgen : generation ask target (b :: bs) (old ++ b :: bs) [] s with
      | mk outcome s' =>
        cases outcome with
        | none => rfl
        | some pair =>
          have hasked := asked_of_generation hgen
          obtain ⟨added, hseen, hnext, hadv⟩ := hask.of_generation_some hgen
          rw [List.nil_append] at hnext
          dsimp only
          rw [hseen, hnext]
          cases hadded : added with
          | nil => rw [search_nil, search_nil]
          | cons d ds =>
            rw [← hadded]
            have hd : d ∈ added := hadded ▸ List.mem_cons_self
            obtain ⟨c, hc, hcd⟩ := hadv.told d hd
            have hcG : c ∈ G := (hbound s' hasked c d (hcs c hc) hcd).2
            have hcold : c ∉ old := fun hold => (List.nodup_append.mp hnodup).2.2 c hold c hc rfl
            have hfewer := card_unasked_lt hcG hcold hc
            refine ih (fun s'' h => hbound s'' (hasked.trans h)) (old ++ b :: bs) ?_ ?_ (by omega)
              (by omega)
            · intro e he
              obtain ⟨a, ha, hae⟩ := hadv.told e he
              exact (hbound s' hasked a e (hcs a ha) hae).1
            · refine List.nodup_append.mpr ⟨hnodup, hadv.nodup, ?_⟩
              rintro e he _ hadded rfl
              exact hadv.unseen e hadded he

/-- The start may be asked twice, which costs one more generation. -/
theorem Learns.isSubclass_eq_of_le (hask : Learns ask Knows) {s : σ}
    (hbound : ∀ s', Asked ask s s' → ∀ c d, A c → Knows s' c d → A d ∧ c ∈ G)
    {sub super : ClassName} (hsub : A sub) {fuel more : Nat} (hfuel : G.card + 2 ≤ fuel)
    (hle : fuel ≤ more) :
    isSubclass ask more sub super s = isSubclass ask fuel sub super s := by
  unfold isSubclass
  split
  · rfl
  · obtain ⟨fuel, rfl⟩ : ∃ n, fuel = n + 1 := ⟨fuel - 1, by omega⟩
    obtain ⟨more, rfl⟩ : ∃ n, more = n + 1 := ⟨more - 1, by omega⟩
    rw [search, search]
    cases hgen : generation ask super [sub] [] [] s with
    | mk outcome s' =>
      cases outcome with
      | none => rfl
      | some pair =>
        have hasked := asked_of_generation hgen
        obtain ⟨added, hseen, hnext, hadv⟩ := hask.of_generation_some hgen
        rw [List.nil_append] at hseen hnext
        dsimp only
        rw [hseen, hnext]
        have hcard : (G.filter (· ∉ ([] : List ClassName))).card ≤ G.card :=
          Finset.card_filter_le _ _
        refine hask.search_eq_of_le (fun s'' h => hbound s'' (hasked.trans h)) [] ?_ hadv.nodup
          (by omega) (by omega)
        intro d hd
        obtain ⟨c, hc, hcd⟩ := hadv.told d hd
        rw [List.mem_singleton] at hc
        subst hc
        exact (hbound s' hasked c d hsub hcd).1

end Known

/-! ## All types -/

/-- Either the two types decide alone, or a class of each. -/
theorem assignable_cases (source target : JavaType) {σ : Type} (ask : SupertypeQuery σ) :
    (∃ answer, ∀ fuel s, assignable ask fuel source target s = (answer, s)) ∨
      ∃ sub super, ∀ fuel s,
        assignable ask fuel source target s = isSubclass ask fuel sub super s := by
  cases source with
  | named c =>
    cases target with
    | named d => exact .inr ⟨c, d, fun _ _ => rfl⟩
    | _ => exact .inl ⟨false, fun _ _ => rfl⟩
  | array a =>
    cases target with
    | array b =>
      simp only [assignable, arrayAssignable]
      split
      · split
        · exact .inl ⟨_, fun _ _ => rfl⟩
        · exact .inr ⟨_, _, fun _ _ => rfl⟩
        · exact .inl ⟨_, fun _ _ => rfl⟩
      · split
        · split <;> exact .inl ⟨_, fun _ _ => rfl⟩
        · exact .inl ⟨_, fun _ _ => rfl⟩
    | _ => exact .inl ⟨_, fun _ _ => rfl⟩
  | _ => cases target <;> exact .inl ⟨_, fun _ _ => rfl⟩

end ClassAtlas.Subtyping
