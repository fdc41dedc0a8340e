import Mathlib.Data.List.Forall2

/-!
# Attempts

An attempt fails or has a result. When are all of several attempts successful,
and with what results? Two attempts end alike if both fail, for whatever
reasons, or both succeed with results that belong together.
-/

namespace ClassAtlas

-- ---------------------------------------------------------------------------
-- Attempts that succeed
-- ---------------------------------------------------------------------------

section

variable {ε α β : Type}

theorem bind_eq_ok_iff {x : Except ε α} {f : α → Except ε β} {b : β} :
    x >>= f = .ok b ↔ ∃ a, x = .ok a ∧ f a = .ok b := by
  cases x <;> simp [bind, Except.bind]

theorem mapM_cons_eq_ok_iff {f : α → Except ε β} {a : α} {l : List α} {bs : List β} :
    (a :: l).mapM f = .ok bs ↔
      ∃ b rest, f a = .ok b ∧ l.mapM f = .ok rest ∧ bs = b :: rest := by
  rw [List.mapM_cons, bind_eq_ok_iff]
  refine exists_congr fun b => ?_
  rw [bind_eq_ok_iff, ← exists_and_left]
  refine exists_congr fun rest => and_congr_right' (and_congr_right' ?_)
  exact ⟨fun h => (Except.ok.inj h).symm, fun h => congrArg Except.ok h.symm⟩

theorem mapM_eq_ok_of_forall₂ {f : α → Except ε β} {l : List α} {bs : List β}
    (h : List.Forall₂ (fun a b => f a = .ok b) l bs) : l.mapM f = .ok bs := by
  induction h with
  | nil => rfl
  | cons hfirst _ ih => exact mapM_cons_eq_ok_iff.mpr ⟨_, _, hfirst, ih, rfl⟩

theorem mem_iff_of_mapM_eq_ok {f : α → Except ε β} {l : List α} {bs : List β}
    (h : l.mapM f = .ok bs) {b : β} : b ∈ bs ↔ ∃ a ∈ l, f a = .ok b := by
  induction l generalizing bs with
  | nil =>
    cases h
    simp
  | cons a l ih =>
    obtain ⟨first, rest, hfirst, hrest, rfl⟩ := mapM_cons_eq_ok_iff.mp h
    simp [ih hrest, hfirst, eq_comm]

/-- All attempts succeed if each one does. -/
theorem exists_mapM_eq_ok_iff {f : α → Except ε β} {l : List α} :
    (∃ bs, l.mapM f = .ok bs) ↔ ∀ a ∈ l, ∃ b, f a = .ok b := by
  induction l with
  | nil => exact iff_of_true ⟨[], rfl⟩ (by simp)
  | cons a l ih =>
    rw [List.forall_mem_cons, ← ih]
    constructor
    · rintro ⟨bs, hbs⟩
      obtain ⟨b, rest, hb, hrest, -⟩ := mapM_cons_eq_ok_iff.mp hbs
      exact ⟨⟨b, hb⟩, rest, hrest⟩
    · rintro ⟨⟨b, hb⟩, rest, hrest⟩
      exact ⟨b :: rest, mapM_cons_eq_ok_iff.mpr ⟨b, rest, hb, hrest, rfl⟩⟩

theorem toOption_eq_some_iff {x : Except ε α} {a : α} : x.toOption = some a ↔ x = .ok a := by
  cases x <;> simp [Except.toOption]

/-- Attempts that fail without a reason. -/
theorem exists_of_mem_mapM_eq_some {f : α → Option β} {l : List α} {bs : List β}
    (h : l.mapM f = some bs) : ∀ b ∈ bs, ∃ a ∈ l, f a = some b := by
  induction l generalizing bs with
  | nil =>
    cases h
    simp
  | cons a l ih =>
    rw [List.mapM_cons] at h
    obtain ⟨b, hb, h⟩ := Option.bind_eq_some_iff.mp h
    obtain ⟨rest, hrest, h⟩ := Option.bind_eq_some_iff.mp h
    cases h
    simp only [List.exists_mem_cons_iff, List.forall_mem_cons]
    exact ⟨.inl hb, fun b hb => .inr (ih hrest b hb)⟩

end

-- ---------------------------------------------------------------------------
-- Two attempts
-- ---------------------------------------------------------------------------

/-- Both fail, or both succeed with results in the relation. -/
inductive Alike {ε α β : Type} (R : α → β → Prop) : Except ε α → Except ε β → Prop where
  | failed (e f : ε) : Alike R (.error e) (.error f)
  | done {a : α} {b : β} (h : R a b) : Alike R (.ok a) (.ok b)

namespace Alike

variable {ε α β γ α' β' : Type} {R : α → β → Prop} {S : α' → β' → Prop}

theorem refl (x : Except ε α) : Alike Eq x x := by
  cases x with
  | error e => exact .failed e e
  | ok a => exact .done rfl

theorem imp {R' : α → β → Prop} {x : Except ε α} {y : Except ε β} (h : Alike R x y)
    (himp : ∀ a b, R a b → R' a b) : Alike R' x y := by
  cases h with
  | failed e f => exact .failed e f
  | done h => exact .done (himp _ _ h)

theorem trans {T : β → γ → Prop} {U : α → γ → Prop} {x : Except ε α} {y : Except ε β}
    {z : Except ε γ} (hxy : Alike R x y) (hyz : Alike T y z)
    (hcomp : ∀ a b c, R a b → T b c → U a c) : Alike U x z := by
  cases hxy with
  | failed e f => cases hyz with | failed f g => exact .failed e g
  | done hab => cases hyz with | done hbc => exact .done (hcomp _ _ _ hab hbc)

theorem bind {x : Except ε α} {y : Except ε β} {f : α → Except ε α'} {g : β → Except ε β'}
    (h : Alike R x y) (hnext : ∀ a b, R a b → Alike S (f a) (g b)) :
    Alike S (x >>= f) (y >>= g) := by
  cases h with
  | failed e f => exact .failed e f
  | done h => exact hnext _ _ h

theorem bind_eq {x y : Except ε α} {f : α → Except ε α'} {g : α → Except ε β'}
    (h : Alike Eq x y) (hnext : ∀ a, Alike S (f a) (g a)) : Alike S (x >>= f) (y >>= g) :=
  h.bind fun a _ hab => hab ▸ hnext a

theorem bind_right {x : Except ε α} {y : Except ε β} {g : β → Except ε β'} {T : α → β' → Prop}
    (h : Alike R x y) (hnext : ∀ a b, R a b → Alike T (.ok a) (g b)) : Alike T x (y >>= g) := by
  cases h with
  | failed e f => exact .failed e f
  | done h => exact hnext _ _ h

theorem map {x : Except ε α} {y : Except ε β} {f : α → α'} {g : β → β'} (h : Alike R x y)
    (hnext : ∀ a b, R a b → S (f a) (g b)) : Alike S (x.map f) (y.map g) := by
  cases h with
  | failed e f => exact .failed e f
  | done h => exact .done (hnext _ _ h)

-- ---------------------------------------------------------------------------
-- Lists of attempts
-- ---------------------------------------------------------------------------

theorem mapM {f : γ → Except ε α} {g : γ → Except ε β} {l : List γ}
    (h : ∀ c ∈ l, Alike R (f c) (g c)) : Alike (List.Forall₂ R) (l.mapM f) (l.mapM g) := by
  induction l with
  | nil => exact .done .nil
  | cons c l ih =>
    rw [List.mapM_cons, List.mapM_cons]
    apply (h c List.mem_cons_self).bind
    intro a b hab
    apply (ih fun c hc => h c (List.mem_cons_of_mem _ hc)).bind
    intro as bs habs
    exact .done (.cons hab habs)

theorem mapM_eq {f g : γ → Except ε α} (h : ∀ c, Alike Eq (f c) (g c)) (l : List γ) :
    Alike Eq (l.mapM f) (l.mapM g) :=
  (mapM fun c _ => h c).imp fun as bs habs => by rwa [List.forall₂_eq_eq_eq] at habs

/-- The order of the attempts decides which failure is reported, not whether there is one. -/
theorem mapM_perm {l m : List γ} (h : l.Perm m) (f : γ → Except ε α) :
    Alike List.Perm (l.mapM f) (m.mapM f) := by
  induction h with
  | nil => exact .done .nil
  | cons c _ ih =>
    rw [List.mapM_cons, List.mapM_cons]
    apply (refl (f c)).bind_eq
    intro a
    apply ih.bind
    intro as bs habs
    exact .done (habs.cons a)
  | swap c d l =>
    rw [List.mapM_cons, List.mapM_cons, List.mapM_cons, List.mapM_cons]
    cases f c with
    | error e =>
      cases f d with
      | error e' => exact .failed _ _
      | ok b => exact .failed _ _
    | ok a =>
      cases f d with
      | error e => exact .failed _ _
      | ok b =>
        cases l.mapM f with
        | error e => exact .failed _ _
        | ok as => exact .done (.swap _ _ _)
  | trans _ _ ihl ihm => exact ihl.trans ihm fun _ _ _ => .trans

/-- One attempt for each member of `k`, in two ways and in two orders. -/
theorem mapM_of_perm {δ κ : Type} {l : List α'} {m : List β'} {k : List κ} {p : κ → α'}
    {q : κ → β'} (hl : l.Perm (k.map p)) (hm : m.Perm (k.map q)) {f : α' → Except ε α}
    {g : β' → Except ε β} {F : α → δ} {G : β → δ}
    (h : ∀ c ∈ k, Alike (fun a b => F a = G b) (f (p c)) (g (q c))) :
    Alike (fun as bs => (as.map F).Perm (bs.map G)) (l.mapM f) (m.mapM g) := by
  have hmid : Alike (fun as bs => as.map F = bs.map G) ((k.map p).mapM f) ((k.map q).mapM g) := by
    rw [List.mapM_map, List.mapM_map]
    refine (mapM h).imp fun as bs habs => ?_
    rw [← List.forall₂_eq_eq_eq, List.forall₂_map_left_iff, List.forall₂_map_right_iff]
    exact habs
  have hleft : Alike (fun as bs => (as.map F).Perm (bs.map G)) (l.mapM f) ((k.map q).mapM g) :=
    (mapM_perm hl f).trans hmid fun as bs cs habs hbcs => hbcs ▸ habs.map F
  exact hleft.trans (mapM_perm hm.symm g) fun as bs cs habs hbcs => habs.trans (hbcs.map G)

end Alike

end ClassAtlas
