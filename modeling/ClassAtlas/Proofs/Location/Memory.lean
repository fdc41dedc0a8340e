import ClassAtlas.Proofs.View.FirstOffer
import Mathlib.Data.Finset.Card

/-!
# First places, last sources

A source takes the place of an earlier one with its name, and a new name goes to
the end. So after any insertions the names stand in the order in which they came
up first, and each has the source that came last.
-/

namespace ClassAtlas

/-- The source is in the list, and none after it has its name. -/
def Source.IsLast (s : Source) (sources : List Source) : Prop :=
  ∃ before after, sources = before ++ s :: after ∧ ∀ t ∈ after, t.name ≠ s.name

theorem Source.isLast_concat_iff {s t : Source} {sources : List Source} :
    s.IsLast (sources ++ [t]) ↔ s = t ∨ s.IsLast sources ∧ s.name ≠ t.name := by
  constructor
  · rintro ⟨before, after, hsplit, hafter⟩
    rcases List.eq_nil_or_concat' after with rfl | ⟨rest, u, rfl⟩
    · exact .inl (by simpa using (List.append_inj_right' hsplit rfl).symm)
    · rw [← List.cons_append, ← List.append_assoc] at hsplit
      obtain rfl : t = u := by simpa using List.append_inj_right' hsplit rfl
      refine .inr ⟨⟨before, rest, List.append_inj_left' hsplit rfl, ?_⟩, ?_⟩
      · exact fun v hv => hafter v (List.mem_append_left _ hv)
      · exact (hafter t (by simp)).symm
  · rintro (rfl | ⟨⟨before, after, rfl, hafter⟩, hne⟩)
    · exact ⟨sources, [], rfl, by simp⟩
    · refine ⟨before, after ++ [t], by simp, ?_⟩
      simpa [or_imp, forall_and, hne.symm] using hafter

namespace MemoryStore

variable {s : Source} {sources : List Source} {m : MemoryStore}

/-! ## One insertion -/

theorem mem_insertInto_iff {t : Source} (h : (sources.map Source.name).Nodup) :
    t ∈ insertInto s sources ↔ t = s ∨ t ∈ sources ∧ t.name ≠ s.name := by
  fun_induction insertInto s sources with
  | case1 => simp
  | case2 u us heq =>
    -- No other source has the name of the one that is replaced.
    rw [List.map_cons, List.nodup_cons] at h
    have hothers (ht : t ∈ us) : t.name ≠ s.name := fun hname =>
      h.1 (heq ▸ hname ▸ List.mem_map_of_mem ht)
    rw [List.mem_cons, List.mem_cons]
    constructor
    · rintro (rfl | ht)
      · exact .inl rfl
      · exact .inr ⟨.inr ht, hothers ht⟩
    · rintro (rfl | ⟨rfl | ht, hne⟩)
      · exact .inl rfl
      · exact absurd heq hne
      · exact .inr ht
  | case3 u us hne ih =>
    rw [List.map_cons, List.nodup_cons] at h
    rw [List.mem_cons, ih h.2, List.mem_cons]
    constructor
    · rintro (rfl | rfl | ⟨ht, hname⟩)
      · exact .inr ⟨.inl rfl, hne⟩
      · exact .inl rfl
      · exact .inr ⟨.inr ht, hname⟩
    · rintro (rfl | ⟨rfl | ht, hname⟩)
      · exact .inr (.inl rfl)
      · exact .inl rfl
      · exact .inr (.inr ⟨ht, hname⟩)

/-! ## All insertions -/

theorem ofList_concat (sources : List Source) (s : Source) :
    ofList (sources ++ [s]) = (ofList sources).insert s := by
  simp [ofList]

/-- The names stand in the order in which they came up first. -/
theorem names_ofList (sources : List Source) :
    (ofList sources).sources.map Source.name = (sources.map Source.name).eraseDups := by
  induction sources using List.reverseRecOn with
  | nil => rfl
  | append_singleton sources s ih =>
    rw [ofList_concat, insert, names_insertInto, ih, List.map_append, List.eraseDups_append,
      List.map_singleton]
    generalize sources.map Source.name = names
    by_cases hname : s.name ∈ names
    · rw [if_pos (List.mem_eraseDups.mpr hname)]
      simp [List.removeAll, hname]
    · rw [if_neg (mt List.mem_eraseDups.mp hname)]
      simp [List.removeAll, hname, List.eraseDups_cons]

/-- Each name has the source that came last. -/
theorem mem_ofList_iff : s ∈ (ofList sources).sources ↔ s.IsLast sources := by
  induction sources using List.reverseRecOn with
  | nil => simp [ofList, empty, Source.IsLast]
  | append_singleton sources t ih =>
    rw [ofList_concat, insert, mem_insertInto_iff (nodup_names_ofList sources), ih,
      Source.isLast_concat_iff]

theorem find?_eq_some_iff (h : (m.sources.map Source.name).Nodup) {name : ClassName} :
    m.find? name = some s ↔ s ∈ m.sources ∧ s.name = name := by
  constructor
  · intro hfound
    have hname : s.name = name := by simpa using List.find?_some hfound
    exact ⟨List.mem_of_find?_eq_some hfound, hname⟩
  · rintro ⟨hmem, rfl⟩
    exact (mem_sources_iff h s).mp hmem

/-- Whatever was inserted, one source is listed for each name, in the order in which the names came
up first, and it is the last one that was inserted with this name. A look-up finds the source that
is listed with the name. The size counts the names. -/
theorem lists_last_by_first (sources : List Source) (name : String) (n : Nat)
    (options : LoadOptions) :
    ∃ listed, ((ofList sources).location name).enumerate n options = .ok listed ∧
      listed.map Source.name = (sources.map Source.name).eraseDups ∧
      (∀ s, s ∈ listed ↔ s.IsLast sources) ∧
      (∀ c, ∃ found, ((ofList sources).location name).lookup n c options = .ok found ∧
        ∀ s, found = some s ↔ s ∈ listed ∧ s.name = c) ∧
      (ofList sources).size = (sources.map Source.name).toFinset.card := by
  have hnodup := nodup_names_ofList sources
  refine ⟨(ofList sources).sources, rfl, names_ofList sources, fun s => mem_ofList_iff,
    fun c => ⟨_, rfl, fun s => find?_eq_some_iff hnodup⟩, ?_⟩
  have hnames : (sources.map Source.name).toFinset =
      ((ofList sources).sources.map Source.name).toFinset := by
    ext c
    rw [List.mem_toFinset, List.mem_toFinset, names_ofList, List.mem_eraseDups]
  rw [hnames, List.toFinset_card_of_nodup hnodup, List.length_map, size]

/-- The second source for a name comes before what was inserted between the two. -/
example :
    let first := Source.declare "old" (.ofName ⟨"p", "A"⟩)
    let other := Source.declare "old" (.ofName ⟨"p", "B"⟩)
    let second := Source.declare "new" (.ofName ⟨"p", "A"⟩)
    (ofList [first, other, second]).sources = [second, other] := by
  decide

end MemoryStore

end ClassAtlas
