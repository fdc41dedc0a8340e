import ClassAtlas.Text.Segments

/-!
# Cutting and joining

A cut at a separator falls apart into the cuts of what stands on both sides of
it. So segments that hold no separator come back from their join, and a text
with one separator in place of another is cut into the same segments.
-/

namespace ClassAtlas.Text

variable {sep : Char}

-- ---------------------------------------------------------------------------
-- Cutting
-- ---------------------------------------------------------------------------

@[simp] theorem split_cons_self (sep : Char) (cs : List Char) :
    split sep (sep :: cs) = [] :: split sep cs := by
  simp [split]

theorem split_cons_of_ne {c : Char} (h : c ≠ sep) (cs : List Char) :
    split sep (c :: cs) = (split sep cs).modifyHead (c :: ·) := by
  rw [split, if_neg h]
  cases hcs : split sep cs with
  | nil => exact absurd hcs (split_ne_nil sep cs)
  | cons s ss => rfl

theorem split_append_cons (sep : Char) (cs ds : List Char) :
    split sep (cs ++ sep :: ds) = split sep cs ++ split sep ds := by
  induction cs with
  | nil => simp
  | cons c cs ih =>
    by_cases hc : c = sep
    · subst hc
      simp [ih]
    · rw [List.cons_append, split_cons_of_ne hc, split_cons_of_ne hc, ih]
      cases hcs : split sep cs with
      | nil => exact absurd hcs (split_ne_nil sep cs)
      | cons s ss => rfl

theorem split_of_not_mem {cs : List Char} (h : sep ∉ cs) : split sep cs = [cs] := by
  induction cs with
  | nil => rfl
  | cons c cs ih =>
    rw [List.mem_cons, not_or] at h
    rw [split_cons_of_ne (Ne.symm h.1), ih h.2]
    rfl

theorem not_mem_of_mem_split {cs s : List Char} (h : s ∈ split sep cs) : sep ∉ s := by
  induction cs generalizing s with
  | nil => simp_all
  | cons c cs ih =>
    by_cases hc : c = sep
    · subst hc
      rw [split_cons_self, List.mem_cons] at h
      rcases h with rfl | h
      · simp
      · exact ih h
    · rw [split_cons_of_ne hc] at h
      cases hcs : split sep cs with
      | nil => exact absurd hcs (split_ne_nil sep cs)
      | cons t ts =>
        rw [hcs] at h ih
        rcases List.mem_cons.mp h with rfl | h
        · rw [List.mem_cons, not_or]
          exact ⟨Ne.symm hc, ih List.mem_cons_self⟩
        · exact ih (List.mem_cons_of_mem _ h)

theorem mem_of_mem_split {cs s : List Char} (hs : s ∈ split sep cs) {c : Char} (hc : c ∈ s) :
    c ∈ cs := by
  induction cs generalizing s with
  | nil => simp_all
  | cons d cs ih =>
    by_cases hd : d = sep
    · subst hd
      rw [split_cons_self, List.mem_cons] at hs
      rcases hs with rfl | hs
      · cases hc
      · exact List.mem_cons_of_mem _ (ih hs hc)
    · rw [split_cons_of_ne hd] at hs
      cases hcs : split sep cs with
      | nil => exact absurd hcs (split_ne_nil sep cs)
      | cons t ts =>
        rw [hcs] at hs ih
        rcases List.mem_cons.mp hs with rfl | hs
        · rcases List.mem_cons.mp hc with rfl | hc
          · exact List.mem_cons_self
          · exact List.mem_cons_of_mem _ (ih List.mem_cons_self hc)
        · exact List.mem_cons_of_mem _ (ih (List.mem_cons_of_mem _ hs) hc)

theorem splitFirst_eq_some {cs before after : List Char} :
    splitFirst sep cs = some (before, after) ↔ cs = before ++ sep :: after ∧ sep ∉ before := by
  induction cs generalizing before with
  | nil => simp [splitFirst]
  | cons c cs ih =>
    rw [splitFirst]
    split
    · next hc =>
      subst hc
      cases before with
      | nil => simp
      | cons b before => simp +contextual
    · next hc =>
      cases before with
      | nil => simp [hc]
      | cons b before =>
        have hparts : splitFirst sep cs = some (before, after) ↔
            cs = before ++ sep :: after ∧ sep ∉ before := ih
        simp only [Option.map_eq_some_iff, Prod.exists, Prod.mk.injEq, List.cons.injEq,
          List.cons_append, List.mem_cons, not_or]
        constructor
        · rintro ⟨b', a', h, ⟨rfl, rfl⟩, rfl⟩
          exact ⟨⟨rfl, (hparts.mp h).1⟩, Ne.symm hc, (hparts.mp h).2⟩
        · rintro ⟨⟨rfl, hcs⟩, -, hbefore⟩
          exact ⟨before, after, hparts.mpr ⟨hcs, hbefore⟩, ⟨rfl, rfl⟩, rfl⟩

-- ---------------------------------------------------------------------------
-- Joining
-- ---------------------------------------------------------------------------

theorem split_join {ss : List (List Char)} (h : ∀ s ∈ ss, sep ∉ s) (hne : ss ≠ []) :
    split sep (join sep ss) = ss := by
  induction ss with
  | nil => exact absurd rfl hne
  | cons s ss ih =>
    have hs : sep ∉ s := h s List.mem_cons_self
    cases ss with
    | nil => exact split_of_not_mem hs
    | cons t ts =>
      rw [join, split_append_cons, split_of_not_mem hs,
        ih (fun u hu => h u (List.mem_cons_of_mem _ hu)) (by simp)]
      rfl

theorem mem_join {ss : List (List Char)} {c : Char} (h : c ∈ join sep ss) :
    c = sep ∨ ∃ s ∈ ss, c ∈ s := by
  fun_induction join sep ss with
  | case1 => cases h
  | case2 s => exact .inr ⟨s, List.mem_cons_self, h⟩
  | case3 s t ss ih =>
    rcases List.mem_append.mp h with h | h
    · exact .inr ⟨s, List.mem_cons_self, h⟩
    · rcases List.mem_cons.mp h with h | h
      · exact .inl h
      · rcases ih h with h | ⟨u, hu, hc⟩
        · exact .inl h
        · exact .inr ⟨u, List.mem_cons_of_mem _ hu, hc⟩

/-- What no segment holds is not in the text, the separator apart. -/
theorem not_mem_of_forall_split {c : Char} {cs : List Char} (hc : c ≠ sep)
    (h : ∀ s ∈ split sep cs, c ∉ s) : c ∉ cs := by
  intro hmem
  rw [← join_split sep cs] at hmem
  rcases mem_join hmem with hsep | ⟨s, hs, hmem⟩
  · exact hc hsep
  · exact h s hs hmem

theorem join_append {ss ts : List (List Char)} (hss : ss ≠ []) (hts : ts ≠ []) :
    join sep (ss ++ ts) = join sep ss ++ sep :: join sep ts := by
  induction ss with
  | nil => exact absurd rfl hss
  | cons s ss ih =>
    cases ss with
    | nil => exact join_cons_of_ne_nil sep s hts
    | cons t rest =>
      have hrest := ih (by simp)
      simp only [List.cons_append, join] at hrest ⊢
      rw [hrest, List.append_assoc, List.cons_append]

theorem join_concat {ss : List (List Char)} (hne : ss ≠ []) (last : List Char) :
    join sep (ss ++ [last]) = join sep ss ++ sep :: last :=
  join_append hne (by simp)

/-- All separators have the same length. -/
theorem length_join_eq (sep sep' : Char) (ss : List (List Char)) :
    (join sep ss).length = (join sep' ss).length := by
  induction ss with
  | nil => rfl
  | cons s ss ih =>
    cases ss with
    | nil => rfl
    | cons t ts => simp [join, ih]

/-- What follows without a separator goes on the last segment. -/
theorem split_append_of_not_mem {cs tail last : List Char} {front : List (List Char)}
    (htail : sep ∉ tail) (hcs : split sep cs = front ++ [last]) :
    split sep (cs ++ tail) = front ++ [last ++ tail] := by
  have hno : ∀ s ∈ front ++ [last], sep ∉ s := fun s hs => not_mem_of_mem_split (hcs ▸ hs)
  have hlast : sep ∉ last ++ tail := by
    simpa [htail] using hno last (by simp)
  have hwhole : cs = join sep (front ++ [last]) := hcs ▸ (join_split sep cs).symm
  rw [hwhole]
  by_cases hfront : front = []
  · subst hfront
    exact split_of_not_mem hlast
  · rw [join_concat hfront, List.append_assoc, List.cons_append, split_append_cons,
      split_of_not_mem hlast, split_join (fun s hs => hno s (List.mem_append_left _ hs)) hfront]

-- ---------------------------------------------------------------------------
-- Exchanging separators
-- ---------------------------------------------------------------------------

theorem split_exchanged {old new : Char} {cs : List Char} (h : new ∉ cs) :
    split new (cs.map fun c => if c = old then new else c) = split old cs := by
  induction cs with
  | nil => rfl
  | cons c cs ih =>
    rw [List.mem_cons, not_or] at h
    rw [List.map_cons]
    by_cases hc : c = old
    · rw [if_pos hc, hc, split_cons_self, split_cons_self, ih h.2]
    · rw [if_neg hc, split_cons_of_ne (Ne.symm h.1), split_cons_of_ne hc, ih h.2]

-- ---------------------------------------------------------------------------
-- On strings
-- ---------------------------------------------------------------------------

theorem segments_ne_nil (sep : Char) (s : String) : segments sep s ≠ [] := by
  simp [segments, split_ne_nil]

theorem segments_joined {parts : List String} (h : ∀ s ∈ parts, sep ∉ s.toList)
    (hne : parts ≠ []) : segments sep (joined sep parts) = parts := by
  have hsplit : split sep (join sep (parts.map String.toList)) = parts.map String.toList :=
    split_join (by simpa using h) (by simpa using hne)
  simp [segments, joined, hsplit, Function.comp_def]

theorem not_mem_of_mem_segments {text s : String} (h : s ∈ segments sep text) :
    sep ∉ s.toList := by
  obtain ⟨cs, hcs, rfl⟩ := List.mem_map.mp h
  rw [String.toList_ofList]
  exact not_mem_of_mem_split hcs

theorem mem_of_mem_segments {text s : String} (hs : s ∈ segments sep text) {c : Char}
    (hc : c ∈ s.toList) : c ∈ text.toList := by
  obtain ⟨cs, hcs, rfl⟩ := List.mem_map.mp hs
  rw [String.toList_ofList] at hc
  exact mem_of_mem_split hcs hc

theorem segments_append (sep : Char) (s t : String) :
    segments sep (s ++ String.singleton sep ++ t) = segments sep s ++ segments sep t := by
  simp [segments, split_append_cons]

theorem joined_append {ss ts : List String} (hss : ss ≠ []) (hts : ts ≠ []) :
    joined sep (ss ++ ts) = joined sep ss ++ String.singleton sep ++ joined sep ts := by
  apply String.toList_inj.mp
  simp [joined, join_append, hss, hts]

end ClassAtlas.Text
