import ClassAtlas.Proofs.View.Memo

/-!
# Asking for one class

What asking a view for one class does, in any state. A class with a unit is
given without a call. Otherwise the locations are asked one after the other up
to the first that fails; if none does, the class must be offered once, and its
unit is then kept. What is asked for as a class proper or as a module takes the
same way, and only the answer is looked at in the end.
-/

namespace ClassAtlas

namespace View

variable {v : View} {name : ClassName} {s : ViewState}

/-! ## Answers -/

/-- What a location, given with its number, answers in a state when it is asked for a class. -/
def told (v : View) (name : ClassName) (s : ViewState) (p : Registered × Nat) :
    Except Failure (Option Source) :=
  p.1.location.lookup (s.lookups p.2).length name (v.optionsFor p.1.location)

/-- What a location offers if it is asked for a class. -/
def offer? (v : View) (name : ClassName) (s : ViewState) (p : Registered × Nat) :
    Option Candidate :=
  match v.told name s p with
  | .ok (some source) => some ⟨p.1, source⟩
  | _ => none

/-- The calls that ask locations for a class, in their order. -/
def calls (v : View) (name : ClassName) (ps : List (Registered × Nat)) : List Action :=
  ps.map fun p => .lookup p.2 name (v.optionsFor p.1.location)

/-- A call of one location does not change what those behind it answer. -/
theorem told_record {rs : List Registered} {i : Nat} {p : Registered × Nat}
    (h : p ∈ rs.zipIdx (i + 1)) (options : LoadOptions) :
    v.told name (s.record (.lookup i name options)) p = v.told name s p := by
  have hne : i ≠ p.2 := Nat.ne_of_lt (List.le_snd_of_mem_zipIdx h)
  have hlookups : (s.record (.lookup i name options)).lookups p.2 = s.lookups p.2 := by
    simp [ViewState.lookups, ViewState.record, Action.lookupAt?, hne]
  rw [told, told, hlookups]

theorem candidates_cons_of_error {i : Nat} {r : Registered} {rs : List Registered}
    {failure : Failure} (h : v.told name s (r, i) = .error failure) :
    v.candidates name i (r :: rs) s =
      (.error failure, s.record (.lookup i name (v.optionsFor r.location))) := by
  rw [told] at h
  rw [candidates, h]

/-- What the others offer is asked of the state after the call, and comes out as before it. -/
theorem candidates_cons_of_ok {i : Nat} {r : Registered} {rs : List Registered}
    {found : Option Source} (h : v.told name s (r, i) = .ok found) :
    let t := s.record (.lookup i name (v.optionsFor r.location))
    v.candidates name i (r :: rs) s =
      ((v.candidates name (i + 1) rs t).1.map ((v.offer? name s (r, i)).toList ++ ·),
        (v.candidates name (i + 1) rs t).2) := by
  intro t
  have hoffer : v.offer? name s (r, i) = found.map (⟨r, ·⟩) := by
    rw [offer?, h]
    cases found <;> rfl
  rw [told] at h
  rw [candidates, h, hoffer]
  dsimp only
  cases v.candidates name (i + 1) rs t with
  | mk result s' => cases result <;> rfl

/-! ## All locations -/

/-- The first failure ends the calls. -/
theorem candidates_of_failure {before after : List (Registered × Nat)} {r : Registered} {k i : Nat}
    {rs : List Registered} {failure : Failure} (hsplit : rs.zipIdx i = before ++ (r, k) :: after)
    (hbefore : ∀ p ∈ before, ∃ found, v.told name s p = .ok found)
    (hfails : v.told name s (r, k) = .error failure) :
    v.candidates name i rs s =
      (.error failure, { s with trace := s.trace ++ v.calls name (before ++ [(r, k)]) }) := by
  induction before generalizing i rs s with
  | nil =>
    cases rs with
    | nil => cases hsplit
    | cons first rs =>
      obtain ⟨hfirst, -⟩ := List.cons.inj hsplit
      cases hfirst
      exact candidates_cons_of_error hfails
  | cons p before ih =>
    cases rs with
    | nil => cases hsplit
    | cons first rs =>
      rw [List.cons_append, List.zipIdx_cons] at hsplit
      obtain ⟨rfl, hrest⟩ := List.cons.inj hsplit
      obtain ⟨found, hfound⟩ := hbefore (first, i) List.mem_cons_self
      have hsame : ∀ q ∈ before ++ (r, k) :: after,
          v.told name (s.record (.lookup i name (v.optionsFor first.location))) q =
            v.told name s q :=
        fun q hq => told_record (hrest ▸ hq) _
      rw [candidates_cons_of_ok hfound, ih hrest]
      · simp [calls, ViewState.record, Except.map]
      · intro q hq
        rw [hsame q (List.mem_append_left _ hq)]
        exact hbefore q (List.mem_cons_of_mem _ hq)
      · rw [hsame (r, k) (by simp), hfails]

/-- If no location fails, each is asked, and what they offer is collected in their order. -/
theorem candidates_of_answers {i : Nat} {rs : List Registered}
    (h : ∀ p ∈ rs.zipIdx i, ∃ found, v.told name s p = .ok found) :
    v.candidates name i rs s =
      (.ok ((rs.zipIdx i).filterMap (v.offer? name s)),
        { s with trace := s.trace ++ v.calls name (rs.zipIdx i) }) := by
  induction rs generalizing i s with
  | nil => simp [candidates, calls]
  | cons r rs ih =>
    rw [List.zipIdx_cons] at h ⊢
    obtain ⟨found, hfound⟩ := h (r, i) List.mem_cons_self
    have hsame : ∀ q ∈ rs.zipIdx (i + 1),
        v.told name (s.record (.lookup i name (v.optionsFor r.location))) q = v.told name s q :=
      fun q hq => told_record hq _
    have hoffers : (rs.zipIdx (i + 1)).filterMap
          (v.offer? name (s.record (.lookup i name (v.optionsFor r.location)))) =
        (rs.zipIdx (i + 1)).filterMap (v.offer? name s) :=
      List.filterMap_congr fun q hq => by rw [offer?, offer?, hsame q hq]
    rw [candidates_cons_of_ok hfound, ih, hoffers]
    · cases hoffer : v.offer? name s (r, i) <;>
        simp [hoffer, calls, ViewState.record, Except.map]
    · intro q hq
      rw [hsame q hq]
      exact h q (List.mem_cons_of_mem _ hq)

/-! ## Outcomes -/

end View

end ClassAtlas
