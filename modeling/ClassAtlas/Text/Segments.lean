/-!
# Segments

Names and paths are texts cut at a separator. Cutting keeps every empty
segment, so it has joining as its inverse (`join_split`), and the last cut
separates a name from everything before it (`splitLast`).
-/

namespace ClassAtlas.Text

-- ---------------------------------------------------------------------------
-- Cutting at every separator
-- ---------------------------------------------------------------------------

/-- The segments between the separators; a text without separator is its only segment. -/
def split (sep : Char) : List Char → List (List Char)
  | [] => [[]]
  | c :: cs =>
    if c = sep then [] :: split sep cs
    else
      match split sep cs with
      | [] => [[c]]
      | s :: ss => (c :: s) :: ss

/-- The segments with one separator between neighbours. -/
def join (sep : Char) : List (List Char) → List Char
  | [] => []
  | [s] => s
  | s :: t :: ss => s ++ sep :: join sep (t :: ss)

@[simp] theorem split_nil (sep : Char) : split sep [] = [[]] := rfl

theorem split_ne_nil (sep : Char) (cs : List Char) : split sep cs ≠ [] := by
  cases cs with
  | nil => simp
  | cons c cs =>
    simp only [split]
    split
    · simp
    · split <;> simp

theorem join_cons_of_ne_nil (sep : Char) (s : List Char) {ss : List (List Char)} (h : ss ≠ []) :
    join sep (s :: ss) = s ++ sep :: join sep ss := by
  cases ss with
  | nil => exact absurd rfl h
  | cons t ss => rfl

theorem join_split (sep : Char) (cs : List Char) : join sep (split sep cs) = cs := by
  induction cs with
  | nil => rfl
  | cons c cs ih =>
    simp only [split]
    split
    · rename_i h
      rw [join_cons_of_ne_nil sep [] (split_ne_nil sep cs), ih, h]
      rfl
    · cases h : split sep cs with
      | nil => exact absurd h (split_ne_nil sep cs)
      | cons s ss =>
        rw [h] at ih
        cases ss with
        | nil => simpa [join] using ih
        | cons t ss => simpa [join] using ih

-- ---------------------------------------------------------------------------
-- Cutting at the last separator
-- ---------------------------------------------------------------------------

/-- What stands before and after the last separator, if there is one. -/
def splitLast (sep : Char) : List Char → Option (List Char × List Char)
  | [] => none
  | c :: cs =>
    match splitLast sep cs with
    | some (before, after) => some (c :: before, after)
    | none => if c = sep then some ([], cs) else none

theorem splitLast_eq_none {sep : Char} {cs : List Char} :
    splitLast sep cs = none ↔ sep ∉ cs := by
  induction cs with
  | nil => simp [splitLast]
  | cons c cs ih =>
    cases h : splitLast sep cs with
    | some p => simp_all [splitLast]
    | none =>
      have hmem : sep ∉ cs := ih.1 h
      by_cases hc : c = sep
      · simp [splitLast, h, hc]
      · simp [splitLast, h, hc, hmem, Ne.symm hc]

theorem splitLast_eq_some {sep : Char} {cs before after : List Char} :
    splitLast sep cs = some (before, after) ↔ cs = before ++ sep :: after ∧ sep ∉ after := by
  induction cs generalizing before after with
  | nil => simp [splitLast]
  | cons c cs ih =>
    cases h : splitLast sep cs with
    | some p =>
      obtain ⟨b, a⟩ := p
      have hb := ih.1 h
      constructor
      · intro hs
        simp only [splitLast, h, Option.some.injEq, Prod.mk.injEq] at hs
        obtain ⟨rfl, rfl⟩ := hs
        simp [hb.1, hb.2]
      · rintro ⟨hcs, hafter⟩
        cases before with
        | nil =>
          simp only [List.nil_append, List.cons.injEq] at hcs
          rw [← hcs.2, hb.1] at hafter
          simp at hafter
        | cons d ds =>
          simp only [List.cons_append, List.cons.injEq] at hcs
          have hd := ih.2 ⟨hcs.2, hafter⟩
          rw [h] at hd
          simp only [Option.some.injEq, Prod.mk.injEq] at hd
          simp [splitLast, h, hcs.1, hd.1, hd.2]
    | none =>
      have hmem := splitLast_eq_none.1 h
      constructor
      · intro hs
        by_cases hc : c = sep
        · simp only [splitLast, h, hc, if_true, Option.some.injEq, Prod.mk.injEq] at hs
          obtain ⟨rfl, rfl⟩ := hs
          simp [hc, hmem]
        · simp [splitLast, h, hc] at hs
      · rintro ⟨hcs, hafter⟩
        cases before with
        | nil =>
          simp only [List.nil_append, List.cons.injEq] at hcs
          obtain ⟨rfl, rfl⟩ := hcs
          simp [splitLast, h]
        | cons d ds =>
          simp only [List.cons_append, List.cons.injEq] at hcs
          rw [hcs.2] at hmem
          simp at hmem

-- ---------------------------------------------------------------------------
-- Cutting at the first separator
-- ---------------------------------------------------------------------------

/-- What stands before and after the first separator, if there is one. -/
def splitFirst (sep : Char) : List Char → Option (List Char × List Char)
  | [] => none
  | c :: cs =>
    if c = sep then some ([], cs)
    else (splitFirst sep cs).map fun (before, after) => (c :: before, after)

-- ---------------------------------------------------------------------------
-- Exchanging a character
-- ---------------------------------------------------------------------------

/-- The text with every `old` replaced by `new`. -/
def exchange (old new : Char) (s : String) : String :=
  String.ofList (s.toList.map fun c => if c = old then new else c)

-- ---------------------------------------------------------------------------
-- On strings
-- ---------------------------------------------------------------------------

def segments (sep : Char) (s : String) : List String :=
  (split sep s.toList).map String.ofList

def joined (sep : Char) (parts : List String) : String :=
  String.ofList (join sep (parts.map String.toList))

theorem joined_segments (sep : Char) (s : String) : joined sep (segments sep s) = s := by
  simp [joined, segments, Function.comp_def, join_split]

end ClassAtlas.Text
