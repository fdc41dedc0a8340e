import ClassAtlas.Proofs.Text.Segments
import ClassAtlas.Quoting

/-!
# Quoting segment by segment

To quote a name is to quote its segments, each for itself. Apostrophes put
around a segment keep it from being quoted again, and where a name has none of
its own they can be taken off again.
-/

namespace ClassAtlas.Quoting

-- ---------------------------------------------------------------------------
-- Segments
-- ---------------------------------------------------------------------------

/-- The segment would not be read as a name: it is a reserved word, or it opens with a minus
sign. -/
def Clashes (segment : String) : Prop :=
  segment ∈ reservedWords ∨ segment.toList.head? = some '-'

instance (segment : String) : Decidable (Clashes segment) :=
  inferInstanceAs (Decidable (segment ∈ reservedWords ∨ segment.toList.head? = some '-'))

/-- The segment between apostrophes if it clashes. -/
def quoted (segment : String) : String :=
  if Clashes segment then "'" ++ segment ++ "'" else segment

/-- The segment without the apostrophes around it, if it stands between two. -/
def bare (segment : String) : String :=
  match segment.toList with
  | [] => segment
  | first :: rest =>
    if first = '\'' ∧ rest.getLast? = some '\'' then String.ofList rest.dropLast else segment

theorem needsQuotes_iff {segment : List Char} :
    needsQuotes segment = true ↔ Clashes (String.ofList segment) := by
  simp [needsQuotes, isReserved, Clashes, or_comm]

theorem ofList_quoteSegment (segment : List Char) :
    String.ofList (quoteSegment segment) = quoted (String.ofList segment) := by
  apply String.toList_inj.mp
  by_cases h : Clashes (String.ofList segment)
  · simp [quoteSegment, needsQuotes_iff, quoted, h]
  · simp [quoteSegment, needsQuotes_iff, quoted, h]

theorem not_clashes_wrapped (segment : String) : ¬ Clashes ("'" ++ segment ++ "'") := by
  have hhead : ("'" ++ segment ++ "'").toList.head? = some '\'' := by simp
  rintro (hword | hminus)
  · have hreserved : ∀ word ∈ reservedWords, word.toList.head? ≠ some '\'' := by decide
    exact hreserved _ hword hhead
  · rw [hhead] at hminus
    exact absurd hminus (by decide)

@[simp] theorem quoted_quoted (segment : String) : quoted (quoted segment) = quoted segment := by
  by_cases h : Clashes segment
  · simp [quoted, h, not_clashes_wrapped]
  · simp [quoted, h]

theorem quoted_eq_self_iff {segment : String} : quoted segment = segment ↔ ¬ Clashes segment := by
  constructor
  · intro heq hclash
    rw [quoted, if_pos hclash] at heq
    have hlength : ("'" ++ segment ++ "'").toList.length = segment.toList.length + 2 := by
      simp
    rw [heq] at hlength
    omega
  · intro h
    rw [quoted, if_neg h]

/-- Quoting does not touch the separators. -/
theorem no_dot_quoted {segment : String} (h : '.' ∉ segment.toList) :
    '.' ∉ (quoted segment).toList := by
  by_cases hclash : Clashes segment
  · simp [quoted, hclash, h]
  · simpa [quoted, hclash] using h

theorem bare_wrapped (segment : String) : bare ("'" ++ segment ++ "'") = segment := by
  simp [bare]

theorem bare_of_no_apostrophe {segment : String} (h : '\'' ∉ segment.toList) :
    bare segment = segment := by
  rw [bare]
  split
  · rfl
  · next first rest hlist =>
    rw [hlist, List.mem_cons, not_or] at h
    rw [if_neg fun hwrapped => h.1 hwrapped.1.symm]

theorem bare_quoted {segment : String} (h : '\'' ∉ segment.toList) :
    bare (quoted segment) = segment := by
  by_cases hclash : Clashes segment
  · rw [quoted, if_pos hclash, bare_wrapped]
  · rw [quoted, if_neg hclash, bare_of_no_apostrophe h]

-- ---------------------------------------------------------------------------
-- Names
-- ---------------------------------------------------------------------------

/-- The name with the apostrophes taken off every segment that stands between two. -/
def unquote (name : String) : String :=
  Text.joined '.' ((Text.segments '.' name).map bare)

theorem quote_eq_joined (name : String) :
    quote name = Text.joined '.' ((Text.segments '.' name).map quoted) := by
  simp [quote, Text.joined, Text.segments, Function.comp_def, ← ofList_quoteSegment]

theorem segments_quote (name : String) :
    Text.segments '.' (quote name) = (Text.segments '.' name).map quoted := by
  rw [quote_eq_joined]
  refine Text.segments_joined ?_ (by simp [Text.segments_ne_nil])
  intro s hs
  obtain ⟨segment, hsegment, rfl⟩ := List.mem_map.mp hs
  exact no_dot_quoted (Text.not_mem_of_mem_segments hsegment)

theorem quote_quote (name : String) : quote (quote name) = quote name := by
  rw [quote_eq_joined (quote name), segments_quote, List.map_map, quote_eq_joined]
  simp [Function.comp_def]

theorem quote_eq_self_iff {name : String} :
    quote name = name ↔ ∀ s ∈ Text.segments '.' name, ¬ Clashes s := by
  constructor
  · intro heq s hs
    have hmap : (Text.segments '.' name).map quoted = (Text.segments '.' name).map id := by
      rw [← segments_quote, heq, List.map_id]
    exact quoted_eq_self_iff.mp (List.map_inj_left.mp hmap s hs)
  · intro h
    have hmap : (Text.segments '.' name).map quoted = (Text.segments '.' name).map id :=
      List.map_inj_left.mpr fun s hs => quoted_eq_self_iff.mpr (h s hs)
    rw [quote_eq_joined, hmap, List.map_id, Text.joined_segments]

theorem quote_append (name other : String) :
    quote (name ++ "." ++ other) = quote name ++ "." ++ quote other := by
  have hsegments : Text.segments '.' (name ++ "." ++ other) =
      Text.segments '.' name ++ Text.segments '.' other :=
    Text.segments_append '.' name other
  rw [quote_eq_joined, hsegments, List.map_append, quote_eq_joined name, quote_eq_joined other]
  exact Text.joined_append (by simp [Text.segments_ne_nil]) (by simp [Text.segments_ne_nil])

theorem unquote_quote {name : String} (h : '\'' ∉ name.toList) : unquote (quote name) = name := by
  have hmap : ((Text.segments '.' name).map quoted).map bare = (Text.segments '.' name).map id := by
    rw [List.map_map]
    refine List.map_inj_left.mpr fun s hs => bare_quoted fun hmem => ?_
    exact h (Text.mem_of_mem_segments hs hmem)
  rw [unquote, segments_quote, hmap, List.map_id, Text.joined_segments]

/-- Quoting goes by segments and puts apostrophes around those that clash, whatever stands around
them. It does nothing to what it gave itself, and nothing at all to a name without a clash. Names
without apostrophes come back from their quotation, so no two of them are quoted alike. -/
theorem quotes_by_segments (name : String) :
    Text.segments '.' (quote name) = (Text.segments '.' name).map (fun segment =>
      if Clashes segment then "'" ++ segment ++ "'" else segment) ∧
    quote (quote name) = quote name ∧
    (quote name = name ↔ ∀ segment ∈ Text.segments '.' name, ¬ Clashes segment) ∧
    (∀ other, quote (name ++ "." ++ other) = quote name ++ "." ++ quote other) ∧
    ('\'' ∉ name.toList → unquote (quote name) = name ∧
      ∀ other, '\'' ∉ other.toList → quote other = quote name → other = name) := by
  refine ⟨segments_quote name, quote_quote name, quote_eq_self_iff, quote_append name, ?_⟩
  intro hname
  refine ⟨unquote_quote hname, ?_⟩
  intro other hother heq
  rw [← unquote_quote hother, heq, unquote_quote hname]

/-- Empty segments and a reserved word as part of a longer one stay as they are. -/
theorem quotes_by_segments_mixed :
    '\'' ∉ "class..-b.classes.".toList ∧ quote "class..-b.classes." = "'class'..'-b'.classes." ∧
    quote "'class'..'-b'.classes." = "'class'..'-b'.classes." ∧
    unquote "'class'..'-b'.classes." = "class..-b.classes." := by
  have hname : '\'' ∉ "class..-b.classes.".toList := by decide
  have hquote : quote "class..-b.classes." = "'class'..'-b'.classes." := by decide
  obtain ⟨-, hagain, -, -, hback⟩ := quotes_by_segments "class..-b.classes."
  rw [hquote] at hagain hback
  exact ⟨hname, hquote, hagain, (hback hname).1⟩

-- A name with apostrophes of its own may be quoted like another.
example : quote "'int'" = quote "int" := by decide

end ClassAtlas.Quoting
