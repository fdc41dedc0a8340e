import ClassAtlas.Json

/-!
# Documents and their texts

The reader takes back what the writer lays out. A document is written so that
no part of it runs into what follows: a string ends at its quotation mark, and
after a number there is a comma or the end of a line. Both sides bound their
steps by the length of the text, and these bounds are never met.
-/

namespace ClassAtlas.Json

variable {rest : List Char}

/-! ## Strings -/

theorem hexValue?_hexDigit : ∀ n < 16, hexValue? (hexDigit n) = some n := by
  decide

/-- A number that is no surrogate stands for a character by itself. -/
theorem unitsText?_code {m : Nat} (hlow : m < 0xD800) (units : List StringUnit) :
    unitsText? (.code m :: units) = (unitsText? units).map (Char.ofNat m :: ·) := by
  have hleading : isLeading m = false := by
    simp only [isLeading, Bool.and_eq_false_imp, decide_eq_true_eq, decide_eq_false_iff_not]
    omega
  have htrailing : isTrailing m = false := by
    simp only [isTrailing, Bool.and_eq_false_imp, decide_eq_true_eq, decide_eq_false_iff_not]
    omega
  rcases units with - | ⟨_ | _, units⟩ <;> simp [unitsText?, hleading, htrailing]

/-- Every character is written as one unit that says it. -/
theorem exists_unit (c : Char) : ∃ unit,
    (∀ units, unitsText? (unit :: units) = (unitsText? units).map (c :: ·)) ∧
    ∀ fuel rest, stringUnits (fuel + 1) (escape c ++ rest) =
      (stringUnits fuel rest).bind fun p => some (unit :: p.1, p.2) := by
  unfold escape
  split
  case h_8 hquote hslash _ _ _ _ _ =>
    split
    · next hlow =>
      refine ⟨.code c.toNat, fun units => ?_, fun fuel rest => ?_⟩
      · rw [unitsText?_code (by omega), Char.ofNat_toNat]
      · have hzero : hexValue? '0' = some 0 := by decide
        have hvalue : c.toNat / 16 * 16 + c.toNat % 16 = c.toNat := by omega
        simp [stringUnits, fourDigits, hzero, hexValue?_hexDigit (c.toNat / 16) (by omega),
          hexValue?_hexDigit (c.toNat % 16) (by omega), hvalue]
    · next hhigh =>
      refine ⟨.char c, fun _ => rfl, fun fuel rest => ?_⟩
      rw [List.singleton_append, stringUnits]
      · rw [if_neg (not_or.mpr ⟨hhigh, hslash⟩)]
        rfl
      · exact hquote
      · exact fun _ heq _ => hslash heq
      · exact fun _ _ heq _ => hslash heq
  all_goals
    refine ⟨.char _, fun _ => rfl, fun fuel rest => ?_⟩
    simp [stringUnits, shortEscape?]

theorem exists_units (cs : List Char) : ∃ units, unitsText? units = some cs ∧
    ∀ fuel rest, cs.length < fuel →
      stringUnits fuel (cs.flatMap escape ++ '"' :: rest) = some (units, rest) := by
  induction cs with
  | nil =>
    refine ⟨[], rfl, fun fuel rest hfuel => ?_⟩
    obtain ⟨fuel, rfl⟩ : ∃ n, fuel = n + 1 := ⟨fuel - 1, by omega⟩
    simp [stringUnits]
  | cons c cs ih =>
    obtain ⟨units, hunits, hread⟩ := ih
    obtain ⟨unit, hunit, hstep⟩ := exists_unit c
    refine ⟨unit :: units, by rw [hunit, hunits]; rfl, fun fuel rest hfuel => ?_⟩
    rw [List.length_cons] at hfuel
    obtain ⟨fuel, rfl⟩ : ∃ n, fuel = n + 1 := ⟨fuel - 1, by omega⟩
    rw [List.flatMap_cons, List.append_assoc, hstep, hread fuel rest (by omega)]
    rfl

theorem length_le_flatMap_escape (cs : List Char) : cs.length ≤ (cs.flatMap escape).length := by
  induction cs with
  | nil => exact Nat.le_refl 0
  | cons c cs ih =>
    have hone : 0 < (escape c).length := by
      unfold escape
      split <;> first | exact Nat.succ_pos _ | split <;> exact Nat.succ_pos _
    rw [List.flatMap_cons, List.length_append, List.length_cons]
    omega

theorem readString_escape (s : String) (rest : List Char) :
    readString (s.toList.flatMap escape ++ '"' :: rest) = some (some s, rest) := by
  obtain ⟨units, hunits, hread⟩ := exists_units s.toList
  have hlength := length_le_flatMap_escape s.toList
  rw [readString, hread _ rest (by rw [List.length_append]; omega)]
  simp [hunits]

/-! ## Numbers -/

theorem isDigit_of_mem_toDigits {n : Nat} {c : Char} (h : c ∈ Nat.toDigits 10 n) :
    isDigit c = true :=
  Nat.isDigit_of_mem_toDigits (by decide) (Nat.le_refl 10) h

/-- No number but zero starts with a zero. -/
theorem toDigits_ne_zero_cons {n : Nat} (hn : 0 < n) (ds : List Char) :
    Nat.toDigits 10 n ≠ '0' :: ds := by
  induction n using Nat.strongRecOn generalizing ds with
  | ind n ih =>
    by_cases hsmall : n < 10
    · rw [Nat.toDigits_of_lt_base hsmall]
      have hall : ∀ m < 10, 0 < m → m.digitChar ≠ '0' := by decide
      exact fun heq => hall n hsmall hn (List.cons.inj heq).1
    · rw [Nat.toDigits_of_base_le (by decide) (by omega)]
      have hmore := ih (n / 10) (by omega) (by omega)
      cases hfront : Nat.toDigits 10 (n / 10) with
      | nil => exact absurd hfront Nat.toDigits_ne_nil
      | cons d ds' =>
        rintro heq
        obtain rfl : d = '0' := (List.cons.inj heq).1
        exact hmore ds' hfront

/-- What follows a number does not go on with it. -/
def Ends (rest : List Char) : Prop :=
  ∀ c ∈ rest.head?, isDigit c = false ∧ c ≠ '.' ∧ c ≠ 'e' ∧ c ≠ 'E'

theorem digits_toDigits (n : Nat) (h : Ends rest) :
    digits (Nat.toDigits 10 n ++ rest) = some (Nat.toDigits 10 n, rest) := by
  have hdigits : ∀ c ∈ Nat.toDigits 10 n, isDigit c = true := fun _ => isDigit_of_mem_toDigits
  have hrest : rest.takeWhile isDigit = [] ∧ rest.dropWhile isDigit = rest := by
    cases rest with
    | nil => exact ⟨rfl, rfl⟩
    | cons c rest => simp [(h c rfl).1]
  rw [digits, List.takeWhile_append_of_pos hdigits, List.dropWhile_append_of_pos hdigits, hrest.1,
    hrest.2, List.append_nil]
  cases hn : Nat.toDigits 10 n with
  | nil => exact absurd hn Nat.toDigits_ne_nil
  | cons d ds => rfl

theorem wholePart_toDigits (n : Nat) (h : Ends rest) :
    wholePart (Nat.toDigits 10 n ++ rest) = some (Nat.toDigits 10 n, rest) := by
  rw [wholePart, digits_toDigits n h]
  dsimp only [Option.bind_eq_bind, Option.bind_some]
  split
  · next hzero =>
    rcases Nat.eq_zero_or_pos n with rfl | hn
    · cases hzero
    · exact absurd hzero (toDigits_ne_zero_cons hn _)
  · rfl

theorem readNumber_toDigits (n : Nat) (h : Ends rest) :
    readNumber (Nat.toDigits 10 n ++ rest) = some (toString n, rest) := by
  have hsign : sign (Nat.toDigits 10 n ++ rest) = ([], Nat.toDigits 10 n ++ rest) := by
    unfold sign
    split
    · next hminus =>
      cases hn : Nat.toDigits 10 n with
      | nil => exact absurd hn Nat.toDigits_ne_nil
      | cons d ds =>
        rw [hn] at hminus
        have hdigit : isDigit d = true := isDigit_of_mem_toDigits (n := n) (by simp [hn])
        rw [(List.cons.inj hminus).1] at hdigit
        cases hdigit
    · rfl
  have hfraction : fraction rest = some ([], rest) := by
    unfold fraction
    split
    · exact absurd rfl (h '.' rfl).2.1
    · rfl
  have hexponent : exponent rest = some ([], rest) := by
    unfold exponent
    split
    · exact absurd rfl (h 'e' rfl).2.2.1
    · exact absurd rfl (h 'E' rfl).2.2.2
    · rfl
  simp [readNumber, hsign, wholePart_toDigits n h, hfraction, hexponent,
    Nat.repr_eq_ofList_toDigits]

/-! ## Blanks -/

theorem skipBlanks_append {blanks : List Char} (h : ∀ c ∈ blanks, isBlank c = true)
    (cs : List Char) : skipBlanks (blanks ++ cs) = skipBlanks cs :=
  List.dropWhile_append_of_pos h

theorem skipBlanks_cons {c : Char} (h : isBlank c = false) (cs : List Char) :
    skipBlanks (c :: cs) = c :: cs :=
  List.dropWhile_cons_of_neg (by simp [h])

theorem isBlank_of_mem_newline (indent : Nat) :
    ∀ c ∈ (newline indent).toList, isBlank c = true := by
  intro c hc
  simp only [newline, String.toList_append, String.toList_ofList, List.mem_append] at hc
  rcases hc with hc | hc
  · obtain rfl : c = '\n' := by simpa using hc
    rfl
  · obtain rfl : c = ' ' := List.eq_of_mem_replicate hc
    rfl

theorem readValue_append_blanks {blanks : List Char} (h : ∀ c ∈ blanks, isBlank c = true)
    (fuel : Nat) (cs : List Char) : readValue fuel (blanks ++ cs) = readValue fuel cs := by
  cases fuel with
  | zero => rfl
  | succ fuel => rw [readValue, readValue, skipBlanks_append h]

theorem readItems_append_blanks {blanks : List Char} (h : ∀ c ∈ blanks, isBlank c = true)
    (fuel : Nat) (cs : List Char) : readItems fuel (blanks ++ cs) = readItems fuel cs := by
  cases fuel with
  | zero => rfl
  | succ fuel => rw [readItems, readItems, readValue_append_blanks h]

theorem readFields_append_blanks {blanks : List Char} (h : ∀ c ∈ blanks, isBlank c = true)
    (fuel : Nat) (cs : List Char) : readFields fuel (blanks ++ cs) = readFields fuel cs := by
  cases fuel with
  | zero => rfl
  | succ fuel => rw [readFields, readFields, skipBlanks_append h]

theorem ends_append_blanks {blanks : List Char} (h : ∀ c ∈ blanks, isBlank c = true)
    (hrest : Ends rest) : Ends (blanks ++ rest) := by
  cases blanks with
  | nil => exact hrest
  | cons b blanks =>
    intro c hc
    obtain rfl : b = c := by simpa using hc
    have hblank := h b List.mem_cons_self
    simp only [isBlank, Bool.or_eq_true, beq_iff_eq, or_assoc] at hblank
    rcases hblank with rfl | rfl | rfl | rfl <;> decide

/-! ## Documents -/

/-- The documents that are written: every string is a text, and every number is natural. -/
inductive Written : Json → Prop where
  | null : Written .null
  | bool (value : Bool) : Written (.bool value)
  | nat (n : Nat) : Written (.nat n)
  | text (s : String) : Written (.text s)
  | array {items : List Json} (h : ∀ item ∈ items, Written item) : Written (.array items)
  | record {fields : List (String × Json)} (h : ∀ field ∈ fields, Written field.2) :
      Written (.record fields)

/-- The text of the document is taken back, whatever follows it. -/
def Reads (j : Json) : Prop :=
  ∀ indent rest fuel, Ends rest → 2 * (prettyAt indent j).toList.length ≤ fuel →
    readValue fuel ((prettyAt indent j).toList ++ rest) = some (j, rest)

/-- Parts after the first, each after a comma and on a line of its own. -/
def further (indent : Nat) (parts : List String) : List Char :=
  parts.flatMap fun part => ',' :: ((newline indent).toList ++ part.toList)

theorem toList_commaLines (indent : Nat) (part : String) (parts : List String) :
    (commaLines indent (part :: parts)).toList =
      (newline indent).toList ++ (part.toList ++ further indent parts) := by
  induction parts generalizing part with
  | nil => simp [commaLines, further]
  | cons next parts ih => simp [commaLines, further, ih]

theorem prettyItems_eq_map (indent : Nat) (items : List Json) :
    prettyItems indent items = items.map (prettyAt indent) := by
  induction items with
  | nil => rfl
  | cons item items ih => rw [prettyItems, ih, List.map_cons]

/-- A field on its line. -/
def fieldText (indent : Nat) (field : String × Json) : String :=
  quoted field.1 ++ ": " ++ prettyAt indent field.2

theorem prettyFields_eq_map (indent : Nat) (fields : List (String × Json)) :
    prettyFields indent (fields.map fun (key, value) => (some key, value)) =
      fields.map (fieldText indent) := by
  induction fields with
  | nil => rfl
  | cons field fields ih => rw [List.map_cons, prettyFields, ih]; rfl

theorem ends_cons {c : Char} (h : isDigit c = false ∧ c ≠ '.' ∧ c ≠ 'e' ∧ c ≠ 'E')
    (rest : List Char) : Ends (c :: rest) := by
  intro d hd
  obtain rfl : c = d := by simpa using hd
  exact h

theorem toList_fieldText (indent : Nat) (field : String × Json) :
    (fieldText indent field).toList =
      '"' :: (field.1.toList.flatMap escape ++
        '"' :: ':' :: ' ' :: (prettyAt indent field.2).toList) := by
  simp [fieldText, quoted]

/-- One field is taken back, and then it depends on what follows. -/
theorem readFields_fieldText (indent : Nat) {field : String × Json} (hfield : Reads field.2)
    (rest : List Char) (hrest : Ends rest) {fuel : Nat}
    (hfuel : 2 * (fieldText indent field).toList.length < fuel + 1) :
    readFields (fuel + 1) ((fieldText indent field).toList ++ rest) =
      match skipBlanks rest with
      | '\x7d' :: rest => some ([(some field.1, field.2)], rest)
      | ',' :: rest =>
        (readFields fuel rest).bind fun p => some ((some field.1, field.2) :: p.1, p.2)
      | _ => none := by
  rw [toList_fieldText] at hfuel ⊢
  simp only [List.length_cons, List.length_append] at hfuel
  have hvalue : readValue fuel (' ' :: ((prettyAt indent field.2).toList ++ rest)) =
      some (field.2, rest) := by
    have hblank : ∀ c ∈ [' '], isBlank c = true := by simp [isBlank]
    rw [← List.singleton_append, readValue_append_blanks hblank]
    exact hfield indent rest fuel hrest (by omega)
  simp only [List.cons_append, List.append_assoc]
  rw [readFields, skipBlanks_cons (by decide)]
  simp only [readString_escape, Option.bind_eq_bind, Option.bind_some,
    skipBlanks_cons (show isBlank ':' = false by decide), hvalue]
  rfl

section Lists

variable {blanks : List Char} (hblanks : ∀ c ∈ blanks, isBlank c = true) (indent : Nat)

include hblanks

theorem readItems_further {item : Json} {items : List Json} (hitem : Reads item)
    (hitems : ∀ i ∈ items, Reads i) (rest : List Char) {fuel : Nat}
    (hfuel : 2 * ((prettyAt indent item).toList ++
      further indent (items.map (prettyAt indent))).length < fuel) :
    readItems fuel ((prettyAt indent item).toList ++
      (further indent (items.map (prettyAt indent)) ++ (blanks ++ ']' :: rest))) =
        some (item :: items, rest) := by
  induction items generalizing item fuel with
  | nil =>
    obtain ⟨fuel, rfl⟩ : ∃ n, fuel = n + 1 := ⟨fuel - 1, by omega⟩
    simp only [List.map_nil, further, List.flatMap_nil, List.append_nil, List.nil_append] at hfuel ⊢
    rw [readItems, hitem indent _ fuel (ends_append_blanks hblanks (ends_cons (by decide) _))
      (by omega)]
    simp [skipBlanks_append hblanks, skipBlanks_cons (show isBlank ']' = false by decide)]
  | cons next items ih =>
    obtain ⟨hnext, hitems⟩ := List.forall_mem_cons.mp hitems
    obtain ⟨fuel, rfl⟩ : ∃ n, fuel = n + 1 := ⟨fuel - 1, by omega⟩
    simp only [List.map_cons, further, List.flatMap_cons, List.cons_append, List.append_assoc,
      List.length_append, List.length_cons] at hfuel ⊢
    have hlength : 2 * ((prettyAt indent next).toList ++
        further indent (items.map (prettyAt indent))).length < fuel := by
      rw [List.length_append, further]
      omega
    have hrest := ih hnext hitems hlength
    rw [readItems, hitem indent _ fuel (ends_cons (by decide) _) (by omega)]
    simp only [Option.bind_eq_bind, Option.bind_some,
      skipBlanks_cons (show isBlank ',' = false by decide),
      readItems_append_blanks (isBlank_of_mem_newline _)]
    rw [further] at hrest
    rw [hrest]
    rfl

theorem readFields_further {field : String × Json} {fields : List (String × Json)}
    (hfield : Reads field.2) (hfields : ∀ f ∈ fields, Reads f.2) (rest : List Char) {fuel : Nat}
    (hfuel : 2 * ((fieldText indent field).toList ++
      further indent (fields.map (fieldText indent))).length < fuel) :
    readFields fuel ((fieldText indent field).toList ++
      (further indent (fields.map (fieldText indent)) ++ (blanks ++ '\x7d' :: rest))) =
        some ((field :: fields).map fun (key, value) => (some key, value), rest) := by
  induction fields generalizing field fuel with
  | nil =>
    obtain ⟨fuel, rfl⟩ : ∃ n, fuel = n + 1 := ⟨fuel - 1, by omega⟩
    simp only [List.map_nil, further, List.flatMap_nil, List.append_nil, List.nil_append] at hfuel ⊢
    rw [readFields_fieldText indent hfield _ (ends_append_blanks hblanks (ends_cons (by decide) _))
      hfuel]
    simp [skipBlanks_append hblanks, skipBlanks_cons (show isBlank '\x7d' = false by decide)]
  | cons next fields ih =>
    obtain ⟨hnext, hfields⟩ := List.forall_mem_cons.mp hfields
    obtain ⟨fuel, rfl⟩ : ∃ n, fuel = n + 1 := ⟨fuel - 1, by omega⟩
    simp only [List.map_cons, further, List.flatMap_cons, List.cons_append, List.append_assoc,
      List.length_append, List.length_cons] at hfuel ⊢
    have hlength : 2 * ((fieldText indent next).toList ++
        further indent (fields.map (fieldText indent))).length < fuel := by
      rw [List.length_append, further]
      omega
    have hrest := ih hnext hfields hlength
    rw [readFields_fieldText indent hfield _ (ends_cons (by decide) _) (by omega)]
    simp only [skipBlanks_cons (show isBlank ',' = false by decide),
      readFields_append_blanks (isBlank_of_mem_newline _)]
    rw [further] at hrest
    rw [hrest]
    rfl

end Lists

section Texts

variable (indent : Nat)

theorem toList_prettyAt_null : (prettyAt indent .null).toList = ['n', 'u', 'l', 'l'] := by
  rw [prettyAt, String.toList_ofList]

theorem toList_prettyAt_bool (value : Bool) : (prettyAt indent (.bool value)).toList =
    if value then ['t', 'r', 'u', 'e'] else ['f', 'a', 'l', 's', 'e'] := by
  cases value <;> simp [prettyAt]

theorem toList_prettyAt_nat (n : Nat) :
    (prettyAt indent (.nat n)).toList = Nat.toDigits 10 n := by
  simp [nat, prettyAt, Nat.repr_eq_ofList_toDigits]

theorem toList_prettyAt_text (s : String) :
    (prettyAt indent (.text s)).toList = '"' :: (s.toList.flatMap escape ++ ['"']) := by
  simp [text, prettyAt, quoted]

theorem toList_prettyAt_array_nil : (prettyAt indent (.array [])).toList = ['[', ']'] := by
  simp [prettyAt]

theorem toList_prettyAt_array_cons (item : Json) (items : List Json) :
    (prettyAt indent (.array (item :: items))).toList =
      '[' :: ((newline (indent + 1)).toList ++ ((prettyAt (indent + 1) item).toList ++
        (further (indent + 1) (items.map (prettyAt (indent + 1))) ++
          ((newline indent).toList ++ [']'])))) := by
  simp [prettyAt, prettyItems_eq_map, toList_commaLines]

theorem toList_prettyAt_record_nil :
    (prettyAt indent (.record [])).toList = ['\x7b', '\x7d'] := by
  simp [record, prettyAt]

theorem toList_prettyAt_record_cons (field : String × Json) (fields : List (String × Json)) :
    (prettyAt indent (.record (field :: fields))).toList =
      '\x7b' :: ((newline (indent + 1)).toList ++ ((fieldText (indent + 1) field).toList ++
        (further (indent + 1) (fields.map (fieldText (indent + 1))) ++
          ((newline indent).toList ++ ['\x7d'])))) := by
  have hfields := prettyFields_eq_map (indent + 1) (field :: fields)
  simp only [List.map_cons] at hfields
  simp [record, prettyAt, hfields, toList_commaLines]

end Texts

/-- The text of a document starts with it, and not with the end of a list. -/
theorem Written.exists_cons {j : Json} (h : Written j) (indent : Nat) :
    ∃ c cs, (prettyAt indent j).toList = c :: cs ∧ isBlank c = false ∧ c ≠ ']' := by
  cases h with
  | null => exact ⟨_, _, toList_prettyAt_null indent, by decide, by decide⟩
  | bool value =>
    rw [toList_prettyAt_bool]
    cases value <;> exact ⟨_, _, rfl, by decide, by decide⟩
  | nat n =>
    rw [toList_prettyAt_nat]
    cases hn : Nat.toDigits 10 n with
    | nil => exact absurd hn Nat.toDigits_ne_nil
    | cons d ds =>
      have hdigit : isDigit d = true := isDigit_of_mem_toDigits (n := n) (by simp [hn])
      refine ⟨d, ds, rfl, ?_, ?_⟩
      · simp only [isBlank, Bool.or_eq_false_iff, beq_eq_false_iff_ne]
        refine ⟨⟨⟨?_, ?_⟩, ?_⟩, ?_⟩
        all_goals
          rintro rfl
          cases hdigit
      · rintro rfl
        cases hdigit
  | text s => exact ⟨_, _, toList_prettyAt_text indent s, by decide, by decide⟩
  | @array items _ =>
    cases items with
    | nil => exact ⟨_, _, toList_prettyAt_array_nil indent, by decide, by decide⟩
    | cons item items =>
      exact ⟨_, _, toList_prettyAt_array_cons indent item items, by decide, by decide⟩
  | @record fields _ =>
    cases fields with
    | nil => exact ⟨_, _, toList_prettyAt_record_nil indent, by decide, by decide⟩
    | cons field fields =>
      exact ⟨_, _, toList_prettyAt_record_cons indent field fields, by decide, by decide⟩

/-- There is always one step. -/
theorem Written.reads_of_succ {j : Json} (h : Written j)
    (hread : ∀ indent rest fuel, Ends rest → 2 * (prettyAt indent j).toList.length ≤ fuel + 1 →
      readValue (fuel + 1) ((prettyAt indent j).toList ++ rest) = some (j, rest)) : Reads j := by
  intro indent rest fuel hrest hfuel
  obtain ⟨c, cs, htext, -, -⟩ := h.exists_cons indent
  have hlength : (prettyAt indent j).toList.length = cs.length + 1 := by
    rw [htext, List.length_cons]
  obtain ⟨fuel, rfl⟩ : ∃ n, fuel = n + 1 := ⟨fuel - 1, by omega⟩
  exact hread indent rest fuel hrest hfuel

theorem readValue_quote (fuel : Nat) (cs : List Char) :
    readValue (fuel + 1) ('"' :: cs) =
      (readString cs).map fun (text, rest) => (.string text, rest) := by
  rw [readValue, skipBlanks_cons (by decide)]
  rfl

theorem readValue_bracket (fuel : Nat) {c : Char} {cs cs' : List Char}
    (hskip : skipBlanks cs = c :: cs') (hc : c ≠ ']') :
    readValue (fuel + 1) ('[' :: cs) =
      (readItems fuel (c :: cs')).map fun (items, rest) => (.array items, rest) := by
  rw [readValue, skipBlanks_cons (by decide)]
  simp only [hskip]
  split
  · next heq => exact absurd (List.cons.inj heq).1 hc
  · rfl

theorem readValue_brace (fuel : Nat) {cs cs' : List Char} (hskip : skipBlanks cs = '"' :: cs') :
    readValue (fuel + 1) ('\x7b' :: cs) =
      (readFields fuel ('"' :: cs')).map fun (fields, rest) => (.object fields, rest) := by
  rw [readValue, skipBlanks_cons (by decide)]
  simp only [hskip]
  rfl

theorem reads_nat (n : Nat) : Reads (.nat n) := by
  refine (Written.nat n).reads_of_succ fun indent rest fuel hrest _ => ?_
  have hnumber := readNumber_toDigits n hrest
  obtain ⟨d, ds, htext, hblank, -⟩ := (Written.nat n).exists_cons indent
  rw [toList_prettyAt_nat] at htext ⊢
  have hdigit : isDigit d = true := isDigit_of_mem_toDigits (n := n) (by simp [htext])
  rw [htext, List.cons_append] at hnumber ⊢
  rw [readValue, skipBlanks_cons hblank]
  -- A digit starts nothing else.
  split
  case h_7 => rw [hnumber]; rfl
  all_goals
    next heq =>
      rw [(List.cons.inj heq).1] at hdigit
      cases hdigit

theorem reads_array {items : List Json} (hitems : ∀ item ∈ items, Written item)
    (h : ∀ item ∈ items, Reads item) : Reads (.array items) := by
  refine (Written.array hitems).reads_of_succ fun indent rest fuel hrest hfuel => ?_
  cases items with
  | nil =>
    rw [toList_prettyAt_array_nil, readValue, List.cons_append, skipBlanks_cons (by decide)]
    rfl
  | cons item items =>
    obtain ⟨hitem, hothers⟩ := List.forall_mem_cons.mp h
    obtain ⟨c, cs, htext, hblank, hclose⟩ :=
      (hitems item List.mem_cons_self).exists_cons (indent + 1)
    rw [toList_prettyAt_array_cons] at hfuel ⊢
    simp only [List.length_cons, List.length_append] at hfuel
    have hlength : 2 * ((prettyAt (indent + 1) item).toList ++
        further (indent + 1) (items.map (prettyAt (indent + 1)))).length < fuel := by
      rw [List.length_append]
      omega
    have hread := readItems_further (isBlank_of_mem_newline indent) (indent + 1) hitem hothers rest
      hlength
    rw [htext] at hread ⊢
    simp only [List.cons_append, List.append_assoc, List.nil_append] at hread ⊢
    rw [readValue_bracket fuel ((skipBlanks_append (isBlank_of_mem_newline _) _).trans
      (skipBlanks_cons hblank _)) hclose, hread]
    rfl

theorem reads_record {fields : List (String × Json)} (hfields : ∀ field ∈ fields, Written field.2)
    (h : ∀ field ∈ fields, Reads field.2) : Reads (.record fields) := by
  refine (Written.record hfields).reads_of_succ fun indent rest fuel hrest hfuel => ?_
  cases fields with
  | nil =>
    rw [toList_prettyAt_record_nil, readValue, List.cons_append, skipBlanks_cons (by decide)]
    rfl
  | cons field fields =>
    obtain ⟨hfield, hothers⟩ := List.forall_mem_cons.mp h
    rw [toList_prettyAt_record_cons] at hfuel ⊢
    simp only [List.length_cons, List.length_append] at hfuel
    have hlength : 2 * ((fieldText (indent + 1) field).toList ++
        further (indent + 1) (fields.map (fieldText (indent + 1)))).length < fuel := by
      rw [List.length_append]
      omega
    have hread := readFields_further (isBlank_of_mem_newline indent) (indent + 1) hfield hothers
      rest hlength
    rw [toList_fieldText] at hread ⊢
    simp only [List.cons_append, List.append_assoc, List.nil_append] at hread ⊢
    rw [readValue_brace fuel ((skipBlanks_append (isBlank_of_mem_newline _) _).trans
      (skipBlanks_cons (by decide) _)), hread]
    rfl

/-- Whatever is written is taken back. -/
theorem Written.reads {j : Json} (h : Written j) : Reads j := by
  induction h with
  | null =>
    refine Written.null.reads_of_succ fun indent rest fuel _ _ => ?_
    rw [toList_prettyAt_null, readValue, List.cons_append, skipBlanks_cons (by decide)]
    rfl
  | bool value =>
    refine (Written.bool value).reads_of_succ fun indent rest fuel _ _ => ?_
    rw [toList_prettyAt_bool, readValue]
    cases value <;> rfl
  | nat n => exact reads_nat n
  | text s =>
    refine (Written.text s).reads_of_succ fun indent rest fuel _ _ => ?_
    rw [toList_prettyAt_text, List.cons_append, readValue_quote, List.append_assoc,
      List.singleton_append, readString_escape]
    rfl
  | array hitems ih => exact reads_array hitems ih
  | record hfields ih => exact reads_record hfields ih

/-- The document and the end of its last line. -/
theorem Written.parse?_pretty {j : Json} (h : Written j) : parse? (j.pretty ++ "\n") = some j := by
  have hend : Ends ['\n'] := ends_cons (by decide) []
  have htext : (j.pretty ++ "\n").toList = (prettyAt 0 j).toList ++ ['\n'] := by simp [pretty]
  have hread := h.reads 0 ['\n'] (2 * (j.pretty ++ "\n").toList.length + 2) hend (by
    rw [htext, List.length_append]
    omega)
  rw [← htext] at hread
  rw [parse?]
  dsimp only
  rw [hread]
  rfl

end ClassAtlas.Json
