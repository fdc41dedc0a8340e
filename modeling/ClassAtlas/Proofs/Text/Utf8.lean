import ClassAtlas.Text.Utf8
import Mathlib.Data.Char
import Mathlib.Data.List.Basic

/-!
# UTF-8 without gaps

Which bytes are a character, and that the scan reads exactly those as one. A
text is therefore got back from its bytes, and bytes that give a text without
a mark in it are the bytes of that text. A byte below 0x80 always is a
character, whatever it stands between.
-/

namespace ClassAtlas.Text.Utf8

/-! ## One character -/

/-- A byte that can only go on with a character. -/
abbrev Trailing (b : UInt8) : Prop :=
  0x80 ≤ b.toNat ∧ b.toNat ≤ 0xBF

/-- The bytes are the form of the character with this code: the shortest one, and of a code that a
character can have. -/
inductive Form : Bytes → Nat → Prop
  | one {a : UInt8} {v : Nat} (ha : a.toNat < 0x80) (hv : v = a.toNat) : Form [a] v
  | two {a b : UInt8} {v : Nat} (ha : 0xC2 ≤ a.toNat ∧ a.toNat < 0xE0) (hb : Trailing b)
    (hv : v = (a.toNat - 0xC0) * 64 + (b.toNat - 0x80)) : Form [a, b] v
  | three {a b c : UInt8} {v : Nat} (ha : 0xE0 ≤ a.toNat ∧ a.toNat < 0xF0)
    (hb : Trailing b) (hshortest : a.toNat = 0xE0 → 0xA0 ≤ b.toNat)
    (hscalar : a.toNat = 0xED → b.toNat ≤ 0x9F) (hc : Trailing c)
    (hv : v = ((a.toNat - 0xE0) * 64 + (b.toNat - 0x80)) * 64 + (c.toNat - 0x80)) :
    Form [a, b, c] v
  | four {a b c d : UInt8} {v : Nat} (ha : 0xF0 ≤ a.toNat ∧ a.toNat < 0xF5)
    (hb : Trailing b) (hshortest : a.toNat = 0xF0 → 0x90 ≤ b.toNat)
    (hscalar : a.toNat = 0xF4 → b.toNat ≤ 0x8F) (hc : Trailing c) (hd : Trailing d)
    (hv : v = (((a.toNat - 0xF0) * 64 + (b.toNat - 0x80)) * 64 + (c.toNat - 0x80)) * 64 +
      (d.toNat - 0x80)) :
    Form [a, b, c, d] v

theorem form_utf8EncodeChar (c : Char) : Form (String.utf8EncodeChar c) c.toNat := by
  have hvalid : c.toNat < 0xD800 ∨ 0xDFFF < c.toNat ∧ c.toNat < 0x110000 := c.valid
  have hval : c.val.toNat = c.toNat := rfl
  have hbyte : ∀ n < 256, (UInt8.ofNat n).toNat = n := fun n h => UInt8.toNat_ofNat_of_lt' h
  simp only [String.utf8EncodeChar, hval]
  generalize c.toNat = v at hvalid ⊢
  split_ifs with hone htwo hthree
  · have ha := hbyte v (by omega)
    exact .one (by omega) ha.symm
  · have ha := hbyte (v / 64 % 32 + 192) (by omega)
    have hb := hbyte (v % 64 + 128) (by omega)
    exact .two (by omega) (by omega) (by omega)
  · have ha := hbyte (v / 4096 % 16 + 224) (by omega)
    have hb := hbyte (v / 64 % 64 + 128) (by omega)
    have hc := hbyte (v % 64 + 128) (by omega)
    exact .three (by omega) (by omega) (by omega) (by omega) (by omega) (by omega)
  · have ha := hbyte (v / 262144 % 8 + 240) (by omega)
    have hb := hbyte (v / 4096 % 64 + 128) (by omega)
    have hc := hbyte (v / 64 % 64 + 128) (by omega)
    have hd := hbyte (v % 64 + 128) (by omega)
    exact .four (by omega) (by omega) (by omega) (by omega) (by omega) (by omega) (by omega)

theorem Form.isValidChar {bytes : Bytes} {v : Nat} (h : Form bytes v) : v.isValidChar := by
  unfold Nat.isValidChar
  cases h <;> omega

theorem Form.toNat_ofNat {bytes : Bytes} {v : Nat} (h : Form bytes v) :
    (Char.ofNat v).toNat = v := by
  rw [Char.ofNat, dif_pos h.isValidChar]
  rfl

/-- A character has no other form. -/
theorem Form.utf8EncodeChar {bytes : Bytes} {v : Nat} (h : Form bytes v) :
    String.utf8EncodeChar (Char.ofNat v) = bytes := by
  have hval : (Char.ofNat v).val.toNat = v := h.toNat_ofNat
  have hbyte : ∀ (n : Nat) (b : UInt8), n = b.toNat → UInt8.ofNat n = b := by
    intro n b h
    rw [h, UInt8.ofNat_toNat]
  simp only [String.utf8EncodeChar, hval]
  cases h with
  | one ha hv => rw [if_pos (by omega), hbyte v _ hv]
  | @two a b _ ha hb hv =>
    rw [if_neg (by omega), if_pos (by omega), hbyte _ a (by omega), hbyte _ b (by omega)]
  | @three a b c _ ha hb hshortest hscalar hc hv =>
    rw [if_neg (by omega), if_neg (by omega), if_pos (by omega), hbyte _ a (by omega),
      hbyte _ b (by omega), hbyte _ c (by omega)]
  | @four a b c d _ ha hb hshortest hscalar hc hd hv =>
    rw [if_neg (by omega), if_neg (by omega), if_neg (by omega), hbyte _ a (by omega),
      hbyte _ b (by omega), hbyte _ c (by omega), hbyte _ d (by omega)]

/-! ## Scanning -/

section Scan

variable {a b low high : UInt8} {p : Pending} {bytes : Bytes} {c : Char} {tail : List (Option Char)}

theorem start_one (h : a.toNat < 0x80) : start a = ([some (Char.ofNat a.toNat)], none) := by
  have hrange : a < 0x80 := by rwa [UInt8.lt_iff_toNat_lt]
  rw [start, if_pos hrange]

theorem start_two (h : 0xC2 ≤ a.toNat ∧ a.toNat < 0xE0) :
    start a = ([], some ⟨a.toNat - 0xC0, 0, 0x80, 0xBF⟩) := by
  simp only [start, UInt8.lt_iff_toNat_lt, UInt8.reduceToNat]
  rw [if_neg (by omega), if_neg (by omega), if_pos h.2]

theorem start_three (h : 0xE0 ≤ a.toNat ∧ a.toNat < 0xF0) :
    start a = ([], some ⟨a.toNat - 0xE0, 1, if a = 0xE0 then 0xA0 else 0x80,
      if a = 0xED then 0x9F else 0xBF⟩) := by
  simp only [start, UInt8.lt_iff_toNat_lt, UInt8.reduceToNat]
  rw [if_neg (by omega), if_neg (by omega), if_neg (by omega), if_pos h.2]

theorem start_four (h : 0xF0 ≤ a.toNat ∧ a.toNat < 0xF5) :
    start a = ([], some ⟨a.toNat - 0xF0, 2, if a = 0xF0 then 0x90 else 0x80,
      if a = 0xF4 then 0x8F else 0xBF⟩) := by
  simp only [start, UInt8.lt_iff_toNat_lt, UInt8.reduceToNat]
  rw [if_neg (by omega), if_neg (by omega), if_neg (by omega), if_neg (by omega), if_pos h.2]

/-- The bytes that no character starts with. -/
theorem start_gap (h : 0x80 ≤ a.toNat ∧ a.toNat < 0xC2 ∨ 0xF5 ≤ a.toNat) :
    start a = ([none], none) := by
  simp only [start, UInt8.lt_iff_toNat_lt, UInt8.reduceToNat]
  rcases h with h | h
  · rw [if_neg (by omega), if_pos h.2]
  · rw [if_neg (by omega), if_neg (by omega), if_neg (by omega), if_neg (by omega),
      if_neg (by omega)]

theorem trailing_iff : 0x80 ≤ b ∧ b ≤ 0xBF ↔ Trailing b := by
  rw [UInt8.le_iff_toNat_le, UInt8.le_iff_toNat_le]
  rfl

/-- The range of a second byte, narrowed from below after the byte `x` and from above after `y`. -/
theorem trailing_after_iff (x low y high : UInt8) (hlow : 0x80 ≤ low.toNat)
    (hhigh : high.toNat ≤ 0xBF) :
    ((if a = x then low else 0x80) ≤ b ∧ b ≤ if a = y then high else 0xBF) ↔
      Trailing b ∧ (a.toNat = x.toNat → low.toNat ≤ b.toNat) ∧
        (a.toNat = y.toNat → b.toNat ≤ high.toNat) := by
  have hleast : (0x80 : UInt8).toNat = 0x80 := rfl
  have hgreatest : (0xBF : UInt8).toNat = 0xBF := rfl
  rw [UInt8.toNat_inj, UInt8.toNat_inj, UInt8.le_iff_toNat_le, UInt8.le_iff_toNat_le, Trailing]
  split_ifs with hx hy hy <;> grind

theorem scan_lead (h : start a = ([], some p)) : scan none (a :: bytes) = scan (some p) bytes := by
  simp [scan, step, h]

theorem scan_last {code : Nat} (hb : low ≤ b ∧ b ≤ high) :
    scan (some ⟨code, 0, low, high⟩) (b :: bytes) =
      some (Char.ofNat (code * 64 + (b.toNat - 0x80))) :: scan none bytes := by
  rw [scan, step, if_pos hb]
  rfl

theorem scan_inner {code more : Nat} (hb : low ≤ b ∧ b ≤ high) :
    scan (some ⟨code, more + 1, low, high⟩) (b :: bytes) =
      scan (some ⟨code * 64 + (b.toNat - 0x80), more, 0x80, 0xBF⟩) bytes := by
  rw [scan, step, if_pos hb]
  rfl

/-- A waiting character that is read without a gap gets a byte in its range. -/
theorem exists_byte_of_scan (h : scan (some p) bytes = some c :: tail) :
    ∃ b rest, bytes = b :: rest ∧ p.low ≤ b ∧ b ≤ p.high := by
  cases bytes with
  | nil => simp [scan] at h
  | cons b rest =>
    by_cases hb : p.low ≤ b ∧ b ≤ p.high
    · exact ⟨b, rest, rfl, hb⟩
    · simp [scan, step, hb] at h

theorem exists_last_of_scan {code : Nat}
    (h : scan (some ⟨code, 0, low, high⟩) bytes = some c :: tail) :
    ∃ b rest, bytes = b :: rest ∧ (low ≤ b ∧ b ≤ high) ∧
      c = Char.ofNat (code * 64 + (b.toNat - 0x80)) ∧ scan none rest = tail := by
  obtain ⟨b, rest, rfl, hb⟩ := exists_byte_of_scan h
  rw [scan_last hb] at h
  injection h with hc htail
  exact ⟨b, rest, rfl, hb, (Option.some.inj hc).symm, htail⟩

theorem exists_inner_of_scan {code more : Nat}
    (h : scan (some ⟨code, more + 1, low, high⟩) bytes = some c :: tail) :
    ∃ b rest, bytes = b :: rest ∧ (low ≤ b ∧ b ≤ high) ∧
      scan (some ⟨code * 64 + (b.toNat - 0x80), more, 0x80, 0xBF⟩) rest = some c :: tail := by
  obtain ⟨b, rest, rfl, hb⟩ := exists_byte_of_scan h
  rw [scan_inner hb] at h
  exact ⟨b, rest, rfl, hb, h⟩

theorem Form.scan_append {v : Nat} (h : Form bytes v) (rest : Bytes) :
    scan none (bytes ++ rest) = some (Char.ofNat v) :: scan none rest := by
  cases h with
  | one ha hv => simp [scan, step, start_one ha, hv]
  | two ha hb hv =>
    simp only [List.cons_append, List.nil_append, scan_lead (start_two ha)]
    rw [scan_last (trailing_iff.2 hb), hv]
  | three ha hb hshortest hscalar hc hv =>
    have hsecond :=
      (trailing_after_iff 0xE0 0xA0 0xED 0x9F (by decide) (by decide)).2 ⟨hb, hshortest, hscalar⟩
    simp only [List.cons_append, List.nil_append, scan_lead (start_three ha)]
    rw [scan_inner hsecond, scan_last (trailing_iff.2 hc), hv]
  | four ha hb hshortest hscalar hc hd hv =>
    have hsecond :=
      (trailing_after_iff 0xF0 0x90 0xF4 0x8F (by decide) (by decide)).2 ⟨hb, hshortest, hscalar⟩
    simp only [List.cons_append, List.nil_append, scan_lead (start_four ha)]
    rw [scan_inner hsecond, scan_inner (trailing_iff.2 hc), scan_last (trailing_iff.2 hd), hv]

/-- A character that is read without a gap stands in its form. -/
theorem form_of_scan (h : scan none bytes = some c :: tail) :
    ∃ first rest v, bytes = first ++ rest ∧ Form first v ∧ c = Char.ofNat v ∧
      scan none rest = tail := by
  obtain - | ⟨a, bytes⟩ := bytes
  · simp [scan] at h
  have hkinds : a.toNat < 0x80 ∨ (0x80 ≤ a.toNat ∧ a.toNat < 0xC2 ∨ 0xF5 ≤ a.toNat) ∨
      (0xC2 ≤ a.toNat ∧ a.toNat < 0xE0) ∨ (0xE0 ≤ a.toNat ∧ a.toNat < 0xF0) ∨
      (0xF0 ≤ a.toNat ∧ a.toNat < 0xF5) := by omega
  rcases hkinds with ha | ha | ha | ha | ha
  · have hread : some (Char.ofNat a.toNat) :: scan none bytes = some c :: tail := by
      simpa [scan, step, start_one ha] using h
    injection hread with hc htail
    exact ⟨[a], bytes, _, rfl, .one ha rfl, (Option.some.inj hc).symm, htail⟩
  · simp [scan, step, start_gap ha] at h
  · rw [scan_lead (start_two ha)] at h
    obtain ⟨b, rest, rfl, hb, hc, htail⟩ := exists_last_of_scan h
    exact ⟨[a, b], rest, _, rfl, .two ha (trailing_iff.1 hb) rfl, hc, htail⟩
  · rw [scan_lead (start_three ha)] at h
    obtain ⟨b, rest, rfl, hb, h⟩ := exists_inner_of_scan h
    obtain ⟨b', rest, rfl, hb', hc, htail⟩ := exists_last_of_scan h
    obtain ⟨hsecond, hshortest, hscalar⟩ :=
      (trailing_after_iff 0xE0 0xA0 0xED 0x9F (by decide) (by decide)).1 hb
    have hform := Form.three ha hsecond hshortest hscalar (trailing_iff.1 hb') rfl
    exact ⟨[a, b, b'], rest, _, rfl, hform, hc, htail⟩
  · rw [scan_lead (start_four ha)] at h
    obtain ⟨b, rest, rfl, hb, h⟩ := exists_inner_of_scan h
    obtain ⟨b', rest, rfl, hb', h⟩ := exists_inner_of_scan h
    obtain ⟨b'', rest, rfl, hb'', hc, htail⟩ := exists_last_of_scan h
    obtain ⟨hsecond, hshortest, hscalar⟩ :=
      (trailing_after_iff 0xF0 0x90 0xF4 0x8F (by decide) (by decide)).1 hb
    have hform :=
      Form.four ha hsecond hshortest hscalar (trailing_iff.1 hb') (trailing_iff.1 hb'') rfl
    exact ⟨[a, b, b', b''], rest, _, rfl, hform, hc, htail⟩

theorem scan_pending_ne_nil : scan (some p) bytes ≠ [] := by
  induction bytes generalizing p with
  | nil => simp [scan]
  | cons b bytes ih =>
    by_cases hb : p.low ≤ b ∧ b ≤ p.high
    · obtain ⟨code, - | more, low, high⟩ := p
      · simp [scan_last hb]
      · rw [scan_inner hb]
        exact ih
    · simp [scan, step, hb]

/-- Bytes are never passed over without a trace. -/
theorem eq_nil_of_scan (h : scan none bytes = []) : bytes = [] := by
  obtain - | ⟨a, bytes⟩ := bytes
  · rfl
  have hstart : (∃ read, start a = ([read], none)) ∨ ∃ p, start a = ([], some p) := by
    unfold start
    split_ifs <;> simp
  rcases hstart with ⟨read, hread⟩ | ⟨p, hlead⟩
  · simp [scan, step, hread] at h
  · rw [scan_lead hlead] at h
    exact absurd h scan_pending_ne_nil

theorem scan_eq_map_some_iff {chars : List Char} :
    scan none bytes = chars.map some ↔ bytes = chars.flatMap String.utf8EncodeChar := by
  induction chars generalizing bytes with
  | nil =>
    constructor
    · exact eq_nil_of_scan
    · rintro rfl
      rfl
  | cons c chars ih =>
    rw [List.map_cons, List.flatMap_cons]
    constructor
    · intro h
      obtain ⟨first, rest, v, rfl, hform, rfl, htail⟩ := form_of_scan h
      rw [hform.utf8EncodeChar, ih.1 htail]
    · rintro rfl
      rw [(form_utf8EncodeChar c).scan_append, ih.2 rfl, Char.ofNat_toNat]

end Scan

/-! ## Texts -/

@[simp] theorem decodeLossy_encode (text : String) : decodeLossy (encode text) = text := by
  have hscan : scan none (encode text) = text.toList.map some := scan_eq_map_some_iff.2 rfl
  simp [decodeLossy, hscan, Function.comp_def]

theorem eq_encode_of_decodeLossy {bytes : Bytes} {text : String} (h : decodeLossy bytes = text)
    (hmark : replacement ∉ text.toList) : bytes = encode text := by
  have hchars : text.toList = (scan none bytes).map (·.getD replacement) := by
    rw [← h, decodeLossy, String.toList_ofList]
  have hread : ∀ read ∈ scan none bytes, some (read.getD replacement) = read := by
    intro read hread
    cases read with
    | none => exact absurd (hchars ▸ List.mem_map_of_mem hread) hmark
    | some c => rfl
  apply scan_eq_map_some_iff.1
  rw [hchars, List.map_map, Function.comp_def, List.map_congr_left hread, List.map_id']

theorem encode_injective : Function.Injective encode :=
  Function.LeftInverse.injective decodeLossy_encode

theorem encode_append (s t : String) : encode (s ++ t) = encode s ++ encode t := by
  simp [encode]

theorem length_encode (text : String) : (encode text).length = text.utf8ByteSize := by
  rw [← String.size_toByteArray, ← String.utf8Encode_toList, List.utf8Encode, encode]
  simp

/-! ## Bytes that are characters -/

/-- A byte below 0x80 is a character on its own, and ends no other. -/
theorem Form.mem_iff_of_lt {bytes : Bytes} {v : Nat} (h : Form bytes v) {b : UInt8}
    (hb : b.toNat < 0x80) : b ∈ bytes ↔ v = b.toNat := by
  cases h with
  | one ha hv => simp [hv, ← UInt8.toNat_inj, eq_comm]
  | two | three | four =>
    simp only [List.mem_cons, List.not_mem_nil, or_false, ← UInt8.toNat_inj]
    omega

theorem Form.getLast?_iff_of_lt {bytes : Bytes} {v : Nat} (h : Form bytes v) {b : UInt8}
    (hb : b.toNat < 0x80) : bytes.getLast? = some b ↔ v = b.toNat := by
  rw [← h.mem_iff_of_lt hb]
  refine ⟨List.mem_of_getLast?, fun hmem => ?_⟩
  have hv := (h.mem_iff_of_lt hb).mp hmem
  cases h with
  | one ha _ => simpa using List.mem_singleton.mp hmem |>.symm
  | two | three | four => omega

/-- The byte of a character below 0x80. -/
theorem toNat_ofNat_of_lt {c : Char} (hc : c.toNat < 0x80) :
    (UInt8.ofNat c.toNat).toNat = c.toNat :=
  UInt8.toNat_ofNat_of_lt' (Nat.lt_trans hc (by decide))

theorem mem_encode_iff {text : String} {c : Char} (hc : c.toNat < 0x80) :
    UInt8.ofNat c.toNat ∈ encode text ↔ c ∈ text.toList := by
  have hbyte := toNat_ofNat_of_lt hc
  have hone (d : Char) : UInt8.ofNat c.toNat ∈ String.utf8EncodeChar d ↔ d = c := by
    rw [(form_utf8EncodeChar d).mem_iff_of_lt (by rwa [hbyte]), hbyte, Char.toNat_inj]
  simp [encode, hone]

theorem getLast?_encode_iff {text : String} {c : Char} (hc : c.toNat < 0x80) :
    (encode text).getLast? = some (UInt8.ofNat c.toNat) ↔ text.toList.getLast? = some c := by
  have hbyte := toNat_ofNat_of_lt hc
  rcases List.eq_nil_or_concat' text.toList with hnil | ⟨front, last, hlast⟩
  · simp [encode, hnil]
  · have hne : String.utf8EncodeChar last ≠ [] := by
      intro hnone
      have hform := form_utf8EncodeChar last
      rw [hnone] at hform
      cases hform
    rw [encode, hlast, List.flatMap_append, List.flatMap_singleton,
      List.getLast?_append_of_ne_nil _ hne,
      (form_utf8EncodeChar last).getLast?_iff_of_lt (by rwa [hbyte]), hbyte, Char.toNat_inj,
      List.getLast?_concat, Option.some.injEq]

/-- No waiting character takes a byte below 0x80. -/
def Pending.Trails (p : Pending) : Prop :=
  0x80 ≤ p.low.toNat

theorem trails_of_start {a : UInt8} {p : Pending} (h : (start a).2 = some p) : p.Trails := by
  unfold start at h
  split_ifs at h
  all_goals
    obtain rfl := Option.some.inj h
    simp [Pending.Trails]

theorem trails_of_step {pending : Option Pending} {b : UInt8} {p : Pending}
    (h : (step pending b).2 = some p) : p.Trails := by
  unfold step at h
  split at h
  · exact trails_of_start h
  · split at h
    · split at h
      · cases h
      · obtain rfl := Option.some.inj h
        simp [Pending.Trails]
    · exact trails_of_start h

/-- A byte below 0x80 cuts the bytes: what stands before it and what stands after it are read as if
they stood alone. -/
theorem scan_append_cons {c : Char} (hc : c.toNat < 0x80) {pending : Option Pending}
    (h : ∀ p ∈ pending, p.Trails) (front back : Bytes) :
    scan pending (front ++ UInt8.ofNat c.toNat :: back) =
      scan pending front ++ some c :: scan none back := by
  have hbyte := toNat_ofNat_of_lt hc
  have hstart : start (UInt8.ofNat c.toNat) = ([some c], none) := by
    rw [start_one (by rwa [hbyte]), hbyte, Char.ofNat_toNat]
  induction front generalizing pending with
  | nil =>
    cases pending with
    | none => simp [scan, step, hstart]
    | some p =>
      have hout : ¬ (p.low ≤ UInt8.ofNat c.toNat ∧ UInt8.ofNat c.toNat ≤ p.high) := by
        have htrails : 0x80 ≤ p.low.toNat := h p rfl
        rw [UInt8.le_iff_toNat_le]
        omega
      simp [scan, step, hstart, hout]
  | cons b front ih =>
    have hnext := ih (fun p (hp : (step pending b).2 = some p) => trails_of_step hp)
    cases pending <;> simp [scan, hnext]

theorem decodeLossy_append_cons {c : Char} (hc : c.toNat < 0x80) (front back : Bytes) :
    (decodeLossy (front ++ UInt8.ofNat c.toNat :: back)).toList =
      (decodeLossy front).toList ++ c :: (decodeLossy back).toList := by
  simp [decodeLossy, scan_append_cons hc]

end ClassAtlas.Text.Utf8
