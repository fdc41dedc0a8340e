import ClassAtlas.Proofs.Text.Utf8
import Mathlib.Data.List.Forall2

/-!
# The order of UTF-8 bytes

UTF-8 keeps the order of texts: where two texts differ first, the bytes of the
smaller character are the smaller ones. For characters of different lengths
the first bytes tell; for the others, the bits are compared six at a time.
-/

namespace ClassAtlas.Text.Utf8

/-- A code with six more bits. -/
def extend (v : Nat) (b : UInt8) : Nat :=
  v * 64 + (b.toNat - 0x80)

theorem cons_lt_cons {a b : UInt8} (h : a.toNat < b.toNat) (xs ys : Bytes) : a :: xs < b :: ys :=
  List.cons_lt_cons_iff.mpr (.inl (UInt8.lt_iff_toNat_lt.mpr h))

/-- Codes are compared by the bits that come first, and then byte by byte. -/
theorem lt_of_foldl_extend_lt {bs cs : Bytes}
    (htrailing : List.Forall₂ (fun b c => Trailing b ∧ Trailing c) bs cs) {v w : Nat}
    (h : bs.foldl extend v < cs.foldl extend w) :
    v < w ∨ v = w ∧ ∀ xs ys, bs ++ xs < cs ++ ys := by
  induction htrailing generalizing v w with
  | nil => exact .inl h
  | @cons b c bs cs hbc _ ih =>
    rw [List.foldl_cons, List.foldl_cons] at h
    rcases ih h with hlt | ⟨heq, hrest⟩
    · have hfirst : v < w ∨ v = w ∧ b.toNat < c.toNat := by
        unfold extend at hlt
        omega
      exact hfirst.imp_right fun hfirst => ⟨hfirst.1, fun _ _ => cons_lt_cons hfirst.2 _ _⟩
    · obtain ⟨hvw, hsame⟩ : v = w ∧ b.toNat = c.toNat := by
        unfold extend at heq
        omega
      refine .inr ⟨hvw, fun xs ys => List.cons_lt_cons_iff.mpr (.inr ⟨?_, hrest xs ys⟩)⟩
      exact UInt8.toNat_inj.mp hsame

/-- In two forms of one length the first bytes count from the same number. -/
theorem append_lt_append_of_lead {a a' : UInt8} {low : Nat} (ha : low ≤ a.toNat)
    (ha' : low ≤ a'.toNat) {bs cs : Bytes}
    (htrailing : List.Forall₂ (fun b c => Trailing b ∧ Trailing c) bs cs)
    (h : bs.foldl extend (a.toNat - low) < cs.foldl extend (a'.toNat - low)) (xs ys : Bytes) :
    a :: bs ++ xs < a' :: cs ++ ys := by
  rcases lt_of_foldl_extend_lt htrailing h with hlt | ⟨heq, hrest⟩
  · exact cons_lt_cons (by omega) _ _
  · have hsame : a.toNat = a'.toNat := by omega
    exact List.cons_lt_cons_iff.mpr (.inr ⟨UInt8.toNat_inj.mp hsame, hrest xs ys⟩)

/-- The bytes of the smaller character are smaller, whatever follows. -/
theorem Form.append_lt_append {bs cs : Bytes} {v w : Nat} (hb : Form bs v) (hc : Form cs w)
    (h : v < w) (xs ys : Bytes) : bs ++ xs < cs ++ ys := by
  cases hb with
  | one ha hv => cases hc <;> exact cons_lt_cons (by omega) _ _
  | two ha hb hv =>
    cases hc with
    | one => omega
    | two ha' hb' hw =>
      rw [hv, hw] at h
      have hlead : 0xC0 ≤ 0xC2 := by decide
      exact append_lt_append_of_lead (Nat.le_trans hlead ha.1) (Nat.le_trans hlead ha'.1)
        (.cons ⟨hb, hb'⟩ .nil) h xs ys
    | three | four => exact cons_lt_cons (by omega) _ _
  | three ha hb _ _ hc₁ hv =>
    cases hc with
    | one | two => omega
    | three ha' hb' _ _ hc' hw =>
      rw [hv, hw] at h
      exact append_lt_append_of_lead ha.1 ha'.1 (.cons ⟨hb, hb'⟩ (.cons ⟨hc₁, hc'⟩ .nil)) h xs ys
    | four => exact cons_lt_cons (by omega) _ _
  | four ha hb _ _ hc₁ hd hv =>
    cases hc with
    | one | two | three => omega
    | four ha' hb' _ _ hc' hd' hw =>
      rw [hv, hw] at h
      exact append_lt_append_of_lead ha.1 ha'.1
        (.cons ⟨hb, hb'⟩ (.cons ⟨hc₁, hc'⟩ (.cons ⟨hd, hd'⟩ .nil))) h xs ys

theorem flatMap_lt_flatMap {cs ds : List Char} (h : cs < ds) :
    cs.flatMap String.utf8EncodeChar < ds.flatMap String.utf8EncodeChar := by
  induction cs generalizing ds with
  | nil =>
    cases ds with
    | nil => exact absurd h (List.not_lt_nil _)
    | cons d ds =>
      rw [List.flatMap_cons]
      cases hform : String.utf8EncodeChar d with
      | nil =>
        have hd := form_utf8EncodeChar d
        rw [hform] at hd
        cases hd
      | cons byte bytes => exact List.nil_lt_cons _ _
  | cons c cs ih =>
    cases ds with
    | nil => exact absurd h (List.not_lt_nil _)
    | cons d ds =>
      rw [List.flatMap_cons, List.flatMap_cons]
      rcases List.cons_lt_cons_iff.mp h with hlt | ⟨rfl, hlt⟩
      · exact (form_utf8EncodeChar c).append_lt_append (form_utf8EncodeChar d) hlt _ _
      · exact List.append_left_lt (ih hlt)

/-- Texts are ordered as their bytes are. -/
theorem encode_lt_encode {a b : String} (h : a < b) : encode a < encode b :=
  flatMap_lt_flatMap h

end ClassAtlas.Text.Utf8
