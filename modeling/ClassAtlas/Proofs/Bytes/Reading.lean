import ClassAtlas.Bytes.Reader
import Mathlib.Algebra.Group.Nat.Defs
import Mathlib.Data.List.Forall2

/-!
# Writing for readers

How numbers and lists are stored, and which bytes a reader takes for what. A
reader is pinned down by the bytes that it takes and what it makes of them,
whatever comes before and after; readers that follow each other take their
bytes one after the other.
-/

namespace ClassAtlas

/-! ## Stored data -/

/-- A number in `width` bytes, the most significant one first. -/
def stored : Nat → Nat → Bytes
  | 0, _ => []
  | width + 1, n => stored width (n / 256) ++ [UInt8.ofNat n]

def word (w : UInt16) : Bytes :=
  stored 2 w.toNat

/-- A list whose length is stored in two bytes. -/
structure Table (α : Type) where
  rows : List α
  fits : rows.length < UInt16.size

def Table.bytes {α : Type} (row : α → Bytes) (t : Table α) : Bytes :=
  stored 2 t.rows.length ++ t.rows.flatMap row

@[simp] theorem length_stored (width n : Nat) : (stored width n).length = width := by
  induction width generalizing n with
  | zero => rfl
  | succ width ih => simp [stored, ih]

@[simp] theorem length_word (w : UInt16) : (word w).length = 2 :=
  length_stored 2 w.toNat

theorem bigEndian_stored {width n : Nat} (h : n < 256 ^ width) :
    Reader.bigEndian (stored width n) = n := by
  induction width generalizing n with
  | zero =>
    rw [Nat.pow_zero, Nat.lt_one_iff] at h
    subst h
    rfl
  | succ width ih =>
    have hhigh : n / 256 < 256 ^ width := by
      rw [Nat.div_lt_iff_lt_mul (by decide)]
      rwa [Nat.pow_succ] at h
    have hstep : Reader.bigEndian (stored (width + 1) n) =
        Reader.bigEndian (stored width (n / 256)) * 256 + (UInt8.ofNat n).toNat := by
      simp [Reader.bigEndian, stored]
    rw [hstep, ih hhigh, UInt8.toNat_ofNat']
    omega

namespace Reader

variable {ε α β : Type}

/-- The reader takes exactly these bytes, wherever they stand, and makes `a` of them. -/
def Reads (reader : Reader ε α) (bytes : Bytes) (a : α) : Prop :=
  ∀ position rest,
    reader ⟨position, bytes ++ rest⟩ = .ok (a, ⟨position + bytes.length, rest⟩)

namespace Reads

/-! ## Sequences -/

theorem pure (a : α) : Reads (Pure.pure a : Reader ε α) [] a := by
  intro position rest
  rfl

theorem bind {reader : Reader ε α} {next : α → Reader ε β} {first second : Bytes} {a : α} {b : β}
    (hfirst : Reads reader first a) (hsecond : Reads (next a) second b) :
    Reads (reader >>= next) (first ++ second) b := by
  intro position rest
  have hread : (reader >>= next) ⟨position, first ++ second ++ rest⟩ =
      next a ⟨position + first.length, second ++ rest⟩ := by
    rw [List.append_assoc]
    simp only [Bind.bind, StateT.bind, hfirst position (second ++ rest), Except.bind]
  rw [hread, hsecond, List.length_append, Nat.add_assoc]

/-- After the last reader of a sequence, what was read is only put together. -/
theorem last {reader : Reader ε α} {next : α → Reader ε β} {bytes : Bytes} {a : α} {b : β}
    (h : Reads reader bytes a) (hnext : next a = Pure.pure b) :
    Reads (reader >>= next) bytes b := by
  have hboth : Reads (reader >>= next) (bytes ++ []) b := by
    apply h.bind
    rw [hnext]
    exact pure b
  rwa [List.append_nil] at hboth

/-- Whatever follows is not looked at. -/
theorem runOn_append {reader : Reader ε α} {bytes : Bytes} {a : α} (h : Reads reader bytes a)
    (rest : Bytes) : reader.runOn (bytes ++ rest) = .ok a := by
  simp [runOn, Cursor.ofBytes, h 0 rest]

theorem replicate {item : Reader ε β} {row : α → Bytes} {as : List α} {bs : List β}
    (h : List.Forall₂ (fun a b => Reads item (row a) b) as bs) :
    Reads (Reader.replicate as.length item) (as.flatMap row) bs := by
  induction h with
  | nil => exact pure []
  | cons hfirst _ ih =>
    rw [List.length_cons, Reader.replicate, List.flatMap_cons]
    exact hfirst.bind (ih.last rfl)

/-! ## Fields -/

variable [Truncation ε]

theorem take {bytes : Bytes} {n : Nat} (h : bytes.length = n) :
    Reads (Reader.take n : Reader ε Bytes) bytes bytes := by
  intro position rest
  subst h
  simp [Reader.take]

theorem skip {bytes : Bytes} {n : Nat} (h : bytes.length = n) :
    Reads (Reader.skip n : Reader ε Unit) bytes () :=
  (take h).last rfl

theorem nat {width n : Nat} (h : n < 256 ^ width) :
    Reads (Reader.nat width : Reader ε Nat) (stored width n) n := by
  have hread : Reads (Reader.nat width : Reader ε Nat) _ _ :=
    (take (length_stored width n)).last rfl
  rwa [bigEndian_stored h] at hread

theorem u8 (b : UInt8) : Reads (Reader.u8 : Reader ε Nat) [b] b.toNat := by
  have hstored : stored 1 b.toNat = [b] := by simp [stored]
  rw [← hstored]
  exact nat b.toNat_lt

theorem u16 (w : UInt16) : Reads (Reader.u16 : Reader ε Nat) (word w) w.toNat :=
  nat w.toNat_lt

theorem flags (w : UInt16) : Reads (Reader.flags : Reader ε UInt16) (word w) w := by
  have hread : Reads (Reader.flags : Reader ε UInt16) _ _ := (u16 w).last rfl
  rwa [UInt16.ofNat_toNat] at hread

theorem list {item : Reader ε β} {row : α → Bytes} {t : Table α} {bs : List β}
    (h : List.Forall₂ (fun a b => Reads item (row a) b) t.rows bs) :
    Reads (Reader.list item) (t.bytes row) bs :=
  (nat t.fits).bind (replicate h)

theorem list_unit {item : Reader ε Unit} {row : α → Bytes} (h : ∀ a, Reads item (row a) ())
    (t : Table α) :
    Reads (Reader.list item) (t.bytes row) (t.rows.map fun _ => ()) := by
  apply list
  rw [List.forall₂_map_right_iff, List.forall₂_same]
  exact fun a _ => h a

end Reads

end Reader

end ClassAtlas
