import ClassAtlas.Proofs.Bytes.Reading
import Mathlib.Data.List.Induction

/-!
# Cut and continued bytes

Some readers need all the bytes that they read, and nothing behind them: cut
anywhere, the bytes leave the reader asking for more than there are. This holds
of readers that take bytes one after the other, as it holds of each of them.
-/

namespace ClassAtlas.Reader

variable {ε α β : Type}

/-! ## Running in sequence -/

theorem bind_apply_eq_ok_iff {reader : Reader ε α} {next : α → Reader ε β} {c c' : Cursor} {b : β} :
    (reader >>= next) c = .ok (b, c') ↔
      ∃ a middle, reader c = .ok (a, middle) ∧ next a middle = .ok (b, c') := by
  cases h : reader c with
  | error e => simp [Bind.bind, StateT.bind, Except.bind, h]
  | ok result => simp [Bind.bind, StateT.bind, Except.bind, h, Prod.ext_iff]

theorem bind_of_error {reader : Reader ε α} {c : Cursor} {e : ε} (h : reader c = .error e)
    (next : α → Reader ε β) : (reader >>= next) c = .error e := by
  simp [Bind.bind, StateT.bind, Except.bind, h]

theorem bind_of_ok {reader : Reader ε α} {c c' : Cursor} {a : α} (h : reader c = .ok (a, c'))
    (next : α → Reader ε β) : (reader >>= next) c = next a c' := by
  simp [Bind.bind, StateT.bind, Except.bind, h]

/-! ## What was there to read -/

section

variable [Truncation ε]

theorem of_take {n : Nat} {c c' : Cursor} {bytes : Bytes}
    (h : (take n : Reader ε Bytes) c = .ok (bytes, c')) :
    bytes.length = n ∧ c.rest = bytes ++ c'.rest ∧ c'.position = c.position + n := by
  unfold take at h
  split at h
  · next hle =>
    cases h
    exact ⟨List.length_take_of_le hle, (List.take_append_drop n c.rest).symm, rfl⟩
  · cases h

theorem bigEndian_concat (bytes : Bytes) (b : UInt8) :
    bigEndian (bytes ++ [b]) = bigEndian bytes * 256 + b.toNat := by
  simp [bigEndian]

/-- All bytes are those of a number. -/
theorem stored_bigEndian (bytes : Bytes) :
    bigEndian bytes < 256 ^ bytes.length ∧ stored bytes.length (bigEndian bytes) = bytes := by
  induction bytes using List.reverseRecOn with
  | nil => exact ⟨by decide, rfl⟩
  | append_singleton bytes b ih =>
    have hbyte : b.toNat < 256 := b.toNat_lt
    have hhigh : (bigEndian bytes * 256 + b.toNat) / 256 = bigEndian bytes := by omega
    have hlow : UInt8.ofNat (bigEndian bytes * 256 + b.toNat) = b := by
      apply UInt8.toNat_inj.mp
      rw [UInt8.toNat_ofNat']
      omega
    rw [bigEndian_concat, List.length_append, List.length_singleton]
    refine ⟨?_, ?_⟩
    · rw [Nat.pow_succ]
      have := ih.1
      omega
    · rw [stored, hhigh, hlow, ih.2]

theorem of_nat {width n : Nat} {c c' : Cursor} (h : (nat width : Reader ε Nat) c = .ok (n, c')) :
    n < 256 ^ width ∧ c.rest = stored width n ++ c'.rest := by
  obtain ⟨bytes, middle, htake, hpure⟩ := bind_apply_eq_ok_iff.mp h
  cases hpure
  obtain ⟨rfl, hrest, -⟩ := of_take htake
  obtain ⟨hlt, hstored⟩ := stored_bigEndian bytes
  exact ⟨hlt, by rw [hstored, hrest]⟩

end

/-! ## Cuts -/

variable [Truncation ε]

/-- The reader comes to a place where it needs more bytes than are left, and says so. -/
def Starves (reader : Reader ε α) (c : Cursor) : Prop :=
  ∃ need position, position ≤ c.size ∧ c.size < position + need ∧
    reader c = .error (Truncation.truncated need position c.size)

/-- The reader makes `a` of the bytes, whatever follows, and of no fewer of them anything. -/
structure Needs (reader : Reader ε α) (bytes : Bytes) (a : α) : Prop where
  reads : reader.Reads bytes a
  starves : ∀ front missing, bytes = front ++ missing → missing ≠ [] →
    ∀ position, reader.Starves ⟨position, front⟩

namespace Needs

theorem pure (a : α) : Needs (Pure.pure a : Reader ε α) [] a := by
  refine ⟨.pure a, fun front missing hcut hmissing => absurd ?_ hmissing⟩
  exact (List.append_eq_nil_iff.mp hcut.symm).2

theorem bind {reader : Reader ε α} {next : α → Reader ε β} {first second : Bytes} {a : α} {b : β}
    (hfirst : Needs reader first a) (hsecond : Needs (next a) second b) :
    Needs (reader >>= next) (first ++ second) b := by
  refine ⟨hfirst.reads.bind hsecond.reads, fun front missing hcut hmissing position => ?_⟩
  -- What is left of the second bytes, if the first ones are whole, starves the second reader.
  have hlater (rest : Bytes) (hrest : second = rest ++ missing) :
      (reader >>= next).Starves ⟨position, first ++ rest⟩ := by
    obtain ⟨need, place, hinside, hshort, herror⟩ :=
      hsecond.starves rest missing hrest hmissing (position + first.length)
    have hsize : Cursor.size ⟨position + first.length, rest⟩ =
        Cursor.size ⟨position, first ++ rest⟩ := by
      simp [Cursor.size, Nat.add_assoc]
    rw [hsize] at hinside hshort herror
    refine ⟨need, place, hinside, hshort, ?_⟩
    rw [bind_of_ok (hfirst.reads position rest), herror]
  rcases List.append_eq_append_iff.mp hcut with ⟨rest, rfl, hrest⟩ | ⟨lost, hlost, rfl⟩
  · exact hlater rest hrest
  · by_cases hnone : lost = []
    · subst hnone
      rw [List.append_nil] at hlost
      subst hlost
      simpa using hlater [] rfl
    · obtain ⟨need, place, hinside, hshort, herror⟩ :=
        hfirst.starves front lost hlost hnone position
      exact ⟨need, place, hinside, hshort, bind_of_error herror next⟩

theorem take {bytes : Bytes} {n : Nat} (h : bytes.length = n) :
    Needs (Reader.take n : Reader ε Bytes) bytes bytes := by
  refine ⟨.take h, fun front missing hcut hmissing position => ?_⟩
  have hlength : front.length < n := by
    rw [← h, hcut, List.length_append]
    exact Nat.lt_add_of_pos_right (List.length_pos_iff.mpr hmissing)
  refine ⟨n, position, Nat.le_add_right _ _, Nat.add_lt_add_left hlength _, ?_⟩
  exact if_neg (Nat.not_le.mpr hlength)

end Needs

end ClassAtlas.Reader
