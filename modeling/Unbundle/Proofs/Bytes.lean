import Mathlib
import Unbundle.Bytes
/-
Numbers of a fixed width, and numbers in two's complement.

A field of `width` octets holds the numbers below `256 ^ width`, or the integers from `-2 ^ (8 * width - 1)` up to
`2 ^ (8 * width - 1)`, the upper end apart.

Results:
- `toNat_ofNat`: such a number is read back as it was written.
- `toInt_ofInt`: so is such an integer.
- `ofInt_toInt`: octets read as an integer are written back as they were.
- `isSigned_toInt`: what is read is such an integer.
-/
namespace Unbundle

namespace Bytes

theorem toNat_lt (bs : Bytes) : toNat bs < 256 ^ bs.length := by
  induction bs with
  | nil => simp [toNat]
  | cons b rest ih =>
    have hb : b.toNat < 256 := b.toNat_lt
    simp only [toNat, List.length_cons, Nat.pow_succ]
    omega

theorem toNat_ofNat (width n : Nat) (h : n < 256 ^ width) : toNat (ofNat width n) = n := by
  induction width generalizing n with
  | zero => simp at h; simp [ofNat, toNat, h]
  | succ width ih =>
    have hd : n / 256 < 256 ^ width := by
      rw [Nat.div_lt_iff_lt_mul (by decide)]
      simpa [Nat.pow_succ] using h
    simp only [ofNat, toNat, ih _ hd, UInt8.toNat_ofNat']
    omega

theorem toNat_lt_two_pow (bs : Bytes) : toNat bs < 2 ^ (8 * bs.length) := by
  have h := toNat_lt bs
  rwa [Nat.pow_mul]

/-! ## Two's complement -/

/-- an integer that a field of `width` octets holds in two's complement -/
def IsSigned (width : Nat) (z : Int) : Prop := -2 ^ (8 * width - 1) ≤ z ∧ z < 2 ^ (8 * width - 1)

theorem signed_eq (bits n : Nat) : signed bits n = if (n : Int) < 2 ^ (bits - 1) then (n : Int) else n - 2 ^ bits := by
  have hsmall : (n : Int) < 2 ^ (bits - 1) ↔ n < 1 <<< (bits - 1) := by
    rw [Nat.one_shiftLeft]
    exact_mod_cast Iff.rfl
  rw [signed, Nat.one_shiftLeft bits]
  simp only [hsmall]
  push_cast
  rfl

theorem ofInt_eq (width : Nat) (z : Int) : ofInt width z = ofNat width (z % 2 ^ (8 * width)).toNat := by
  rw [ofInt, Nat.one_shiftLeft]
  push_cast
  rfl

/-- a field of one bit or more holds twice as many numbers as natural ones in two's complement -/
theorem two_pow_eq_twice (bits : Nat) (h : 0 < bits) : (2 : Int) ^ bits = 2 * 2 ^ (bits - 1) := by
  rw [← pow_succ', Nat.sub_add_cancel h]

theorem isSigned_toInt (bs : Bytes) (h : 0 < bs.length) : IsSigned bs.length (toInt bs) := by
  have hlt : (toNat bs : Int) < 2 ^ (8 * bs.length) := by exact_mod_cast toNat_lt_two_pow bs
  have htwice := two_pow_eq_twice (8 * bs.length) (by omega)
  unfold IsSigned toInt
  rw [signed_eq]
  split_ifs with hsmall <;> omega

theorem ofInt_toInt (bs : Bytes) : ofInt bs.length (toInt bs) = bs := by
  have hlt : (toNat bs : Int) < 2 ^ (8 * bs.length) := by exact_mod_cast toNat_lt_two_pow bs
  have hmod : toInt bs % 2 ^ (8 * bs.length) = toNat bs := by
    rw [toInt, signed_eq]
    split_ifs with hsmall
    · exact Int.emod_eq_of_lt (Int.natCast_nonneg _) hlt
    · rw [Int.sub_emod_right]
      exact Int.emod_eq_of_lt (Int.natCast_nonneg _) hlt
  rw [ofInt_eq, hmod, Int.toNat_natCast, ofNat_toNat]

@[simp] theorem length_ofInt (width : Nat) (z : Int) : (ofInt width z).length = width := length_ofNat _ _

theorem toInt_ofInt {width : Nat} {z : Int} (hw : 0 < width) (h : IsSigned width z) : toInt (ofInt width z) = z := by
  obtain ⟨hlow, hhigh⟩ := h
  have htwice := two_pow_eq_twice (8 * width) (by omega)
  have hpos : (0 : Int) < 2 ^ (8 * width) := by positivity
  -- the digits written are those of `z`, or of `z` a whole range further up when `z` is negative
  obtain ⟨n, hn, hz⟩ : ∃ n : Nat, z % 2 ^ (8 * width) = n ∧
      (0 ≤ z ∧ (n : Int) = z ∨ z < 0 ∧ (n : Int) = z + 2 ^ (8 * width)) := by
    rcases lt_or_ge z 0 with hneg | hnonneg
    · refine ⟨(z + 2 ^ (8 * width)).toNat, ?_, .inr ⟨hneg, Int.toNat_of_nonneg (by omega)⟩⟩
      rw [Int.toNat_of_nonneg (by omega), ← Int.add_emod_right, Int.emod_eq_of_lt (by omega) (by omega)]
    · refine ⟨z.toNat, ?_, .inl ⟨hnonneg, Int.toNat_of_nonneg hnonneg⟩⟩
      rw [Int.toNat_of_nonneg hnonneg, Int.emod_eq_of_lt hnonneg (by omega)]
  have hlt : n < 256 ^ width := by
    have hbound : (n : Int) < 2 ^ (8 * width) := by
      rw [← hn]
      exact Int.emod_lt_of_pos _ hpos
    have hpow : (256 : Nat) ^ width = 2 ^ (8 * width) := by
      rw [pow_mul]
      norm_num
    rw [hpow]
    exact_mod_cast hbound
  rw [toInt, length_ofInt, ofInt_eq, hn, Int.toNat_natCast, toNat_ofNat width n hlt, signed_eq]
  split_ifs with hsmall <;> omega

end Bytes

end Unbundle
