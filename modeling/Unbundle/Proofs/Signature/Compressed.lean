import Unbundle.Proofs.Bytes
import Unbundle.Proofs.Signature.Reading
/-
Compressed numbers, octet by octet and bit by bit.

`Width.write` writes a number in one, two or four octets, the highest digit first: the highest bits of the first octet are 0, 10
or 110 and tell the width, the 7, 14 or 29 bits behind them are the number. Any width will do that the number fits in. An
integer is written as its two's complement in these bits, turned left by one, so that its sign becomes the lowest bit.

Results:
- `Packed.octets_eq`, `SignedPacked.turned_eq`: this is how signatures spell their numbers.
- `number_of_badLead`: no number starts with three set bits.
- `integer_eq_ok_iff`: integers are read from what they are written as, and from nothing else.
- `compressed_exact`: numbers and integers of every width are read back exactly.
-/
namespace Unbundle.Signature

open Reader

/-! ## Writing -/

/-- how many octets a number takes -/
def Width.size : Width → Nat
  | .one => 1
  | .two => 2
  | .four => 4

/-- the bits that tell the width: none, 10 in front of 14 bits, 110 in front of 29 -/
def Width.mark : Width → Nat
  | .one => 0
  | .two => 0b10 <<< 14
  | .four => 0b110 <<< 29

/-- the octets of a number, the highest digit first -/
def Width.write (w : Width) (n : Nat) : Bytes := (Bytes.ofNat w.size (w.mark + n)).reverse

/-- the two's complement of an integer, turned left by one bit -/
def Width.turn (w : Width) (z : Int) : Nat := ((BitVec.ofInt w.bits z).rotateLeft 1).toNat

theorem Width.length_write (w : Width) (n : Nat) : (w.write n).length = w.size := by
  rw [write, List.length_reverse, Bytes.length_ofNat]

theorem Packed.octets_eq (n : Packed) : n.octets = n.width.write n.value := by
  obtain ⟨width, value, fits⟩ := n
  cases width with
  | one =>
    have hlt : value < 128 := fits
    have h : (0 + value) % 256 = value := by omega
    simp only [octets, Width.write, Width.size, Width.mark, Bytes.ofNat, h, List.reverse_singleton]
  | two =>
    have hlt : value < 16384 := fits
    have hmark : 0b10 <<< 14 = 0x8000 := rfl
    have h0 : (0x8000 + value) / 256 % 256 = 0x80 + value / 256 := by omega
    have h1 : (0x8000 + value) % 256 = value % 256 := by omega
    simp only [octets, Width.write, Width.size, Width.mark, hmark, Bytes.ofNat, h0, h1, List.reverse_cons,
      List.reverse_nil, List.nil_append, List.cons_append]
  | four =>
    have hlt : value < 536870912 := fits
    have hmark : 0b110 <<< 29 = 0xC0000000 := rfl
    have h0 : (0xC0000000 + value) / 256 / 256 / 256 % 256 = 0xC0 + value / 16777216 := by omega
    have h1 : (0xC0000000 + value) / 256 / 256 % 256 = value / 65536 % 256 := by omega
    have h2 : (0xC0000000 + value) / 256 % 256 = value / 256 % 256 := by omega
    have h3 : (0xC0000000 + value) % 256 = value % 256 := by omega
    simp only [octets, Width.write, Width.size, Width.mark, hmark, Bytes.ofNat, h0, h1, h2, h3, List.reverse_cons,
      List.reverse_nil, List.nil_append, List.cons_append]

/-- turning left by one doubles what the bits below the highest hold and puts the highest bit behind them -/
theorem toNat_rotateLeft_one {w : Nat} (hw : 1 < w) (x : BitVec w) :
    (x.rotateLeft 1).toNat = 2 * (x.toNat % 2 ^ (w - 1)) + x.toNat / 2 ^ (w - 1) := by
  have hpow : 2 ^ w = 2 * 2 ^ (w - 1) := by
    rw [← Nat.pow_succ', Nat.succ_eq_add_one, Nat.sub_add_cancel (by omega)]
  have hlt : x.toNat < 2 * 2 ^ (w - 1) := hpow ▸ x.isLt
  have hhigh : x.toNat / 2 ^ (w - 1) < 2 ^ 1 := by
    rw [Nat.div_lt_iff_lt_mul (Nat.two_pow_pos _)]
    omega
  rw [BitVec.toNat_rotateLeft, Nat.mod_eq_of_lt hw, Nat.shiftLeft_eq, Nat.shiftRight_eq_div_pow, hpow, Nat.pow_one,
    Nat.mul_comm x.toNat, Nat.mul_mod_mul_left]
  exact (Nat.two_pow_add_eq_or_of_lt hhigh _).symm

theorem SignedPacked.turned_eq (z : SignedPacked) : z.turned = z.width.turn z.value := by
  obtain ⟨width, value, hlow, hhigh⟩ := z
  have hbits : 1 < width.bits := by cases width <;> decide
  have htwice := width.two_pow_bits
  have hhalf : 2 ^ (width.bits - 1) = width.half := rfl
  have hmod : (BitVec.ofInt width.bits value).toNat = (if value < 0 then value + 2 * width.half else value).toNat := by
    rw [BitVec.toNat_ofInt, htwice]
    push_cast
    split_ifs with hnegative
    · rw [← Int.add_emod_right, Int.emod_eq_of_lt (by omega) (by omega)]
    · rw [Int.emod_eq_of_lt (by omega) (by omega)]
  rw [Width.turn, toNat_rotateLeft_one hbits, hmod, hhalf, turned]
  dsimp only at hlow hhigh ⊢
  split_ifs with hnegative
  · have hdiv : (value + 2 * width.half).toNat = width.half + (value + width.half).toNat := by omega
    rw [hdiv, Nat.add_mod_left, Nat.mod_eq_of_lt (by omega), Nat.add_div_left _ (by omega), Nat.div_eq_of_lt (by omega)]
  · rw [Nat.mod_eq_of_lt (by omega), Nat.div_eq_of_lt (by omega)]
    rfl

/-! ## Reading -/

section

variable {rest : Bytes} {position : Nat} {met : List CodedType}

theorem packed_of_badLead {lead : UInt8} (h : 0xE0 ≤ lead.toNat) :
    packed ⟨lead :: rest, position, met⟩ = .error (.badLead lead) ⟨rest, position + 1, met⟩ := by
  have hone : ¬ lead < 0x80 := fun hlt => by
    have hlt' : lead.toNat < 128 := UInt8.lt_iff_toNat_lt.1 hlt
    omega
  have htwo : ¬ lead < 0xC0 := fun hlt => by
    have hlt' : lead.toNat < 192 := UInt8.lt_iff_toNat_lt.1 hlt
    omega
  have hfour : ¬ lead < 0xE0 := fun hlt => by
    have hlt' : lead.toNat < 224 := UInt8.lt_iff_toNat_lt.1 hlt
    omega
  simp only [packed, bind, EStateM.bind, byte, hone, htwo, hfour, if_false, fail]

/-- no number starts with three set bits -/
theorem number_of_badLead {lead : UInt8} (h : 0xE0 ≤ lead.toNat) :
    number ⟨lead :: rest, position, met⟩ = .error (.badLead lead) ⟨rest, position + 1, met⟩ := by
  simp only [number, bind, EStateM.bind, packed_of_badLead h]

theorem integer_of_badLead {lead : UInt8} (h : 0xE0 ≤ lead.toNat) :
    integer ⟨lead :: rest, position, met⟩ = .error (.badLead lead) ⟨rest, position + 1, met⟩ := by
  simp only [integer, bind, EStateM.bind, packed_of_badLead h]

end

theorem number_write {w : Width} {n : Nat} (h : n < 2 ^ w.bits) (rest : Bytes) (position : Nat) (met : List CodedType) :
    number ⟨w.write n ++ rest, position, met⟩ = .ok n ⟨rest, position + w.size, met⟩ := by
  have hread := takes_number ⟨w, n, h⟩ rest position met
  rwa [Packed.octets_eq, w.length_write] at hread

theorem SignedPacked.octets_number (z : SignedPacked) : z.number.octets = z.width.write (z.width.turn z.value) := by
  rw [Packed.octets_eq, ← z.turned_eq]
  rfl

theorem Width.half_eq (w : Width) : (w.half : Int) = 2 ^ (w.bits - 1) := by
  rw [half]
  push_cast
  rfl

/-- integers are read from what they are written as, in a width that they fit in, and from nothing else -/
theorem integer_eq_ok_iff {c c' : Cursor} {z : Int} :
    integer c = .ok z c' ↔ ∃ w : Width, -2 ^ (w.bits - 1) ≤ z ∧ z < 2 ^ (w.bits - 1) ∧
      c = ⟨w.write (w.turn z) ++ c'.rest, c.position, c.met⟩ ∧ c' = ⟨c'.rest, c.position + w.size, c.met⟩ := by
  constructor
  · intro h
    obtain ⟨spelled, hrest⟩ := passes_integer c z c' h
    obtain ⟨rest, position, met⟩ := c
    obtain rfl : rest = spelled.number.octets ++ c'.rest := hrest
    rw [takes_integer spelled c'.rest position met, spelled.octets_number, Width.length_write] at h
    obtain ⟨hlow, hhigh⟩ := spelled.fits
    rw [spelled.width.half_eq] at hlow hhigh
    injection h with hvalue hcursor
    subst hvalue
    exact ⟨spelled.width, hlow, hhigh, by rw [spelled.octets_number], hcursor.symm⟩
  · rintro ⟨w, hlow, hhigh, hc, hc'⟩
    rw [← w.half_eq] at hlow hhigh
    have hread := takes_integer ⟨w, z, hlow, hhigh⟩ c'.rest c.position c.met
    rw [SignedPacked.octets_number, w.length_write] at hread
    rw [hc, hc']
    exact hread

/-- **Compressed numbers are read exactly.** A number below 2 ^ 7, 2 ^ 14 or 2 ^ 29 is read back from its one, two or four
octets, whatever stands behind them, and so is an integer that the two's complement of 7, 14 or 29 bits holds from this
complement, turned left by one. No number starts with three set bits. An integer that is read was written so, in the width that
was read. -/
theorem compressed_exact :
    (∀ (w : Width) (n : Nat), n < 2 ^ w.bits → ∀ rest position met,
      number ⟨w.write n ++ rest, position, met⟩ = .ok n ⟨rest, position + w.size, met⟩) ∧
    (∀ lead : UInt8, 0xE0 ≤ lead.toNat → ∀ rest position met,
      number ⟨lead :: rest, position, met⟩ = .error (.badLead lead) ⟨rest, position + 1, met⟩ ∧
      integer ⟨lead :: rest, position, met⟩ = .error (.badLead lead) ⟨rest, position + 1, met⟩) ∧
    (∀ (w : Width) (z : Int), -2 ^ (w.bits - 1) ≤ z → z < 2 ^ (w.bits - 1) → ∀ rest position met,
      integer ⟨w.write (w.turn z) ++ rest, position, met⟩ = .ok z ⟨rest, position + w.size, met⟩) ∧
    ∀ c z c', integer c = .ok z c' → ∃ w : Width, c'.position = c.position + w.size ∧
      c.rest = w.write (w.turn z) ++ c'.rest ∧ -2 ^ (w.bits - 1) ≤ z ∧ z < 2 ^ (w.bits - 1) := by
  refine ⟨fun w n h => number_write h, ?_, ?_, ?_⟩
  · intro lead h rest position met
    exact ⟨number_of_badLead h, integer_of_badLead h⟩
  · intro w z hlow hhigh rest position met
    exact integer_eq_ok_iff.2 ⟨w, hlow, hhigh, rfl, rfl⟩
  · intro c z c' h
    obtain ⟨w, hlow, hhigh, hc, hc'⟩ := integer_eq_ok_iff.1 h
    exact ⟨w, by rw [hc'], by rw [hc], hlow, hhigh⟩

/-- a number in more octets than it needs, the lowest integer of all, and an octet that starts no number -/
theorem compressed_exact_lowest :
    (5 < 2 ^ Width.two.bits ∧ number ⟨[0x80, 0x05, 0xFF], 3, []⟩ = .ok 5 ⟨[0xFF], 5, []⟩) ∧
    (0xE0 ≤ (0xFF : UInt8).toNat ∧ number ⟨[0xFF], 5, []⟩ = .error (.badLead 0xFF) ⟨[], 6, []⟩) ∧
    (-2 ^ (Width.four.bits - 1) ≤ (-268435456 : Int) ∧ (-268435456 : Int) < 2 ^ (Width.four.bits - 1) ∧
      integer ⟨[0xC0, 0x00, 0x00, 0x01], 0, []⟩ = .ok (-268435456) ⟨[], 4, []⟩) ∧
    integer ⟨[0x7B], 0, []⟩ = .ok (-3) ⟨[], 1, []⟩ ∧ ∃ w : Width, 1 = 0 + w.size ∧ -2 ^ (w.bits - 1) ≤ (-3 : Int) := by
  have hwritten : Width.four.write (Width.four.turn (-268435456)) = [0xC0, 0x00, 0x00, 0x01] := by decide
  have hlowest := compressed_exact.2.2.1 .four (-268435456) (by decide) (by decide) [] 0 []
  rw [hwritten] at hlowest
  have hthree : integer ⟨[0x7B], 0, []⟩ = .ok (-3) ⟨[], 1, []⟩ := rfl
  obtain ⟨w, hsize, -, hlow, -⟩ := compressed_exact.2.2.2 _ _ _ hthree
  exact ⟨⟨by decide, compressed_exact.1 .two 5 (by decide) [0xFF] 3 []⟩,
    ⟨by decide, (compressed_exact.2.1 0xFF (by decide) [] 5 []).1⟩,
    ⟨by decide, by decide, hlowest⟩,
    hthree, w, hsize, hlow⟩

end Unbundle.Signature
