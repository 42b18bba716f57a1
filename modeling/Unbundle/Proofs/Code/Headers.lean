import Unbundle.Code.Body
import Unbundle.Proofs.Bytes
import Unbundle.Proofs.Outcome
/-
Where a method body stands.

`IsHeader octets size` tells what the two formats of headers are: the octets are a header, and the code behind it has this size.
`BodyAt data offset code` says that at the offset there is a header and behind it the code that it announces, both inside the
data; what stands in front and behind plays no part. Headers are written by `tinyHeader` and by `FatHeader.octets`, the second
with any flags, any stack size and anything in the words that a header may have behind its length field.

Results:
- `IsHeader.header_append`: a header is understood wherever it stands.
- `isHeader_of_header`: nothing else is understood, as far as the header is there at all.
- `isHeader_tinyHeader`, `FatHeader.isHeader`: what is written is a header.
- `readBody_formats`: reading gives the code of the body that stands at an offset, and fails exactly where none does.
-/
namespace Unbundle.Code

/-! ## Headers -/

/-- octets that are a header, and the size of the code behind it -/
inductive IsHeader : Bytes → Nat → Prop
  /-- the two lowest bits are 10, the upper six tell the size -/
  | tiny {first : UInt8} (format : first.toNat % 4 = 2) : IsHeader [first] (first.toNat / 4)
  /-- the two lowest bits are 11, the upper four of the first 16 tell how many words of four octets the header has, three at
  least, and the 32 bits at the fifth octet tell the size -/
  | fat {octets : Bytes} (format : Bytes.toNat (octets.take 2) % 4 = 3) (least : 3 ≤ Bytes.toNat (octets.take 2) / 4096)
    (long : octets.length = 4 * (Bytes.toNat (octets.take 2) / 4096)) : IsHeader octets (Bytes.toNat (octets.slice 4 4))

/-- a method body stands at an offset: a header, and behind it as many octets of code as the header tells -/
def BodyAt (data : Bytes) (offset : Nat) (code : Bytes) : Prop :=
  ∃ front octets behind, data = front ++ octets ++ code ++ behind ∧ front.length = offset ∧ IsHeader octets code.length

/-- the header of one octet -/
def tinyHeader (size : Nat) : Bytes := [UInt8.ofNat (4 * size + 2)]

/-- what a header of several words holds apart from the size of the code -/
structure FatHeader where
  /-- how many words of four octets the header has -/
  words : Nat
  words_le : 3 ≤ words ∧ words ≤ 15
  /-- the ten bits between the two of the format and the four of the header's length -/
  flags : Fin 1024
  maxStack : UInt16
  /-- what stands behind the size -/
  more : Bytes
  length_more : more.length + 8 = 4 * words

/-- the first 16 bits of the header, as a number -/
def FatHeader.lead (h : FatHeader) : Nat := 4096 * h.words + 4 * h.flags + 3

/-- the octets of the header -/
def FatHeader.octets (h : FatHeader) (size : Nat) : Bytes :=
  Bytes.ofNat 2 h.lead ++ (Bytes.ofNat 2 h.maxStack.toNat ++ (Bytes.ofNat 4 size ++ h.more))

theorem isHeader_tinyHeader {size : Nat} (h : size < 64) : IsHeader (tinyHeader size) size := by
  have hfirst : (UInt8.ofNat (4 * size + 2)).toNat = 4 * size + 2 := UInt8.toNat_ofNat_of_lt' (by
    change 4 * size + 2 < 256
    omega)
  have hsize : (UInt8.ofNat (4 * size + 2)).toNat / 4 = size := by omega
  have htiny : IsHeader [UInt8.ofNat (4 * size + 2)] ((UInt8.ofNat (4 * size + 2)).toNat / 4) := .tiny (by omega)
  rwa [hsize] at htiny

theorem FatHeader.take_octets (h : FatHeader) (size : Nat) : (h.octets size).take 2 = Bytes.ofNat 2 h.lead :=
  List.take_left' (Bytes.length_ofNat _ _)

theorem FatHeader.slice_octets (h : FatHeader) (size : Nat) : (h.octets size).slice 4 4 = Bytes.ofNat 4 size := by
  have hfront : h.octets size =
      (Bytes.ofNat 2 h.lead ++ Bytes.ofNat 2 h.maxStack.toNat) ++ (Bytes.ofNat 4 size ++ h.more) := by
    rw [octets, List.append_assoc]
  rw [Bytes.slice, hfront, List.drop_left' (by simp), List.take_left' (Bytes.length_ofNat _ _)]

theorem FatHeader.isHeader (h : FatHeader) {size : Nat} (hsize : size < 2 ^ 32) : IsHeader (h.octets size) size := by
  have hwords := h.words_le
  have hflags := h.flags.isLt
  have hmore := h.length_more
  have hlead : Bytes.toNat ((h.octets size).take 2) = h.lead := by
    rw [h.take_octets, Bytes.toNat_ofNat]
    simp only [lead]
    omega
  have htold : Bytes.toNat ((h.octets size).slice 4 4) = size := by
    rw [h.slice_octets, Bytes.toNat_ofNat]
    omega
  have hfat : IsHeader (h.octets size) (Bytes.toNat ((h.octets size).slice 4 4)) := by
    refine .fat ?_ ?_ ?_
    · rw [hlead, lead]
      omega
    · rw [hlead, lead]
      omega
    · rw [hlead, lead]
      simp only [octets, List.length_append, Bytes.length_ofNat]
      omega
  rwa [htold] at hfat

theorem toNat_two (low high : UInt8) (rest : Bytes) :
    Bytes.toNat ((low :: high :: rest).take 2) = low.toNat + 256 * high.toNat := by
  simp [Bytes.toNat]

/-- a header is understood, whatever stands behind it -/
theorem IsHeader.header_append {octets : Bytes} {size : Nat} (h : IsHeader octets size) (behind : Bytes) :
    ∃ first rest, octets = first :: rest ∧ header first (octets ++ behind) = .ok (octets.length, size) := by
  cases h with
  | @tiny first format =>
    refine ⟨first, [], rfl, ?_⟩
    rw [header, if_pos format]
    rfl
  | fat format least long =>
    obtain _ | ⟨low, _ | ⟨high, rest⟩⟩ := octets
    · simp [Bytes.toNat] at least
    · simp only [List.length_singleton] at long
      omega
    · have hlong : 12 ≤ (low :: high :: rest).length := by omega
      have hfront : ((low :: high :: rest) ++ behind).take 2 = (low :: high :: rest).take 2 := rfl
      have hslice : Bytes.slice ((low :: high :: rest) ++ behind) 4 4 = Bytes.slice (low :: high :: rest) 4 4 := by
        rw [Bytes.slice, Bytes.slice, List.drop_append_of_le_length (by omega), List.take_append_of_le_length (by
          rw [List.length_drop]
          omega)]
      have hlow : low.toNat % 4 = 3 := by
        rw [toNat_two] at format
        omega
      refine ⟨low, high :: rest, rfl, ?_⟩
      rw [header, if_neg (by omega), if_pos hlow, if_neg (by rw [List.length_append]; omega), hfront, hslice]
      dsimp only
      rw [if_neg (by omega), long, Nat.mul_comm]

/-- what is understood as a header is one, if the octets reach as far as it says -/
theorem isHeader_of_header {first : UInt8} {rest : Bytes} {start size : Nat}
    (h : header first (first :: rest) = .ok (start, size)) (hstart : start ≤ (first :: rest).length) :
    IsHeader ((first :: rest).take start) size := by
  rw [header] at h
  split_ifs at h with htiny hfat hshort
  · cases h
    exact .tiny htiny
  · dsimp only at h
    split_ifs at h with hleast
    cases h
    obtain _ | ⟨high, rest⟩ := rest
    · simp at hshort
    generalize hlead : Bytes.toNat ((first :: high :: rest).take 2) = lead at *
    have hfront : ((first :: high :: rest).take (lead / 4096 * 4)).take 2 = (first :: high :: rest).take 2 := by
      rw [List.take_take, Nat.min_eq_left (by omega)]
    have hslice : Bytes.slice ((first :: high :: rest).take (lead / 4096 * 4)) 4 4 =
        Bytes.slice (first :: high :: rest) 4 4 := by
      rw [Bytes.slice, Bytes.slice, List.drop_take, List.take_take, Nat.min_eq_left (by omega)]
    rw [← hslice]
    rw [toNat_two] at hlead
    refine .fat ?_ ?_ ?_
    · rw [hfront, toNat_two]
      omega
    · rw [hfront, toNat_two]
      omega
    · rw [hfront, toNat_two, List.length_take, Nat.min_eq_left hstart]
      omega

/-! ## Bodies -/

theorem bodyAt_of_readBody {data code : Bytes} {offset : Nat} (h : readBody data offset = .ok code) :
    BodyAt data offset code := by
  rw [readBody] at h
  split at h
  · cases h
  · next first rest hdrop =>
    obtain ⟨⟨start, size⟩, hheader, h⟩ := bind_eq_ok_iff.1 h
    dsimp only at h
    split_ifs at h with hinside
    cases h
    have hoffset : offset ≤ data.length := by
      by_contra hbehind
      rw [List.drop_eq_nil_of_le (by omega)] at hdrop
      cases hdrop
    have hlength : (Bytes.slice (first :: rest) start size).length = size := by
      rw [Bytes.slice, List.length_take, List.length_drop]
      omega
    refine ⟨data.take offset, (first :: rest).take start, (first :: rest).drop (start + size), ?_, ?_, ?_⟩
    · rw [← List.drop_drop, Bytes.slice, List.append_assoc, List.append_assoc, List.take_append_drop,
        List.take_append_drop, ← hdrop, List.take_append_drop]
    · rw [List.length_take, Nat.min_eq_left hoffset]
    · rw [hlength]
      exact isHeader_of_header hheader (by omega)

theorem readBody_of_bodyAt {data code : Bytes} {offset : Nat} (h : BodyAt data offset code) :
    readBody data offset = .ok code := by
  obtain ⟨front, octets, behind, rfl, rfl, hoctets⟩ := h
  obtain ⟨first, rest, rfl, hheader⟩ := hoctets.header_append (code ++ behind)
  have hdrop : (front ++ (first :: rest) ++ code ++ behind).drop front.length = first :: (rest ++ (code ++ behind)) := by
    rw [List.append_assoc, List.append_assoc, List.drop_left, List.cons_append]
  have hslice : Bytes.slice (first :: (rest ++ (code ++ behind))) (first :: rest).length code.length = code := by
    rw [← List.cons_append, Bytes.slice, List.drop_left, List.take_left]
  rw [List.cons_append] at hheader
  rw [readBody, hdrop]
  dsimp only
  rw [hheader, ok_bind]
  dsimp only
  rw [if_pos (by simp only [List.length_cons, List.length_append]; omega), hslice]
  rfl

theorem readBody_eq_ok_iff {data code : Bytes} {offset : Nat} : readBody data offset = .ok code ↔ BodyAt data offset code :=
  ⟨bodyAt_of_readBody, readBody_of_bodyAt⟩

/-- **Method bodies are read in exactly two formats.** Reading at an offset gives the code of the body that stands there, and
fails exactly if none does. So the code that stands behind either header, of any flags, stack size and length, is given back
from any place in any data. -/
theorem readBody_formats :
    (∀ data offset code, readBody data offset = .ok code ↔ BodyAt data offset code) ∧
    (∀ data offset, (∃ cause, readBody data offset = .error cause) ↔ ∀ code, ¬ BodyAt data offset code) ∧
    (∀ front code behind, code.length < 64 →
      readBody (front ++ tinyHeader code.length ++ code ++ behind) front.length = .ok code) ∧
    ∀ (h : FatHeader) (front code behind : Bytes), code.length < 2 ^ 32 →
      readBody (front ++ h.octets code.length ++ code ++ behind) front.length = .ok code := by
  refine ⟨fun data offset code => readBody_eq_ok_iff, ?_, ?_, ?_⟩
  · intro data offset
    constructor
    · rintro ⟨cause, hcause⟩ code hcode
      rw [readBody_of_bodyAt hcode] at hcause
      cases hcause
    · intro hnone
      cases hread : readBody data offset with
      | error cause => exact ⟨cause, rfl⟩
      | ok code => exact absurd (bodyAt_of_readBody hread) (hnone code)
  · intro front code behind hsize
    exact readBody_of_bodyAt ⟨front, _, behind, rfl, rfl, isHeader_tinyHeader hsize⟩
  · intro h front code behind hsize
    exact readBody_of_bodyAt ⟨front, _, behind, rfl, rfl, h.isHeader hsize⟩

/-- five words, more than there have to be, and a flag among the bits between format and length -/
def wideHeader : FatHeader := ⟨5, by decide, 4, 8, List.replicate 12 0xEE, rfl⟩

/-- code that ends with the data, behind a tiny header, and code that is too long for one, behind a wide header -/
theorem readBody_formats_twoBodies :
    (([0x00, 0x2A] : Bytes).length < 64 ∧ readBody ([0xCC] ++ tinyHeader 2 ++ [0x00, 0x2A] ++ []) 1 = .ok [0x00, 0x2A]) ∧
    (List.replicate 70 (0x00 : UInt8)).length < 2 ^ 32 ∧
    readBody ([0xCC, 0xCC] ++ wideHeader.octets 70 ++ List.replicate 70 0x00 ++ [0x2A]) 2 = .ok (List.replicate 70 0x00) :=
  ⟨⟨by decide, readBody_formats.2.2.1 [0xCC] [0x00, 0x2A] [] (by decide)⟩, by decide,
    readBody_formats.2.2.2 wideHeader [0xCC, 0xCC] (List.replicate 70 0x00) [0x2A] (by decide)⟩

end Unbundle.Code
