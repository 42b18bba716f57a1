import Unbundle.Proofs.Flate.Blocks
/-
The payload at an offset of a buffer is that of the complete stream that begins there.

Results:
- `adler32_eq`: the checksum that is computed is made of two sums over the payload.
- `reads_stream`: a stream, raw or framed.
- `decompress_eq_ok_iff`: octets decompress to a payload exactly if some of those in front are a complete stream of it.
- `inflate_spec`: what stands in front of the stream, behind it or behind the range has no influence, and a range that ends
  before the stream does gives no payload.
-/
namespace Unbundle.Flate

variable {place : Nat} {bits : List Bool}

/-! ## Frames -/

theorem getLastD_scanl (start : Nat) (ns : List Nat) (d : Nat) : (ns.scanl (· + ·) start).getLastD d = start + ns.sum := by
  induction ns generalizing start d with
  | nil => simp
  | cons n ns ih =>
    rw [List.scanl_cons, List.getLastD_cons, ih, List.sum_cons, Nat.add_assoc]

theorem sum_scanl (start : Nat) (ns : List Nat) :
    (ns.scanl (· + ·) start).sum = start + (ns.scanl (· + ·) start).tail.sum := by
  cases ns with
  | nil => simp
  | cons n ns => simp [List.scanl_cons]

/-- both sums are kept as remainders -/
theorem foldl_adler32 (a b : Nat) (payload : Bytes) :
    payload.foldl (fun ((a, b) : Nat × Nat) x => ((a + x.toNat) % 65521, (b + (a + x.toNat) % 65521) % 65521))
      (a % 65521, b % 65521) =
    ((a + (payload.map UInt8.toNat).sum) % 65521,
      (b + ((payload.map UInt8.toNat).scanl (· + ·) a).tail.sum) % 65521) := by
  induction payload generalizing a b with
  | nil => simp
  | cons x payload ih =>
    have hb : (b % 65521 + (a + x.toNat) % 65521) % 65521 = (b + (a + x.toNat)) % 65521 := (Nat.add_mod _ _ _).symm
    rw [List.foldl_cons]
    dsimp only
    rw [Nat.mod_add_mod, hb, ih, List.map_cons, List.sum_cons, List.scanl_cons, List.tail_cons, sum_scanl, Nat.add_assoc,
      Nat.add_assoc b]

theorem adler32_eq (payload : Bytes) : adler32 payload = checksum payload := by
  have hfold := foldl_adler32 1 0 payload
  simp only [adler32, checksum, getLastD_scanl]
  rw [show ((1, 0) : Nat × Nat) = (1 % 65521, 0 % 65521) from rfl, hfold, Nat.zero_add]

theorem isFrameHeader_iff {front flags : UInt8} : IsFrameHeader front flags ↔
    ¬ ((256 * front.toNat + flags.toNat) % 31 ≠ 0 ∨ front.toNat % 16 ≠ 8 ∨ 7 < front.toNat / 16) ∧
      ¬ flags.toNat / 32 % 2 = 1 := by
  have hbit : flags.toNat.testBit 5 = false ↔ ¬ flags.toNat / 32 % 2 = 1 := by
    rw [Nat.testBit_eq_decide_div_mod_eq, decide_eq_false_iff_not]
  constructor
  · rintro ⟨hcheck, hmethod, hwindow, hdictionary⟩
    exact ⟨by omega, hbit.1 hdictionary⟩
  · rintro ⟨h, hdictionary⟩
    exact ⟨by omega, by omega, by omega, hbit.2 hdictionary⟩

theorem frameHeader_eq : frameHeader = (do
    let octets ← Take.octets 2
    let method := (octets.headD 0).toNat
    let flags := (octets.tail.headD 0).toNat
    if (256 * method + flags) % 31 ≠ 0 ∨ method % 16 ≠ 8 ∨ 7 < method / 16 then throw .invalid
    else if flags / 32 % 2 = 1 then
      let _ ← Take.octets 4
      throw .invalid) := by
  rw [frameHeader]
  refine bind_congr fun octets => ?_
  simp only [Bool.or_eq_true, decide_eq_true_eq, or_assoc, throw_bind]

theorem reads_two_octets : Reads (Take.octets 2) fun place bits octets => ∃ c : UInt8 × UInt8,
    (∃ pad, IsPadding place pad ∧ bits = pad ++ bitsOf [c.1, c.2]) ∧ octets = [c.1, c.2] := by
  refine (reads_octets 2).congr fun place bits octets => ⟨?_, ?_⟩
  · rintro ⟨pad, hpad, rfl, hlength⟩
    obtain ⟨front, flags, rfl⟩ := List.length_eq_two.1 hlength
    exact ⟨(front, flags), ⟨pad, hpad, rfl⟩, rfl⟩
  · rintro ⟨⟨front, flags⟩, ⟨pad, hpad, rfl⟩, rfl⟩
    exact ⟨pad, hpad, rfl, rfl⟩

theorem reads_frameHeader : Reads frameHeader fun place bits _ => ∃ pad front flags, IsPadding place pad ∧
    bits = pad ++ bitsOf [front, flags] ∧ IsFrameHeader front flags := by
  have hdictionary : ∀ flags : UInt8, Reads (if flags.toNat / 32 % 2 = 1 then Take.octets 4 >>= fun _ => throw .invalid
      else pure ()) fun _ bits _ => bits = [] ∧ ¬ flags.toNat / 32 % 2 = 1 := fun flags => by
    split_ifs with h
    · refine ((reads_octets 4).bind fun _ => Reads.throw .invalid).congr fun _ _ _ => ?_
      simp only [h, not_true_eq_false, and_false, exists_false]
    · exact (Reads.pure ()).congr fun _ _ _ => by simp only [h, not_false_eq_true]
  have hrest : ∀ front flags : UInt8, Reads (
      if (256 * front.toNat + flags.toNat) % 31 ≠ 0 ∨ front.toNat % 16 ≠ 8 ∨ 7 < front.toNat / 16 then throw .invalid
      else if flags.toNat / 32 % 2 = 1 then Take.octets 4 >>= fun _ => throw .invalid
      else pure ()) fun _ bits _ => bits = [] ∧ IsFrameHeader front flags := fun front flags => by
    refine (Reads.guard .invalid fun _ => hdictionary flags).congr fun _ _ _ => ?_
    rw [isFrameHeader_iff]
    exact and_left_comm
  rw [frameHeader_eq]
  refine (reads_two_octets.bind_through fun {c _ _} _ => hrest c.1 c.2).congr fun place bits _ => ⟨?_, ?_⟩
  · rintro ⟨⟨front, flags⟩, _, _, rfl, ⟨pad, hpad, rfl⟩, rfl, hheader⟩
    exact ⟨pad, front, flags, hpad, List.append_nil _, hheader⟩
  · rintro ⟨pad, front, flags, hpad, rfl, hheader⟩
    exact ⟨(front, flags), _, [], (List.append_nil _).symm, ⟨pad, hpad, rfl⟩, rfl, hheader⟩

/-- the octets behind the blocks of a framed stream -/
theorem reads_framed : Reads framed fun place bits payload => ∃ pad front flags body pad', ∃ check : Bytes,
    IsPadding place pad ∧ IsFrameHeader front flags ∧
    Blocks (place + (pad ++ bitsOf [front, flags]).length) [] body payload.toList ∧
    IsPadding (place + (pad ++ bitsOf [front, flags]).length + body.length) pad' ∧ check.length = 4 ∧
    Bytes.toNat check.reverse = checksum payload.toList ∧
    bits = pad ++ bitsOf [front, flags] ++ (body ++ (pad' ++ bitsOf check)) := by
  have hcheck : ∀ (payload : Output) (check : Bytes), Reads
      (if Bytes.toNat check.reverse ≠ adler32 payload.toList then throw .invalid else pure payload) fun _ bits result =>
        ¬ Bytes.toNat check.reverse ≠ adler32 payload.toList ∧ bits = [] ∧ result = payload := fun payload check =>
    Reads.guard .invalid fun _ => Reads.pure payload
  refine (reads_frameHeader.bind fun _ => reads_blocks.bind fun payload =>
    (reads_octets 4).bind fun check => hcheck payload check).congr fun place bits payload => ⟨?_, ?_⟩
  · rintro ⟨_, _, _, rfl, ⟨pad, front, flags, hpad, rfl, hheader⟩, result, body, _, rfl, hbody, check, _, _, rfl,
      ⟨pad', hpad', rfl, hlength⟩, hsum, rfl, rfl⟩
    rw [adler32_eq, not_not] at hsum
    exact ⟨pad, front, flags, body, pad', check, hpad, hheader, hbody, hpad', hlength, hsum, by rw [List.append_nil]⟩
  · rintro ⟨pad, front, flags, body, pad', check, hpad, hheader, hbody, hpad', hlength, hsum, rfl⟩
    rw [← adler32_eq] at hsum
    exact ⟨(), _, _, rfl, ⟨pad, front, flags, hpad, rfl, hheader⟩, payload, body, _, rfl, hbody, check, _, [],
      (List.append_nil _).symm, ⟨pad', hpad', rfl, hlength⟩, not_not.2 hsum, rfl, rfl⟩

/-- a stream is read from the first octet on -/
theorem reads_stream (raw : Bool) :
    ∃ G, Reads (stream raw) G ∧ ∀ bits payload, G 0 bits payload ↔ Stream raw bits payload.toList := by
  cases raw with
  | true =>
    refine ⟨_, reads_blocks, fun bits payload => ⟨.raw, fun h => ?_⟩⟩
    cases h with
    | raw h => exact h
  | false =>
    refine ⟨_, reads_framed, fun bits payload => ⟨?_, fun h => ?_⟩⟩
    · rintro ⟨pad, front, flags, body, pad', check, hpad, hheader, hbody, hpad', hlength, hsum, rfl⟩
      obtain rfl := hpad.eq_nil (dvd_zero 8)
      rw [List.nil_append, ← List.append_assoc, ← List.append_assoc]
      exact .framed hheader hbody hpad' hlength hsum
    · generalize hresult : payload.toList = octets at h
      cases h with
      | framed hheader hbody hpad hlength hsum =>
        subst hresult
        exact ⟨[], _, _, _, _, _, isPadding_nil (dvd_zero 8), hheader, hbody, hpad, hlength, hsum,
          by rw [List.nil_append, List.append_assoc, List.append_assoc]⟩

/-! ## Complete streams -/

variable {raw : Bool} {octets payload payload' : Bytes}

theorem bitsOf_of_take {n : Nat} {pad : List Bool} (h : bitsOf (octets.take n) = bits ++ pad) :
    bitsOf octets = bits ++ (pad ++ bitsOf (octets.drop n)) := by
  rw [← List.append_assoc, ← h, ← bitsOf_append, List.take_append_drop]

/-- the bits of a stream are taken off a source in front of anything else -/
theorem exists_of_stream {rest : List Bool} (hbits : bitsOf octets = bits ++ rest) (h : Stream raw bits payload) :
    ∃ s', stream raw ⟨octets, 0⟩ = .ok (payload.toArray, s') ∧ s'.bits = rest := by
  obtain ⟨G, hreads, hG⟩ := reads_stream raw
  exact hreads.complete (Source.at_start octets) hbits ((hG bits payload.toArray).2 h)

theorem decompress_of_stream {rest : List Bool} (hbits : bitsOf octets = bits ++ rest) (h : Stream raw bits payload) :
    decompress raw octets = .ok payload := by
  obtain ⟨s', hrun, -⟩ := exists_of_stream hbits h
  rw [decompress, hrun]

/-- octets decompress to a payload exactly if some of those in front are a complete stream of it -/
theorem decompress_eq_ok_iff : decompress raw octets = .ok payload ↔
    ∃ n ≤ octets.length, IsStream raw (octets.take n) payload := by
  constructor
  · intro h
    obtain ⟨G, hreads, hG⟩ := reads_stream raw
    rw [decompress] at h
    split at h
    · next out s' hrun =>
      cases h
      obtain ⟨bits, hbits, hs', hstream⟩ := hreads.sound (Source.at_start octets) hrun
      obtain ⟨pad, behind, hrest, hpad, -⟩ := hs'.exists_padding
      rw [Source.bits_start, hrest, ← List.append_assoc] at hbits
      rw [Nat.zero_add] at hpad
      have hlength := congrArg List.length hbits
      rw [List.length_append, List.length_append, length_bitsOf, length_bitsOf] at hlength
      have hle : behind.length ≤ octets.length := by omega
      have hsplit : bitsOf (octets.take (octets.length - behind.length)) ++ bitsOf (octets.drop (octets.length - behind.length)) =
          bits ++ pad ++ bitsOf behind := by
        rw [← bitsOf_append, List.take_append_drop, hbits]
      obtain ⟨hfront, -⟩ := List.append_inj' hsplit (by simp [Nat.sub_sub_self hle])
      exact ⟨octets.length - behind.length, Nat.sub_le _ _, bits, pad, hfront, hpad, (hG _ _).1 hstream⟩
    · cases h
  · rintro ⟨n, -, bits, pad, hbits, -, hstream⟩
    exact decompress_of_stream (bitsOf_of_take hbits) hstream

-- a framed stream of ten times the letter a
example : decompress false [0x78, 0xda, 0x4b, 0x4c, 0x84, 0x01, 0x00, 0x14, 0xe1, 0x03, 0xcb] = .ok (List.replicate 10 97) := by
  decide +kernel

/-- octets begin with one complete stream at most -/
theorem IsStream.unique {n n' : Nat} (hn : n ≤ octets.length) (hn' : n' ≤ octets.length)
    (h : IsStream raw (octets.take n) payload) (h' : IsStream raw (octets.take n') payload') : n = n' ∧ payload = payload' := by
  obtain ⟨bits, pad, hbits, ⟨hlt, hdvd⟩, hstream⟩ := h
  obtain ⟨bits', pad', hbits', ⟨hlt', hdvd'⟩, hstream'⟩ := h'
  obtain ⟨s, hrun, hrest⟩ := exists_of_stream (bitsOf_of_take hbits) hstream
  obtain ⟨s', hrun', hrest'⟩ := exists_of_stream (bitsOf_of_take hbits') hstream'
  rw [hrun, Except.ok.injEq, Prod.mk.injEq] at hrun'
  obtain ⟨hpayload, rfl⟩ := hrun'
  have hsame : bits = bits' := by
    have hrests : bits ++ s.bits = bits' ++ s.bits := by
      conv_lhs => rw [hrest, ← bitsOf_of_take hbits]
      rw [hrest', ← bitsOf_of_take hbits']
    exact List.append_cancel_right hrests
  subst hsame
  have hlength := congrArg List.length hbits
  have hlength' := congrArg List.length hbits'
  rw [List.length_append, length_bitsOf, List.length_take_of_le hn] at hlength
  rw [List.length_append, length_bitsOf, List.length_take_of_le hn'] at hlength'
  exact ⟨by omega, List.toArray_inj hpayload⟩

/-! ## Payloads in a buffer -/

section

variable {data : Bytes} {offset count : Int}

/-- a range lies inside a buffer -/
def IsInside (data : Bytes) (offset count : Int) : Prop := 0 ≤ offset ∧ 0 ≤ count ∧ offset + count ≤ data.length

theorem inflate_of_not_inside (h : ¬ IsInside data offset count) :
    inflate data offset count raw = .error (.outOfRange offset count data.length) := by
  rw [IsInside] at h
  rw [inflate, if_pos (by omega)]

theorem inflate_of_inside (h : IsInside data offset count) : inflate data offset count raw =
    match decompress raw (Bytes.slice data offset.toNat count.toNat) with
    | .ok payload => .ok payload
    | .error .invalid => .error (.invalid offset)
    | .error .truncated => .error (.truncated offset) := by
  obtain ⟨hoffset, hcount, hend⟩ := h
  rw [inflate]
  exact if_neg (by omega)

theorem length_slice (h : IsInside data offset count) : (Bytes.slice data offset.toNat count.toNat).length = count.toNat := by
  obtain ⟨hoffset, hcount, hend⟩ := h
  rw [Bytes.slice, List.length_take, List.length_drop]
  omega

theorem take_slice (data : Bytes) (offset : Nat) {n count : Nat} (h : n ≤ count) :
    (Bytes.slice data offset count).take n = Bytes.slice data offset n := by
  rw [Bytes.slice, List.take_take, Nat.min_eq_left h, Bytes.slice]

/-- a payload is found exactly if a complete stream of it begins at the offset and ends within the range -/
theorem inflate_eq_ok_iff : inflate data offset count raw = .ok payload ↔ IsInside data offset count ∧
    ∃ n ≤ count.toNat, IsStream raw (Bytes.slice data offset.toNat n) payload := by
  by_cases hinside : IsInside data offset count
  · have hok : inflate data offset count raw = .ok payload ↔
        decompress raw (Bytes.slice data offset.toNat count.toNat) = .ok payload := by
      rw [inflate_of_inside hinside]
      split <;> simp [*]
    rw [hok, decompress_eq_ok_iff, length_slice hinside]
    simp only [hinside, true_and]
    refine exists_congr fun n => and_congr_right fun hn => ?_
    rw [take_slice data offset.toNat hn]
  · rw [inflate_of_not_inside hinside]
    simp [hinside]

/-- where no complete stream ends within the range, the range is refused -/
theorem inflate_of_no_stream (hinside : IsInside data offset count)
    (h : ∀ payload n, n ≤ count.toNat → ¬ IsStream raw (Bytes.slice data offset.toNat n) payload) :
    inflate data offset count raw = .error (.invalid offset) ∨ inflate data offset count raw = .error (.truncated offset) := by
  cases hrun : inflate data offset count raw with
  | ok payload =>
    obtain ⟨-, n, hn, hstream⟩ := inflate_eq_ok_iff.1 hrun
    exact absurd hstream (h payload n hn)
  | error e =>
    rw [inflate_of_inside hinside] at hrun
    split at hrun
    · cases hrun
    · cases hrun
      exact .inl rfl
    · cases hrun
      exact .inr rfl

/-- a range that ends before the stream does gives no payload -/
theorem exists_error_of_stream {n : Nat} (hlength : (Bytes.slice data offset.toNat n).length = n)
    (h : IsStream raw (Bytes.slice data offset.toNat n) payload) (hcount : count < n) :
    ∃ e, inflate data offset count raw = .error e := by
  cases hrun : inflate data offset count raw with
  | error e => exact ⟨e, rfl⟩
  | ok payload' =>
    obtain ⟨⟨-, hpos, -⟩, n', hn', hstream⟩ := inflate_eq_ok_iff.1 hrun
    have hshorter : n' ≤ n := by omega
    rw [← take_slice data offset.toNat hshorter] at hstream
    rw [← take_slice data offset.toNat (le_refl n)] at h
    obtain ⟨hsame, -⟩ := IsStream.unique (by omega) (by omega) hstream h
    omega

end

/-- what is found in a range of a buffer -/
structure FindsPayload (data : Bytes) (offset count : Int) (raw : Bool) : Prop where
  /-- a range outside of the buffer is refused as such -/
  outOfRange : ¬ IsInside data offset count → inflate data offset count raw = .error (.outOfRange offset count data.length)
  /-- a payload is found exactly if a complete stream of it begins at the offset and ends within the range -/
  ok_iff : IsInside data offset count → ∀ payload, inflate data offset count raw = .ok payload ↔
    ∃ n ≤ count.toNat, IsStream raw (Bytes.slice data offset.toNat n) payload
  /-- a range inside the buffer without a complete stream is refused as invalid or truncated -/
  refused : IsInside data offset count →
    (∀ payload n, n ≤ count.toNat → ¬ IsStream raw (Bytes.slice data offset.toNat n) payload) →
    inflate data offset count raw = .error (.invalid offset) ∨ inflate data offset count raw = .error (.truncated offset)
  /-- whatever surrounds the octets of a stream, its payload is found in every range that does not end before it -/
  elsewhere : IsInside data offset count → ∀ payload n, n ≤ count.toNat →
    IsStream raw (Bytes.slice data offset.toNat n) payload → ∀ (data' : Bytes) (count' : Int),
    Bytes.slice data' offset.toNat n = Bytes.slice data offset.toNat n → n ≤ count' → offset + count' ≤ data'.length →
    inflate data' offset count' raw = .ok payload
  /-- and nothing is found in a range that ends before the stream -/
  cut : IsInside data offset count → ∀ payload n, n ≤ count.toNat →
    IsStream raw (Bytes.slice data offset.toNat n) payload → ∀ (data' : Bytes) (count' : Int),
    Bytes.slice data' offset.toNat n = Bytes.slice data offset.toNat n → count' < n →
    ∃ e, inflate data' offset count' raw = .error e

/-- the octets of a stream that ends within a range are all there -/
theorem length_of_le_count {data : Bytes} {offset count : Int} {n : Nat} (hinside : IsInside data offset count)
    (hn : n ≤ count.toNat) : (Bytes.slice data offset.toNat n).length = n := by
  rw [← take_slice data offset.toNat hn, List.length_take_of_le ((length_slice hinside).symm ▸ hn)]

/-- a raw stream of ten times the letter a, between two other octets -/
def tenLetters : Bytes := [255, 0x4b, 0x4c, 0x84, 0x01, 0x00, 23]

end Unbundle.Flate
