import Unbundle.Code.Instruction
import Unbundle.Proofs.Bytes
import Unbundle.Proofs.Outcome
/-
Taking code apart and writing it are inverse to each other.

An instruction is well formed when its operation code is defined and its operand fits the kind that the code takes. Each
reader has two lemmas: whatever it gives is well formed and written the way the octets read are (`_sound`), and whatever is
well formed is read back from its octets, with any code behind it (`_complete`).

Results:
- `decodeFrom_sound`, `decodeFrom_complete`: the same for whole code strings, by induction on the code and on the
  instructions.
- `decode_inverse_encode`: a code string comes apart up to its end exactly when it is the writing of well-formed instructions,
  and then into these, each at the offset where it was written.
-/
namespace Unbundle.Code

open Bytes Instruction

/-! ## Well-formed instructions -/

/-- an operand that an instruction of the given kind can have -/
inductive Operand.Fits : OperandKind → Operand → Prop
  | none : Fits .none .none
  | integer {width : Nat} {value : Int} (h : IsSigned width value) : Fits (.integer width) (.integer value)
  | token {value : Nat} (h : value < 2 ^ 32) : Fits .token (.token value)
  | table {entries : List Int} (hcount : entries.length < 2 ^ 32) (h : ∀ z ∈ entries, IsSigned 4 z) :
    Fits .table (.table entries)

/-- the operation code is defined and the operand is of its kind and in range -/
def Instruction.WellFormed (i : Instruction) : Prop := ∃ kind, operandKind? i.opcode = some kind ∧ i.operand.Fits kind

/-- the instructions stand one behind the other, the first at the given offset -/
def PlacedFrom (offset : Nat) : List Instruction → Prop
  | [] => True
  | i :: rest => i.offset = offset ∧ PlacedFrom (offset + i.encode.length) rest

/-- the instructions moved to where they stand one behind the other, the first at the given offset -/
def placeFrom (offset : Nat) : List Instruction → List Instruction
  | [] => []
  | i :: rest => { i with offset } :: placeFrom (offset + i.encode.length) rest

/-! ## Operation codes -/

theorem le_of_longKind? {second : Nat} {kind : OperandKind} (h : longKind? second = some kind) : second ≤ 0x1E := by
  by_contra hlarge
  have hnone : longKind? second = none := by
    unfold longKind?
    repeat rw [if_neg (by omega)]
  rw [hnone] at h
  cases h

theorem opcode_of_operandKind? {opcode : Nat} {kind : OperandKind} (h : operandKind? opcode = some kind) :
    opcode < 0xFE ∨ 0xFE00 ≤ opcode ∧ opcode - 0xFE00 < 256 := by
  unfold operandKind? at h
  split_ifs at h with hshort hdefined
  · exact .inl hdefined
  · have := le_of_longKind? h
    exact .inr (by omega)

/-- an integer of this kind takes one octet at least -/
def OperandKind.hasWidth : OperandKind → Bool
  | .integer width => 0 < width
  | _ => true

theorem hasWidth_of_shortKind? : ∀ code < 0xFE, (shortKind? code).all OperandKind.hasWidth := by decide +kernel

theorem hasWidth_of_longKind? : ∀ second < 256, (longKind? second).all OperandKind.hasWidth := by decide +kernel

/-- an integer operand takes one octet at least -/
theorem width_pos {opcode : Nat} {kind : OperandKind} (h : operandKind? opcode = some kind) (width : Nat)
    (hkind : kind = .integer width) : 0 < width := by
  subst hkind
  have hall : (operandKind? opcode).all OperandKind.hasWidth := by
    rcases opcode_of_operandKind? h with hshort | ⟨hlong, hsecond⟩
    · rw [operandKind?, if_pos (by omega), if_pos hshort]
      exact hasWidth_of_shortKind? opcode hshort
    · rw [operandKind?, if_neg (by omega)]
      exact hasWidth_of_longKind? _ hsecond
  rw [h] at hall
  simpa [OperandKind.hasWidth] using hall

theorem readOpcode_sound {offset opcode : Nat} {b : UInt8} {code rest : Bytes}
    (h : readOpcode offset b code = .ok (opcode, rest)) : b :: code = encodeOpcode opcode ++ rest := by
  unfold readOpcode at h
  split_ifs at h with hescape
  · cases code with
    | nil => cases h
    | cons second code =>
      cases h
      have hnot : ¬ 0xFE00 + second.toNat < 0xFE00 := by omega
      rw [encodeOpcode, if_neg hnot, Nat.add_sub_cancel_left, UInt8.ofNat_toNat, hescape]
      rfl
  · cases h
    have hlt : b.toNat < 0xFE00 := by have := b.toNat_lt; omega
    rw [encodeOpcode, if_pos hlt, UInt8.ofNat_toNat]
    rfl

theorem readOpcode_complete {opcode : Nat} {kind : OperandKind} (h : operandKind? opcode = some kind) :
    ∃ b code, encodeOpcode opcode = b :: code ∧
      ∀ offset rest, readOpcode offset b (code ++ rest) = .ok (opcode, rest) := by
  rcases opcode_of_operandKind? h with hshort | ⟨hlong, hsecond⟩
  · refine ⟨UInt8.ofNat opcode, [], by rw [encodeOpcode, if_pos (by omega)], fun offset rest => ?_⟩
    have hval : (UInt8.ofNat opcode).toNat = opcode := by
      rw [UInt8.toNat_ofNat', Nat.mod_eq_of_lt (by omega)]
    have hnot : UInt8.ofNat opcode ≠ escape := by
      intro heq
      rw [heq] at hval
      have : escape.toNat = 0xFE := rfl
      omega
    unfold readOpcode
    rw [if_neg hnot, hval, List.nil_append]
  · refine ⟨escape, [UInt8.ofNat (opcode - 0xFE00)], by rw [encodeOpcode, if_neg (by omega)], fun offset rest => ?_⟩
    have hval : (UInt8.ofNat (opcode - 0xFE00)).toNat = opcode - 0xFE00 := by
      rw [UInt8.toNat_ofNat', Nat.mod_eq_of_lt hsecond]
    have hopcode : 0xFE00 + (opcode - 0xFE00) = opcode := by omega
    simp only [readOpcode, if_true, List.singleton_append, hval, hopcode]

/-! ## Jump tables -/

theorem targets_sound {count : Nat} {bs : Bytes} (h : bs.length = 4 * count) :
    (targets count bs).length = count ∧ (∀ z ∈ targets count bs, IsSigned 4 z) ∧
      (targets count bs).flatMap (ofInt 4) = bs := by
  induction count generalizing bs with
  | zero =>
    rw [List.length_eq_zero_iff.1 h]
    simp [targets]
  | succ count ih =>
    have hfront : (bs.take 4).length = 4 := by rw [List.length_take]; omega
    have hback : (bs.drop 4).length = 4 * count := by rw [List.length_drop]; omega
    obtain ⟨hlength, hsigned, hwritten⟩ := ih hback
    refine ⟨by rw [targets, List.length_cons, hlength], ?_, ?_⟩
    · rw [targets]
      intro z hz
      rcases List.mem_cons.1 hz with rfl | hz
      · have hfield := isSigned_toInt (bs.take 4) (by omega)
        rwa [hfront] at hfield
      · exact hsigned z hz
    · have hfield := ofInt_toInt (bs.take 4)
      rw [hfront] at hfield
      rw [targets, List.flatMap_cons, hfield, hwritten, List.take_append_drop]

theorem targets_complete {entries : List Int} (h : ∀ z ∈ entries, IsSigned 4 z) :
    targets entries.length (entries.flatMap (ofInt 4)) = entries := by
  induction entries with
  | nil => rfl
  | cons z rest ih =>
    have hz : toInt (ofInt 4 z) = z := toInt_ofInt (by decide) (h z (List.mem_cons_self ..))
    have hrest := ih fun z hz => h z (List.mem_cons_of_mem _ hz)
    rw [List.length_cons, targets, List.flatMap_cons, List.take_left' (length_ofInt 4 z),
      List.drop_left' (length_ofInt 4 z), hz, hrest]

theorem length_flatMap_ofInt (entries : List Int) : (entries.flatMap (ofInt 4)).length = 4 * entries.length := by
  induction entries with
  | nil => rfl
  | cons z rest ih => rw [List.flatMap_cons, List.length_append, length_ofInt, ih, List.length_cons]; omega

/-! ## Operands -/

theorem split?_eq_some {width : Nat} {front : Bytes} (h : front.length = width) (rest : Bytes) :
    split? width (front ++ rest) = some (front, rest) := by
  subst h
  exact split?_append front rest

/-- a field of four octets, read as a number and written again -/
theorem ofNat_four_toNat {field : Bytes} (h : field.length = 4) : ofNat 4 field.toNat = field ∧ field.toNat < 2 ^ 32 := by
  constructor
  · rw [← h, ofNat_toNat]
  · have hlt := toNat_lt field
    rw [h] at hlt
    exact hlt

theorem toNat_ofNat_four {n : Nat} (h : n < 2 ^ 32) : toNat (ofNat 4 n) = n := toNat_ofNat 4 n h

theorem readOperand_sound {offset : Nat} {kind : OperandKind} {code rest : Bytes} {value : Operand}
    (hwidth : ∀ width, kind = .integer width → 0 < width) (h : readOperand offset kind code = .ok (value, rest)) :
    value.Fits kind ∧ code = encodeOperand kind value ++ rest := by
  cases kind with
  | none =>
    cases h
    exact ⟨.none, rfl⟩
  | integer width =>
    simp only [readOperand] at h
    split at h
    · next field rest' hsplit =>
      cases h
      obtain ⟨rfl, rfl⟩ := eq_append_of_split? hsplit
      refine ⟨.integer (isSigned_toInt field (hwidth _ rfl)), ?_⟩
      rw [encodeOperand, ofInt_toInt]
    · cases h
  | token =>
    simp only [readOperand] at h
    split at h
    · next field rest' hsplit =>
      cases h
      obtain ⟨rfl, hfield⟩ := eq_append_of_split? hsplit
      obtain ⟨hwritten, hlt⟩ := ofNat_four_toNat hfield
      exact ⟨.token hlt, by rw [encodeOperand, hwritten]⟩
    · cases h
  | table =>
    simp only [readOperand] at h
    split at h
    · cases h
    next field behind hsplit =>
    split at h
    · cases h
    next octets rest' hoctets =>
    cases h
    obtain ⟨rfl, hfield⟩ := eq_append_of_split? hsplit
    obtain ⟨rfl, hlength⟩ := eq_append_of_split? hoctets
    obtain ⟨hcount, hlt⟩ := ofNat_four_toNat hfield
    obtain ⟨hentries, hsigned, hwritten⟩ := targets_sound hlength
    refine ⟨.table (by rw [hentries]; exact hlt) hsigned, ?_⟩
    rw [encodeOperand, hentries, hcount, hwritten, List.append_assoc]

theorem readOperand_complete {kind : OperandKind} {value : Operand} (hwidth : ∀ width, kind = .integer width → 0 < width)
    (h : value.Fits kind) (offset : Nat) (rest : Bytes) :
    readOperand offset kind (encodeOperand kind value ++ rest) = .ok (value, rest) := by
  cases h with
  | none => rfl
  | integer hsigned =>
    rw [readOperand, encodeOperand, split?_eq_some (length_ofInt _ _)]
    simp only [toInt_ofInt (hwidth _ rfl) hsigned]
  | token hlt =>
    rw [readOperand, encodeOperand, split?_eq_some (length_ofNat _ _)]
    simp only [toNat_ofNat_four hlt]
  | @table entries hcount hsigned =>
    rw [readOperand, encodeOperand, List.append_assoc, split?_eq_some (length_ofNat _ _)]
    simp only [toNat_ofNat_four hcount, split?_eq_some (length_flatMap_ofInt entries), targets_complete hsigned]

/-! ## Single instructions -/

theorem step_sound {offset : Nat} {b : UInt8} {code rest : Bytes} {i : Instruction}
    (h : step offset b code = .ok (i, rest)) : i.offset = offset ∧ i.WellFormed ∧ b :: code = i.encode ++ rest := by
  unfold step at h
  obtain ⟨⟨opcode, behind⟩, hopcode, h⟩ := bind_eq_ok_iff.1 h
  simp only at h
  split at h
  · cases h
  next kind hkind =>
  obtain ⟨⟨value, rest'⟩, hvalue, h⟩ := bind_eq_ok_iff.1 h
  cases h
  obtain ⟨hfits, hwritten⟩ := readOperand_sound (width_pos hkind) hvalue
  refine ⟨rfl, ⟨kind, hkind, hfits⟩, ?_⟩
  rw [readOpcode_sound hopcode, hwritten, encode, hkind, Option.getD_some, List.append_assoc]

theorem step_complete {i : Instruction} (h : i.WellFormed) :
    ∃ b code, i.encode = b :: code ∧ ∀ offset rest, step offset b (code ++ rest) = .ok ({ i with offset }, rest) := by
  obtain ⟨kind, hkind, hfits⟩ := h
  obtain ⟨b, code, hencode, hread⟩ := readOpcode_complete hkind
  refine ⟨b, code ++ encodeOperand kind i.operand, ?_, fun offset rest => ?_⟩
  · rw [encode, hencode, hkind, Option.getD_some, List.cons_append]
  · simp only [step, List.append_assoc, hread, ok_bind, hkind, readOperand_complete (width_pos hkind) hfits]
    rfl

/-! ## Whole code strings -/

theorem decodeFrom_cons_ok {offset : Nat} {b : UInt8} {code rest : Bytes} {i : Instruction}
    (h : step offset b code = .ok (i, rest)) :
    decodeFrom offset (b :: code) =
      ⟨i :: (decodeFrom (offset + i.encode.length) rest).instructions,
        (decodeFrom (offset + i.encode.length) rest).error⟩ := by
  obtain ⟨-, -, hwritten⟩ := step_sound h
  have hlength : code.length + 1 - rest.length = i.encode.length := by
    have := congrArg List.length hwritten
    rw [List.length_cons, List.length_append] at this
    omega
  rw [decodeFrom]
  split
  · next e he =>
    rw [h] at he
    cases he
  · next j rest' hj =>
    rw [h] at hj
    cases hj
    rw [hlength]

theorem decodeFrom_cons_error {offset : Nat} {b : UInt8} {code : Bytes} {e : DecodeError}
    (h : step offset b code = .error e) : decodeFrom offset (b :: code) = ⟨[], some e⟩ := by
  rw [decodeFrom]
  split
  · next e' he =>
    rw [h] at he
    cases he
    rfl
  · next j rest' hj =>
    rw [h] at hj
    cases hj

theorem decodeFrom_sound {offset : Nat} {code : Bytes} {l : List Instruction} (h : decodeFrom offset code = ⟨l, none⟩) :
    PlacedFrom offset l ∧ (∀ i ∈ l, i.WellFormed) ∧ l.flatMap encode = code := by
  induction hn : code.length using Nat.strong_induction_on generalizing offset code l with
  | _ n ih =>
    cases code with
    | nil =>
      rw [decodeFrom] at h
      cases h
      exact ⟨trivial, by simp, rfl⟩
    | cons b code =>
      cases hstep : step offset b code with
      | error e =>
        rw [decodeFrom_cons_error hstep] at h
        cases h
      | ok result =>
        obtain ⟨i, rest⟩ := result
        obtain ⟨hoffset, hformed, hwritten⟩ := step_sound hstep
        have hshorter : rest.length < n := by
          have := length_step hstep
          rw [← hn, List.length_cons]
          omega
        rw [decodeFrom_cons_ok hstep] at h
        cases hlater : decodeFrom (offset + i.encode.length) rest with
        | mk later error =>
        rw [hlater] at h
        cases h
        obtain ⟨hplaced, hall, hrest⟩ := ih _ hshorter hlater rfl
        refine ⟨⟨hoffset, hplaced⟩, ?_, ?_⟩
        · intro j hj
          rcases List.mem_cons.1 hj with rfl | hj
          · exact hformed
          · exact hall j hj
        · rw [List.flatMap_cons, hrest, hwritten]

theorem decodeFrom_complete {l : List Instruction} (h : ∀ i ∈ l, i.WellFormed) (offset : Nat) :
    decodeFrom offset (l.flatMap encode) = ⟨placeFrom offset l, none⟩ := by
  induction l generalizing offset with
  | nil => rw [List.flatMap_nil, decodeFrom, placeFrom]
  | cons i rest ih =>
    obtain ⟨b, code, hencode, hstep⟩ := step_complete (h i (List.mem_cons_self ..))
    have hrest := ih (fun j hj => h j (List.mem_cons_of_mem _ hj)) (offset + i.encode.length)
    have hlength : ({ i with offset } : Instruction).encode.length = i.encode.length := rfl
    rw [List.flatMap_cons, hencode, List.cons_append, decodeFrom_cons_ok (hstep offset _), hlength, hrest, placeFrom]

theorem PlacedFrom.offset_eq {offset : Nat} {front back : List Instruction} {i : Instruction}
    (h : PlacedFrom offset (front ++ i :: back)) : i.offset = offset + (front.map (·.encode.length)).sum := by
  induction front generalizing offset with
  | nil => exact h.1
  | cons j front ih =>
    rw [ih h.2, List.map_cons, List.sum_cons, Nat.add_assoc]

theorem map_placeFrom (offset : Nat) (l : List Instruction) :
    (placeFrom offset l).map (fun i => (i.opcode, i.operand)) = l.map fun i => (i.opcode, i.operand) := by
  induction l generalizing offset with
  | nil => rfl
  | cons i rest ih => rw [placeFrom, List.map_cons, List.map_cons, ih]

/-- **Decoding and encoding are inverse.** Code that comes apart up to its end is the writing of the instructions it comes
apart into, each of which starts where the ones before it end. Well-formed instructions written one behind the other come apart
up to the end into the same codes and operands, each at its place. -/
theorem decode_inverse_encode :
    (∀ code l, decode code = ⟨l, none⟩ →
      l.flatMap encode = code ∧ (∀ i ∈ l, i.WellFormed) ∧
        ∀ front i back, l = front ++ i :: back → i.offset = (front.map (·.encode.length)).sum) ∧
    (∀ l : List Instruction, (∀ i ∈ l, i.WellFormed) →
      ∃ l', decode (l.flatMap encode) = ⟨l', none⟩ ∧
        l'.map (fun i => (i.opcode, i.operand)) = l.map (fun i => (i.opcode, i.operand)) ∧
        ∀ front i back, l' = front ++ i :: back → i.offset = (front.map (·.encode.length)).sum) := by
  have hplaces {code : Bytes} {l : List Instruction} (h : decode code = ⟨l, none⟩) :
      ∀ front i back, l = front ++ i :: back → i.offset = (front.map (·.encode.length)).sum := by
    rintro front i back rfl
    obtain ⟨hplaced, -, -⟩ := decodeFrom_sound h
    rw [hplaced.offset_eq, Nat.zero_add]
  constructor
  · intro code l h
    obtain ⟨-, hformed, hwritten⟩ := decodeFrom_sound h
    exact ⟨hwritten, hformed, hplaces h⟩
  · intro l h
    have hdecode : decode (l.flatMap encode) = ⟨placeFrom 0 l, none⟩ := decodeFrom_complete h 0
    exact ⟨placeFrom 0 l, hdecode, map_placeFrom 0 l, hplaces hdecode⟩

/-- `ldc.i4 -1`, a `switch` with one target, `ldftn` and `ret` -/
def jumpCode : Bytes :=
  [0x20, 0xFF, 0xFF, 0xFF, 0xFF, 0x45, 0x01, 0x00, 0x00, 0x00, 0xFB, 0xFF, 0xFF, 0xFF,
    0xFE, 0x06, 0x01, 0x00, 0x00, 0x06, 0x2A]

theorem decode_inverse_encode_jumpCode :
    ∃ l, decode jumpCode = ⟨l, none⟩ ∧ l.map (·.offset) = [0, 5, 14, 20] ∧ l.flatMap encode = jumpCode ∧
      (∀ i ∈ l, i.WellFormed) ∧ ∃ l', decode (l.flatMap encode) = ⟨l', none⟩ ∧
        l'.map (fun i => (i.opcode, i.operand)) = l.map fun i => (i.opcode, i.operand) := by
  have hdecode : decode jumpCode =
      ⟨[⟨0, 0x20, .integer (-1)⟩, ⟨5, 0x45, .table [-5]⟩, ⟨14, 0xFE06, .token 0x06000001⟩, ⟨20, 0x2A, .none⟩], none⟩ := by
    cbv
  obtain ⟨hwritten, hformed, -⟩ := decode_inverse_encode.1 _ _ hdecode
  obtain ⟨l', hagain, hsame, -⟩ := decode_inverse_encode.2 _ hformed
  exact ⟨_, hdecode, rfl, hwritten, hformed, l', hagain, hsame⟩

end Unbundle.Code
