import Unbundle.Proofs.Code.RoundTrip
/-
Code that is cut short or goes on.

Taking code apart goes from its front to its back, and an instruction is told by its own octets. Therefore code that is cut
comes apart into the instructions that end in front of the cut, and into all of them, with nothing wrong, only if the cut is
between two of them; code with more behind it comes apart into the same instructions first, and if nothing was wrong the rest
comes apart as it would alone, further on.

All proofs follow the code by `decodeFrom_induct`: no code is left, its front is malformed, or it is one instruction and code
behind it.

Results:
- `step_append`: an instruction at the front of code stays there when code is added.
- `decodeFrom_add`: taking code apart at another offset moves the instructions and the cause of a failure.
- `decodeFrom_append`: code that comes apart up to its end, and code behind it.
- `prefix_decodeFrom_append`, `decodeFrom_take`: code with more behind it, and code that is cut.
- `decode_cut_or_continued`: all of this for the instructions as they are given out, tokens looked up.
-/
namespace Unbundle.Code

open Instruction

variable {β : Type} {offset : Nat} {code : Bytes}

/-! ## Along the code -/

/-- what holds of no code, of a malformed front and of an instruction in front of code of which it holds, holds of all code -/
theorem decodeFrom_induct {motive : Nat → Bytes → Decoded → Prop} (nil : ∀ offset, motive offset [] ⟨[], none⟩)
    (malformed : ∀ offset b code e, step offset b code = .error e → motive offset (b :: code) ⟨[], some e⟩)
    (instruction : ∀ offset b code i behind, step offset b code = .ok (i, behind) →
      motive (offset + i.encode.length) behind (decodeFrom (offset + i.encode.length) behind) →
      motive offset (b :: code) ⟨i :: (decodeFrom (offset + i.encode.length) behind).instructions,
        (decodeFrom (offset + i.encode.length) behind).error⟩)
    (offset : Nat) (code : Bytes) : motive offset code (decodeFrom offset code) := by
  induction hn : code.length using Nat.strong_induction_on generalizing offset code with
  | _ n ih =>
    cases code with
    | nil =>
      rw [decodeFrom]
      exact nil offset
    | cons b code =>
      cases hstep : step offset b code with
      | error e =>
        rw [decodeFrom_cons_error hstep]
        exact malformed offset b code e hstep
      | ok result =>
        obtain ⟨i, behind⟩ := result
        have hshorter : behind.length < n := by
          have := length_step hstep
          rw [← hn, List.length_cons]
          omega
        rw [decodeFrom_cons_ok hstep]
        exact instruction offset b code i behind hstep (ih _ hshorter _ _ rfl)

/-- an instruction takes its own octets from the front of the code, whatever is behind them -/
theorem step_own {b : UInt8} {behind : Bytes} {i : Instruction} (h : step offset b code = .ok (i, behind)) :
    ∃ own, i.encode = b :: own ∧ code = own ++ behind ∧ ∀ other, step offset b (own ++ other) = .ok (i, other) := by
  obtain ⟨hoffset, hformed, hwritten⟩ := step_sound h
  obtain ⟨b', own, hencode, hread⟩ := step_complete hformed
  rw [hencode, List.cons_append] at hwritten
  obtain ⟨rfl, rfl⟩ := List.cons.inj hwritten
  have hplaced : { i with offset } = i := by rw [← hoffset]
  exact ⟨own, hencode, rfl, fun other => by rw [hread, hplaced]⟩

/-- an instruction at the front of code stays there when code is added -/
theorem step_append {b : UInt8} {behind : Bytes} {i : Instruction} (h : step offset b code = .ok (i, behind)) (more : Bytes) :
    step offset b (code ++ more) = .ok (i, behind ++ more) := by
  obtain ⟨own, -, rfl, hother⟩ := step_own h
  rw [List.append_assoc, hother]

/-- code that is cut in front of the end of its first instruction has none, and nothing is wrong only if nothing is left of it -/
theorem decodeFrom_take_first (offset : Nat) (code : Bytes) (b : UInt8) (k : Nat)
    (h : ∀ i behind, step offset b code = .ok (i, behind) → k < i.encode.length) :
    (decodeFrom offset ((b :: code).take k)).instructions = [] ∧
      ((decodeFrom offset ((b :: code).take k)).error = none ↔ offset + k = offset) := by
  cases k with
  | zero => simp [decodeFrom]
  | succ k =>
    rw [List.take_succ_cons]
    cases hcut : step offset b (code.take k) with
    | error e =>
      rw [decodeFrom_cons_error hcut]
      simp
    | ok result =>
      -- an instruction in front of the cut would be there without the cut, and it has no more octets than are there
      exfalso
      obtain ⟨i, behind⟩ := result
      have hwhole := step_append hcut (code.drop k)
      rw [List.take_append_drop] at hwhole
      have hshort := h i _ hwhole
      obtain ⟨own, hencode, hown, -⟩ := step_own hcut
      have hlength := congrArg List.length hown
      rw [List.length_append, List.length_take] at hlength
      rw [hencode, List.length_cons] at hshort
      omega

/-! ## Other offsets -/

namespace DecodeError

/-- the cause, so much further on -/
def shift (distance : Nat) : DecodeError → DecodeError
  | .truncatedOpcode offset => .truncatedOpcode (offset + distance)
  | .invalidOpcode opcode offset => .invalidOpcode opcode (offset + distance)
  | .truncatedSwitch offset => .truncatedSwitch (offset + distance)
  | .truncatedTable offset => .truncatedTable (offset + distance)
  | .truncatedOperand offset => .truncatedOperand (offset + distance)

end DecodeError

namespace Instruction

/-- the instruction, so much further on -/
def shift (distance : Nat) (i : Instruction) : Instruction := { i with offset := i.offset + distance }

/-- the place behind the instruction -/
def stop (i : Instruction) : Nat := i.offset + i.encode.length

@[simp] theorem encode_shift (distance : Nat) (i : Instruction) : (i.shift distance).encode = i.encode := rfl

end Instruction

theorem readOpcode_add (distance : Nat) (b : UInt8) :
    readOpcode (offset + distance) b code = (readOpcode offset b code).mapError (·.shift distance) := by
  unfold readOpcode
  split_ifs
  · cases code <;> rfl
  · rfl

theorem readOperand_add (distance : Nat) (kind : OperandKind) :
    readOperand (offset + distance) kind code = (readOperand offset kind code).mapError (·.shift distance) := by
  cases kind with
  | none => rfl
  | integer width =>
    simp only [readOperand]
    cases code.split? width <;> rfl
  | token =>
    simp only [readOperand]
    cases code.split? 4 <;> rfl
  | table =>
    simp only [readOperand]
    cases code.split? 4 with
    | none => rfl
    | some parts =>
      simp only
      cases parts.2.split? (4 * parts.1.toNat) <;> rfl

/-- an instruction at another offset -/
theorem step_add (distance offset : Nat) (b : UInt8) (code : Bytes) :
    step (offset + distance) b code =
      match step offset b code with
      | .ok (i, behind) => .ok (i.shift distance, behind)
      | .error e => .error (e.shift distance) := by
  simp only [step, readOpcode_add]
  cases readOpcode offset b code with
  | error e => rfl
  | ok opened =>
    obtain ⟨opcode, behind⟩ := opened
    simp only [Except.mapError, ok_bind]
    cases operandKind? opcode with
    | none => rfl
    | some kind =>
      simp only [readOperand_add]
      cases readOperand offset kind behind <;> rfl

/-- taking code apart at another offset -/
theorem decodeFrom_add (distance : Nat) (offset : Nat) (code : Bytes) :
    decodeFrom (offset + distance) code =
      ⟨(decodeFrom offset code).instructions.map (·.shift distance), (decodeFrom offset code).error.map (·.shift distance)⟩ := by
  refine decodeFrom_induct (motive := fun offset code d => decodeFrom (offset + distance) code =
    ⟨d.instructions.map (·.shift distance), d.error.map (·.shift distance)⟩) ?_ ?_ ?_ offset code
  · intro offset
    rw [decodeFrom]
    rfl
  · intro offset b code e hstep
    have hmoved := step_add distance offset b code
    rw [hstep] at hmoved
    rw [decodeFrom_cons_error hmoved]
    rfl
  · intro offset b code i behind hstep ih
    have hmoved := step_add distance offset b code
    rw [hstep] at hmoved
    rw [decodeFrom_cons_ok hmoved, encode_shift, Nat.add_right_comm, ih]
    rfl

/-! ## Places between instructions -/

/-- the places in front of the first instruction and behind each of them -/
def Decoded.ends (d : Decoded) : List Nat := 0 :: d.instructions.map (·.stop)

theorem placedFrom_decodeFrom (offset : Nat) (code : Bytes) : PlacedFrom offset (decodeFrom offset code).instructions := by
  refine decodeFrom_induct (motive := fun offset code d => PlacedFrom offset d.instructions) ?_ ?_ ?_ offset code
  · exact fun _ => trivial
  · exact fun _ _ _ _ _ => trivial
  · exact fun offset b code i behind hstep ih => ⟨(step_sound hstep).1, ih⟩

/-- instructions end behind each other and inside the code -/
theorem stops_decodeFrom (offset : Nat) (code : Bytes) :
    (offset :: (decodeFrom offset code).instructions.map (·.stop)).Pairwise (· < ·) ∧
      ∀ i ∈ (decodeFrom offset code).instructions, i.stop ≤ offset + code.length := by
  refine decodeFrom_induct (motive := fun offset code d => (offset :: d.instructions.map (·.stop)).Pairwise (· < ·) ∧
    ∀ i ∈ d.instructions, i.stop ≤ offset + code.length) ?_ ?_ ?_ offset code
  · intro offset
    simp
  · intro offset b code e hstep
    simp
  · intro offset b code i behind hstep ih
    obtain ⟨own, hencode, rfl, -⟩ := step_own hstep
    obtain ⟨hordered, hinside⟩ := ih
    have hstop : i.stop = offset + i.encode.length := by rw [stop, (step_sound hstep).1]
    have hlength : i.encode.length = own.length + 1 := by rw [hencode, List.length_cons]
    simp only [List.length_cons, List.length_append]
    constructor
    · rw [List.map_cons, hstop]
      refine List.pairwise_cons.2 ⟨List.forall_mem_cons.2 ⟨by omega, fun k hk => ?_⟩, hordered⟩
      have hbehind := (List.pairwise_cons.1 hordered).1 k hk
      omega
    · refine List.forall_mem_cons.2 ⟨by omega, fun j hj => ?_⟩
      have hle := hinside j hj
      omega

/-! ## More code -/

/-- code with more behind it comes apart into the same instructions first -/
theorem prefix_decodeFrom_append (offset : Nat) (code more : Bytes) :
    (decodeFrom offset code).instructions <+: (decodeFrom offset (code ++ more)).instructions := by
  refine decodeFrom_induct (motive := fun offset code d => d.instructions <+: (decodeFrom offset (code ++ more)).instructions)
    ?_ ?_ ?_ offset code
  · exact fun _ => List.nil_prefix
  · exact fun _ _ _ _ _ => List.nil_prefix
  · intro offset b code i behind hstep ih
    rw [List.cons_append, decodeFrom_cons_ok (step_append hstep more)]
    exact List.cons_prefix_cons.2 ⟨rfl, ih⟩

/-- behind code that comes apart up to its end more code comes apart as it would there alone -/
theorem decodeFrom_append (more : Bytes) (h : (decodeFrom offset code).error = none) :
    decodeFrom offset (code ++ more) =
      ⟨(decodeFrom offset code).instructions ++ (decodeFrom (offset + code.length) more).instructions,
        (decodeFrom (offset + code.length) more).error⟩ := by
  revert h
  refine decodeFrom_induct (motive := fun offset code d => d.error = none → decodeFrom offset (code ++ more) =
    ⟨d.instructions ++ (decodeFrom (offset + code.length) more).instructions,
      (decodeFrom (offset + code.length) more).error⟩) ?_ ?_ ?_ offset code
  · intro offset _
    rfl
  · intro offset b code e hstep h
    cases h
  · intro offset b code i behind hstep ih h
    have hlength := congrArg List.length (step_sound hstep).2.2
    rw [List.length_append] at hlength
    rw [List.cons_append, decodeFrom_cons_ok (step_append hstep more), ih h, hlength, Nat.add_assoc, List.cons_append]

/-! ## Less code -/

/-- a place in front of the ends of all instructions is an end itself only if it is the first place -/
theorem ends_in_front (offset : Nat) {l : List Instruction} {place : Nat} (h : ∀ i ∈ l, place < i.stop) :
    l.filter (·.stop ≤ place) = [] ∧ (place ∈ offset :: l.map (·.stop) ↔ place = offset) := by
  refine ⟨List.filter_eq_nil_iff.2 fun i hi => by simpa using h i hi, ?_⟩
  rw [List.mem_cons, List.mem_map]
  constructor
  · rintro (heq | ⟨i, hi, heq⟩)
    · exact heq
    · exact absurd heq (Nat.ne_of_gt (h i hi))
  · exact .inl

/-- code that is cut comes apart into the instructions that end in front of the cut, and up to its end only if the cut is
behind one of them or in front of them all -/
theorem decodeFrom_take (offset : Nat) (code : Bytes) (k : Nat) (hk : k ≤ code.length) :
    (decodeFrom offset (code.take k)).instructions =
        (decodeFrom offset code).instructions.filter (·.stop ≤ offset + k) ∧
      ((decodeFrom offset (code.take k)).error = none ↔
        offset + k ∈ offset :: (decodeFrom offset code).instructions.map (·.stop)) := by
  revert hk
  revert k
  refine decodeFrom_induct (motive := fun offset code d => ∀ k ≤ code.length,
    (decodeFrom offset (code.take k)).instructions = d.instructions.filter (·.stop ≤ offset + k) ∧
      ((decodeFrom offset (code.take k)).error = none ↔ offset + k ∈ offset :: d.instructions.map (·.stop)))
    ?_ ?_ ?_ offset code
  · intro offset k hk
    obtain rfl : k = 0 := Nat.le_zero.1 hk
    simp [decodeFrom]
  · intro offset b code e hstep k hk
    obtain ⟨hnone, hends⟩ := decodeFrom_take_first offset code b k fun i behind h => by
      rw [hstep] at h
      cases h
    rw [hnone, hends]
    simp
  · intro offset b code i behind hstep ih k hk
    have hstop : i.stop = offset + i.encode.length := by rw [stop, (step_sound hstep).1]
    rcases Nat.lt_or_ge k i.encode.length with hinside | hbehind
    · -- the cut is inside the instruction or in front of it: nothing ends there
      have hlate : ∀ j ∈ i :: (decodeFrom (offset + i.encode.length) behind).instructions, offset + k < j.stop := by
        refine List.forall_mem_cons.2 ⟨by omega, fun j hj => ?_⟩
        have hordered := (stops_decodeFrom (offset + i.encode.length) behind).1
        have hlt := (List.pairwise_cons.1 hordered).1 j.stop (List.mem_map_of_mem hj)
        omega
      obtain ⟨hnone, hends⟩ := decodeFrom_take_first offset code b k fun j behind' h => by
        rw [hstep] at h
        cases h
        exact hinside
      obtain ⟨hfilter, hplace⟩ := ends_in_front offset hlate
      rw [hnone, hends, hfilter, hplace]
      exact ⟨rfl, Iff.rfl⟩
    · -- the instruction is in front of the cut, and what is behind it is cut
      obtain ⟨r, rfl⟩ := Nat.exists_eq_add_of_le hbehind
      obtain ⟨own, hencode, rfl, hother⟩ := step_own hstep
      have hlength : i.encode.length = own.length + 1 := by rw [hencode, List.length_cons]
      obtain ⟨hfilter, hends⟩ := ih r (by simp only [List.length_cons, List.length_append] at hk; omega)
      have htake : (b :: (own ++ behind)).take (i.encode.length + r) = b :: (own ++ behind.take r) := by
        rw [hlength, Nat.add_right_comm, List.take_succ_cons, List.take_length_add_append]
      rw [htake, decodeFrom_cons_ok (hother _), ← Nat.add_assoc, hfilter, hends]
      constructor
      · rw [List.filter_cons_of_pos (by simp [hstop])]
      · rw [List.mem_cons (a := offset + i.encode.length + r) (b := offset), List.map_cons, hstop]
        constructor
        · exact fun hmem => .inr hmem
        · rintro (heq | hmem)
          · omega
          · exact hmem

/-! ## Instructions as they are given out -/

/-- an instruction with what the token in its operand stands for, or else with the operand itself -/
structure Given (β : Type) where
  offset : Nat
  opcode : Nat
  operand : Operand ⊕ β

/-- the instruction, so much further on -/
def Given.shift (distance : Nat) (g : Given β) : Given β := { g with offset := g.offset + distance }

/-- what an operand stands for when `answer` tells what tokens stand for -/
def Operand.lookup (answer : Nat → Option β) : Operand → Operand ⊕ β
  | .token t => (answer t).elim (.inl (.token t)) .inr
  | operand => .inl operand

def Instruction.given (answer : Nat → Option β) (i : Instruction) : Given β := ⟨i.offset, i.opcode, i.operand.lookup answer⟩

/-- the instructions of a code string, tokens looked up -/
def givenOut (answer : Nat → Option β) (code : Bytes) : List (Given β) := (decode code).instructions.map (·.given answer)

/-- code comes apart up to its end exactly when its last instruction ends there -/
theorem error_decode_eq_none_iff (code : Bytes) :
    (decode code).error = none ↔ (decode code).ends.getLast (List.cons_ne_nil _ _) = code.length := by
  obtain ⟨hordered, hinside⟩ := stops_decodeFrom 0 code
  have hbound : ∀ e ∈ (decode code).ends, e ≤ code.length := by
    refine List.forall_mem_cons.2 ⟨Nat.zero_le _, List.forall_mem_map.2 fun i hi => ?_⟩
    simpa using hinside i hi
  have hwhole := (decodeFrom_take 0 code code.length (Nat.le_refl _)).2
  rw [List.take_length, Nat.zero_add] at hwhole
  have hmem : (decode code).error = none ↔ code.length ∈ (decode code).ends := hwhole
  rw [hmem]
  constructor
  · intro hlength
    -- no end is behind the last one
    have hlast : code.length ≤ (decode code).ends.getLast (List.cons_ne_nil _ _) :=
      (hordered.imp Nat.le_of_lt).rel_getLast hlength
    exact Nat.le_antisymm (hbound _ (List.getLast_mem _)) hlast
  · intro hlast
    rw [← hlast]
    exact List.getLast_mem _

/-- **Taking code apart is stable under cutting the code and under adding to it.** The instructions stand one behind the other
inside the code, and it comes apart up to its end exactly when the last of them ends there. With more code behind it the code
comes apart into the same instructions first, and if nothing was wrong with it, the code behind comes apart as it does alone,
further on. Code that is cut comes apart into the instructions that end in front of the cut, and up to its end exactly when
the cut is at one of these ends; behind the last of them all instructions are still there and the rest is malformed. -/
theorem decode_cut_or_continued (answer : Nat → Option β) (code : Bytes) :
    (PlacedFrom 0 (decode code).instructions ∧ (decode code).ends.Pairwise (· < ·) ∧
      ((decode code).error = none ↔ (decode code).ends.getLast (List.cons_ne_nil _ _) = code.length)) ∧
    (∀ more, givenOut answer code <+: givenOut answer (code ++ more) ∧
      ((decode code).error = none →
        givenOut answer (code ++ more) = givenOut answer code ++ (givenOut answer more).map (·.shift code.length) ∧
        (decode (code ++ more)).error = (decode more).error.map (·.shift code.length))) ∧
    ∀ k ≤ code.length,
      givenOut answer (code.take k) = ((decode code).instructions.filter (·.stop ≤ k)).map (·.given answer) ∧
      ((decode (code.take k)).error = none ↔ k ∈ (decode code).ends) ∧
      ((∀ e ∈ (decode code).ends, e < k) →
        givenOut answer (code.take k) = givenOut answer code ∧ (decode (code.take k)).error ≠ none) := by
  refine ⟨⟨placedFrom_decodeFrom 0 code, (stops_decodeFrom 0 code).1, error_decode_eq_none_iff code⟩, fun more => ⟨?_, ?_⟩,
    fun k hk => ?_⟩
  · exact (prefix_decodeFrom_append 0 code more).map _
  · intro hnone
    have hmoved := decodeFrom_add code.length 0 more
    have hboth : decode (code ++ more) = _ := decodeFrom_append more hnone
    rw [hmoved] at hboth
    constructor
    · rw [givenOut, hboth, List.map_append, List.map_map]
      simp only [givenOut, List.map_map]
      rfl
    · rw [hboth]
      rfl
  · have htake := decodeFrom_take 0 code k hk
    rw [Nat.zero_add] at htake
    obtain ⟨hinstructions, hends⟩ := htake
    have hgiven : givenOut answer (code.take k) = ((decode code).instructions.filter (·.stop ≤ k)).map (·.given answer) := by
      rw [givenOut, decode, hinstructions]
      rfl
    refine ⟨hgiven, hends, fun hbehind => ⟨?_, fun hnone => ?_⟩⟩
    · have hall : (decode code).instructions.filter (·.stop ≤ k) = (decode code).instructions := by
        refine List.filter_eq_self.2 fun i hi => ?_
        have hlt := hbehind i.stop (List.mem_cons_of_mem _ (List.mem_map_of_mem hi))
        simpa using Nat.le_of_lt hlt
      rw [hgiven, hall]
      rfl
    · exact absurd (hbehind k (hends.1 hnone)) (Nat.lt_irrefl k)

end Unbundle.Code
