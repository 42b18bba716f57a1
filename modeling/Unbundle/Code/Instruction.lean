import Unbundle.Bytes
import Unbundle.Text.Digits
import Unbundle.Code.Opcode
/-
Method code, taken apart into instructions.

`Instruction.step` reads the first instruction of a code string and gives what is left, which is shorter. `decode` repeats it
and ends either at the end of the code or at the first malformed instruction; the instructions before that point stand in
either case. `Instruction.encode` writes one instruction.
-/
namespace Unbundle.Code

/-- why the code at an offset is no instruction -/
inductive DecodeError where
  | truncatedOpcode (offset : Nat)
  | invalidOpcode (opcode offset : Nat)
  | truncatedSwitch (offset : Nat)
  | truncatedTable (offset : Nat)
  | truncatedOperand (offset : Nat)
  deriving DecidableEq, Repr

/-- the wording of a cause -/
def DecodeError.message : DecodeError → String
  | .truncatedOpcode offset => "truncated two-byte opcode at " ++ Text.hex offset
  | .invalidOpcode opcode offset => "invalid opcode " ++ Text.hex opcode ++ " at " ++ Text.hex offset
  | .truncatedSwitch offset => "truncated switch at " ++ Text.hex offset
  | .truncatedTable offset => "truncated switch table at " ++ Text.hex offset
  | .truncatedOperand offset => "truncated operand at " ++ Text.hex offset

/-- the operand of an instruction as the code gives it -/
inductive Operand where
  | none
  | integer (value : Int)
  | token (value : Nat)
  | table (targets : List Int)
  deriving DecidableEq, Repr

/-- one instruction: where it starts, its operation code and its operand -/
structure Instruction where
  offset : Nat
  opcode : Nat
  operand : Operand
  deriving DecidableEq, Repr

/-- a code string taken apart: its instructions and, if it does not end after the last of them, why -/
structure Decoded where
  instructions : List Instruction
  error : Option DecodeError
  deriving Repr

/-- `count` numbers of four octets in two's complement -/
def targets : (count : Nat) → Bytes → List Int
  | 0, _ => []
  | count + 1, bs => Bytes.toInt (bs.take 4) :: targets count (bs.drop 4)

namespace Instruction

/-- the operand of the given kind at the front of `code`, and the code after it -/
def readOperand (offset : Nat) (kind : OperandKind) (code : Bytes) : Except DecodeError (Operand × Bytes) :=
  match kind with
  | .none => .ok (.none, code)
  | .integer width =>
    match code.split? width with
    | some (field, rest) => .ok (.integer field.toInt, rest)
    | none => .error (.truncatedOperand offset)
  | .token =>
    match code.split? 4 with
    | some (field, rest) => .ok (.token field.toNat, rest)
    | none => .error (.truncatedOperand offset)
  | .table =>
    match code.split? 4 with
    | none => .error (.truncatedSwitch offset)
    | some (field, rest) =>
      match rest.split? (4 * field.toNat) with
      | none => .error (.truncatedTable offset)
      | some (entries, rest) => .ok (.table (targets field.toNat entries), rest)

/-- the operation code at the front of a code string that starts with the octet `b` -/
def readOpcode (offset : Nat) (b : UInt8) (rest : Bytes) : Except DecodeError (Nat × Bytes) :=
  if b = escape then
    match rest with
    | [] => .error (.truncatedOpcode offset)
    | second :: rest => .ok (0xFE00 + second.toNat, rest)
  else .ok (b.toNat, rest)

/-- the instruction that starts with the octet `b` and goes on in `rest`, and the code after it -/
def step (offset : Nat) (b : UInt8) (rest : Bytes) : Except DecodeError (Instruction × Bytes) := do
  let (code, rest) ← readOpcode offset b rest
  match operandKind? code with
  | none => throw (.invalidOpcode code offset)
  | some kind =>
    let (value, rest) ← readOperand offset kind rest
    return (⟨offset, code, value⟩, rest)

/-- the octets of an operation code -/
def encodeOpcode (opcode : Nat) : Bytes :=
  if opcode < 0xFE00 then [UInt8.ofNat opcode] else [escape, UInt8.ofNat (opcode - 0xFE00)]

/-- the octets of an operand of the given kind -/
def encodeOperand : OperandKind → Operand → Bytes
  | .integer width, .integer value => Bytes.ofInt width value
  | .token, .token value => Bytes.ofNat 4 value
  | .table, .table entries => Bytes.ofNat 4 entries.length ++ entries.flatMap (Bytes.ofInt 4)
  | _, _ => []

/-- the octets of an instruction -/
def encode (i : Instruction) : Bytes :=
  encodeOpcode i.opcode ++ encodeOperand ((operandKind? i.opcode).getD .none) i.operand

theorem length_readOperand {offset : Nat} {kind : OperandKind} {code rest : Bytes} {value : Operand}
    (h : readOperand offset kind code = .ok (value, rest)) : rest.length ≤ code.length := by
  cases kind with
  | none =>
    simp only [readOperand, Except.ok.injEq, Prod.mk.injEq] at h
    simp [h.2]
  | integer width =>
    simp only [readOperand] at h
    split at h
    · next hs =>
      have := Bytes.length_rest_of_split? hs
      simp only [Except.ok.injEq, Prod.mk.injEq] at h
      rw [← h.2]; omega
    · simp at h
  | token =>
    simp only [readOperand] at h
    split at h
    · next hs =>
      have := Bytes.length_rest_of_split? hs
      simp only [Except.ok.injEq, Prod.mk.injEq] at h
      rw [← h.2]; omega
    · simp at h
  | table =>
    simp only [readOperand] at h
    split at h
    · simp at h
    · next hs =>
      split at h
      · simp at h
      · next ht =>
        have := Bytes.length_rest_of_split? hs
        have := Bytes.length_rest_of_split? ht
        simp only [Except.ok.injEq, Prod.mk.injEq] at h
        rw [← h.2]; omega

theorem length_readOpcode {offset : Nat} {b : UInt8} {code rest : Bytes} {opcode : Nat}
    (h : readOpcode offset b code = .ok (opcode, rest)) : rest.length ≤ code.length := by
  unfold readOpcode at h
  split at h
  · split at h
    · simp at h
    · simp only [Except.ok.injEq, Prod.mk.injEq] at h
      simp [← h.2]
  · simp only [Except.ok.injEq, Prod.mk.injEq] at h
    simp [h.2]

/-- an instruction takes at least its first octet -/
theorem length_step {offset : Nat} {b : UInt8} {code rest : Bytes} {i : Instruction}
    (h : step offset b code = .ok (i, rest)) : rest.length ≤ code.length := by
  unfold step at h
  cases ho : readOpcode offset b code with
  | error e => simp [ho, bind, Except.bind] at h
  | ok r =>
    obtain ⟨opcode, after⟩ := r
    simp only [ho, bind, Except.bind] at h
    split at h
    · simp [throw, throwThe, MonadExceptOf.throw] at h
    · next kind _ =>
      cases hv : readOperand offset kind after with
      | error e => simp [hv] at h
      | ok r =>
        obtain ⟨value, last⟩ := r
        simp only [hv, pure, Except.pure, Except.ok.injEq, Prod.mk.injEq] at h
        have := length_readOpcode ho
        have := length_readOperand hv
        rw [← h.2]; omega

end Instruction

/-- the instructions of a code string whose first octet has the given offset -/
def decodeFrom (offset : Nat) : Bytes → Decoded
  | [] => ⟨[], none⟩
  | b :: code =>
    match h : Instruction.step offset b code with
    | .error e => ⟨[], some e⟩
    | .ok (i, rest) =>
      have := Instruction.length_step h
      let later := decodeFrom (offset + (code.length + 1 - rest.length)) rest
      ⟨i :: later.instructions, later.error⟩
termination_by code => code.length

/-- the instructions of a code string, up to its end or the first malformed one -/
def decode (code : Bytes) : Decoded := decodeFrom 0 code

end Unbundle.Code
