import Unbundle.Proofs.Code.RoundTrip
/-
The front of a code string.

Code is taken apart from its front on, one instruction at a time, so that the instructions at the front depend on their own
octets only: whatever stands behind them, the end of the code, further instructions or none at all, they come out the same.

Results:
- `decodeFrom_front`, `decode_front`: the first instructions of a code string are written at its front, and any other code with
  the same front comes apart into them and possibly more.
-/
namespace Unbundle.Code

open Instruction

/-- code that comes apart into some instructions and possibly more starts with their octets, and any code does so that starts
with these octets -/
theorem decodeFrom_front {offset : Nat} {code : Bytes} {front back : List Instruction}
    (h : (decodeFrom offset code).instructions = front ++ back) :
    ∃ rest, code = front.flatMap encode ++ rest ∧
      ∀ other, ∃ later, (decodeFrom offset (front.flatMap encode ++ other)).instructions = front ++ later := by
  induction front generalizing offset code with
  | nil => exact ⟨code, rfl, fun other => ⟨_, rfl⟩⟩
  | cons i front ih =>
    cases code with
    | nil =>
      rw [decodeFrom] at h
      cases h
    | cons b code =>
      cases hstep : step offset b code with
      | error e =>
        rw [decodeFrom_cons_error hstep] at h
        cases h
      | ok result =>
        obtain ⟨j, behind⟩ := result
        rw [decodeFrom_cons_ok hstep] at h
        obtain ⟨rfl, hlater⟩ := List.cons.inj h
        obtain ⟨rfl, hformed, hwritten⟩ := step_sound hstep
        obtain ⟨rest, rfl, hother⟩ := ih hlater
        refine ⟨rest, by rw [hwritten, List.flatMap_cons, List.append_assoc], fun other => ?_⟩
        obtain ⟨later, hlater⟩ := hother other
        obtain ⟨b', code', hencode, hread⟩ := step_complete hformed
        refine ⟨later, ?_⟩
        rw [List.flatMap_cons, hencode, List.append_assoc, List.cons_append, decodeFrom_cons_ok (hread j.offset _)]
        exact congrArg (j :: ·) hlater

theorem decode_front {code : Bytes} {front back : List Instruction} (h : (decode code).instructions = front ++ back) :
    ∃ rest, code = front.flatMap encode ++ rest ∧
      ∀ other, ∃ later, (decode (front.flatMap encode ++ other)).instructions = front ++ later := decodeFrom_front h

end Unbundle.Code
