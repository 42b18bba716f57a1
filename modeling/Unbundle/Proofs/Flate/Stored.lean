import Unbundle.Flate.Payload
import Unbundle.Proofs.Bytes
/-
Streams that hold their payload as it is.

Results:
- `decompress_storedStream`: a payload of up to 65535 octets stored in a block of its own is read back, whatever follows it.
- `inflate_of_decompress`: a stream that is read back whatever follows it is found at its offset in any buffer.
-/
namespace Unbundle.Flate

open Bytes

/-- a stream of one block that holds a payload as it is -/
def storedStream (payload : Bytes) : Bytes :=
  1 :: (ofNat 2 payload.length ++ ofNat 2 (65535 - payload.length) ++ payload)

/-- whole octets are taken from a source that stands between two octets -/
theorem octets_append (front rest : Bytes) : Take.octets front.length ⟨front ++ rest, 0⟩ = .ok (front, ⟨rest, 0⟩) := by
  have hsplit : split? front.length (front ++ rest) = some (front, rest) := split?_append front rest
  simp only [Take.octets, Take.align, bind, StateT.bind, modify, modifyGet, MonadStateOf.modifyGet, StateT.modifyGet,
    get, getThe, MonadStateOf.get, StateT.get, pure, Except.pure, Except.bind, if_true, hsplit, set, StateT.set, StateT.pure]

/-- the rest of an octet used in part is given up first -/
theorem octets_cons (count used : Nat) (h : used ≠ 0) (b : UInt8) (rest : Bytes) :
    Take.octets count ⟨b :: rest, used⟩ = Take.octets count ⟨rest, 0⟩ := by
  simp only [Take.octets, Take.align, bind, StateT.bind, modify, modifyGet, MonadStateOf.modifyGet, StateT.modifyGet,
    pure, Except.pure, Except.bind, h, if_false, if_true, List.drop_one, List.tail_cons]

theorem bind_ok {α β : Type} {x : Take α} {f : α → Take β} {s s' : Source} {a : α} (h : x s = .ok (a, s')) :
    (x >>= f) s = f a s' := by
  simp only [bind, StateT.bind, h, Except.bind]

/-- the three bits in front of a stored block: the last one, of kind 0 -/
theorem block_one (out : Output) (rest : Bytes) :
    block out ⟨1 :: rest, 0⟩ = (do let out ← stored out; return (true, out) : Take (Bool × Output)) ⟨1 :: rest, 3⟩ := by
  have hlast : Take.bit ⟨1 :: rest, 0⟩ = .ok (1, ⟨1 :: rest, 1⟩) := by
    simp [Take.bit]
  have hkind : Take.bits 2 ⟨1 :: rest, 1⟩ = .ok (0, ⟨1 :: rest, 3⟩) := by
    simp [Take.bits, Take.bit, bind, StateT.bind, Except.bind, pure, StateT.pure, Except.pure]
  rw [block, bind_ok hlast, bind_ok hkind]
  rfl

theorem stored_storedStream {payload : Bytes} (h : payload.length ≤ 65535) (out : Output) (after : Bytes) :
    stored out ⟨storedStream payload ++ after, 3⟩ = .ok (out ++ payload, ⟨after, 0⟩) := by
  have hsize : toNat (ofNat 2 payload.length) = payload.length := toNat_ofNat 2 _ (by omega)
  have hcheck : toNat (ofNat 2 (65535 - payload.length)) = 65535 - payload.length := toNat_ofNat 2 _ (by omega)
  have hfirst : Take.octets 2 ⟨storedStream payload ++ after, 3⟩ =
      .ok (ofNat 2 payload.length, ⟨ofNat 2 (65535 - payload.length) ++ (payload ++ after), 0⟩) := by
    rw [storedStream, List.cons_append, octets_cons _ _ (by decide), List.append_assoc, List.append_assoc]
    exact octets_append (ofNat 2 payload.length) _
  have hsecond : Take.octets 2 ⟨ofNat 2 (65535 - payload.length) ++ (payload ++ after), 0⟩ =
      .ok (ofNat 2 (65535 - payload.length), ⟨payload ++ after, 0⟩) := octets_append (ofNat 2 (65535 - payload.length)) _
  have hthird := octets_append payload after
  have hsum : payload.length + (65535 - payload.length) = 65535 := by omega
  rw [stored, bind_ok hfirst, bind_ok hsecond, hsize, hcheck]
  simp only [hsum, ne_eq, not_true_eq_false, if_false]
  exact bind_ok hthird

theorem decompress_storedStream {payload : Bytes} (h : payload.length ≤ 65535) (after : Bytes) :
    decompress true (storedStream payload ++ after) = .ok payload := by
  have hstored : block #[] ⟨storedStream payload ++ after, 0⟩ = .ok ((true, (#[] : Output) ++ payload), ⟨after, 0⟩) := by
    rw [storedStream, List.cons_append, block_one, ← List.cons_append]
    exact bind_ok (stored_storedStream h #[] after)
  have hsize : ∃ bound, (⟨storedStream payload ++ after, 0⟩ : Source).size = bound + 1 := by
    refine ⟨8 * (ofNat 2 payload.length ++ ofNat 2 (65535 - payload.length) ++ payload ++ after).length + 7, ?_⟩
    simp only [Source.size, storedStream, List.cons_append, List.length_cons]
    omega
  obtain ⟨bound, hbound⟩ := hsize
  have hblocks : blocks ⟨storedStream payload ++ after, 0⟩ = .ok ((#[] : Output) ++ payload, ⟨after, 0⟩) := by
    have hget : (get : Take Source) ⟨storedStream payload ++ after, 0⟩ =
        .ok (⟨storedStream payload ++ after, 0⟩, ⟨storedStream payload ++ after, 0⟩) := rfl
    rw [blocks, bind_ok hget, hbound, blocksWithin, bind_ok hstored]
    rfl
  rw [decompress, stream, if_pos rfl, hblocks]
  simp

theorem inflate_of_decompress {payload stream : Bytes} (h : ∀ after, decompress true (stream ++ after) = .ok payload)
    (before after : Bytes) :
    inflate (before ++ stream ++ after) before.length (stream ++ after).length true = .ok payload := by
  have hrange : ¬ ((before.length : Int) < 0 ∨ ((stream ++ after).length : Int) < 0 ∨
      (((before ++ stream ++ after).length : Nat) : Int) < before.length + (stream ++ after).length) := by
    simp only [List.length_append]
    omega
  have hslice : slice (before ++ stream ++ after) (before.length : Int).toNat ((stream ++ after).length : Int).toNat =
      stream ++ after := by
    rw [slice, Int.toNat_natCast, Int.toNat_natCast, List.append_assoc, List.drop_left, List.take_length]
  rw [inflate, if_neg hrange, hslice, h after]

end Unbundle.Flate
