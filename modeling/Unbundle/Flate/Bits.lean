import Unbundle.Bytes
/-
Bits of a byte string, the lowest bit of an octet first.

A source is what is left of a compressed stream: octets, the first of which may be used in part. Every reader below takes bits
off the front of a source. It fails as `truncated` when the source ends too soon and as `invalid` when what stands there
cannot be continued to a stream; nothing behind the bits taken has an influence on either.
-/
namespace Unbundle.Flate

/-- why no complete stream stands at the front of a source -/
inductive Fault where
  | truncated
  | invalid
  deriving DecidableEq, Repr

/-- octets of which the first has `used` bits taken already -/
structure Source where
  octets : Bytes
  used : Nat
  deriving Repr

/-- the number of bits left -/
def Source.size (s : Source) : Nat := 8 * s.octets.length - s.used

/-- a step that takes bits off a source -/
abbrev Take := StateT Source (Except Fault)

namespace Take

/-- one bit, as 0 or 1 -/
def bit : Take Nat := fun s =>
  match s.octets with
  | [] => .error .truncated
  | b :: rest =>
    let value := (b.toNat >>> s.used) % 2
    .ok (value, if s.used < 7 then { s with used := s.used + 1 } else ⟨rest, 0⟩)

/-- a number of `count` bits, the lowest first -/
def bits : (count : Nat) → Take Nat
  | 0 => return 0
  | count + 1 => do
    let low ← bit
    let high ← bits count
    return low + 2 * high

/-- give up the rest of an octet that is used in part -/
def align : Take Unit := modify fun s => if s.used = 0 then s else ⟨s.octets.drop 1, 0⟩

/-- `count` whole octets -/
def octets (count : Nat) : Take Bytes := do
  align
  let s ← get
  match s.octets.split? count with
  | none => throw .truncated
  | some (front, rest) =>
    set ({ s with octets := rest } : Source)
    return front

end Take

end Unbundle.Flate
