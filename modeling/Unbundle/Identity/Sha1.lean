import Unbundle.Bytes
/-
The secure hash standard's 160-bit digest.

The message is padded to a multiple of 64 octets with one set bit, zeros and its length in bits, and its blocks are folded
into a state of five words.
-/
namespace Unbundle.Sha1

/-- the five chaining words -/
structure State where
  a : UInt32
  b : UInt32
  c : UInt32
  d : UInt32
  e : UInt32

/-- the words before the first block -/
def State.initial : State := ⟨0x67452301, 0xEFCDAB89, 0x98BADCFE, 0x10325476, 0xC3D2E1F0⟩

/-- a word turned left by `n` bits, `0 < n < 32` -/
def rotl (w n : UInt32) : UInt32 := (w <<< n) ||| (w >>> (32 - n))

/-- the big-endian words of a byte string -/
def words : Bytes → List UInt32
  | a :: b :: c :: d :: rest =>
    (a.toUInt32 <<< 24 ||| b.toUInt32 <<< 16 ||| c.toUInt32 <<< 8 ||| d.toUInt32) :: words rest
  | _ => []

/-- the big-endian octets of a word -/
def octets (w : UInt32) : Bytes := (Bytes.ofNat 4 w.toNat).reverse

/-- the padded message -/
def pad (message : Bytes) : Bytes :=
  let zeros := (119 - message.length % 64) % 64
  message ++ 0x80 :: List.replicate zeros 0 ++ (Bytes.ofNat 8 (8 * message.length)).reverse

/-- `count` further words of the schedule; the latest sixteen words stand first -/
def extend : (count : Nat) → List UInt32 → List UInt32
  | 0, latest => latest
  | count + 1, latest =>
    let w := rotl (latest[2]?.getD 0 ^^^ latest[7]?.getD 0 ^^^ latest[13]?.getD 0 ^^^ latest[15]?.getD 0) 1
    extend count (w :: latest)

/-- the eighty words of a block's schedule -/
def schedule (block : List UInt32) : List UInt32 := (extend 64 block.reverse).reverse

/-- round function and constant of round `t` -/
def mix (t : Nat) (s : State) : UInt32 × UInt32 :=
  if t < 20 then ((s.b &&& s.c) ||| (~~~ s.b &&& s.d), 0x5A827999)
  else if t < 40 then (s.b ^^^ s.c ^^^ s.d, 0x6ED9EBA1)
  else if t < 60 then ((s.b &&& s.c) ||| (s.b &&& s.d) ||| (s.c &&& s.d), 0x8F1BBCDC)
  else (s.b ^^^ s.c ^^^ s.d, 0xCA62C1D6)

/-- the rounds from round `t` on -/
def rounds : (t : Nat) → List UInt32 → State → State
  | _, [], s => s
  | t, w :: later, s =>
    let (f, k) := mix t s
    rounds (t + 1) later ⟨rotl s.a 5 + f + s.e + k + w, s.a, rotl s.b 30, s.c, s.d⟩

/-- one block folded into the state -/
def block (s : State) (ws : List UInt32) : State :=
  let r := rounds 0 (schedule ws) s
  ⟨s.a + r.a, s.b + r.b, s.c + r.c, s.d + r.d, s.e + r.e⟩

/-- the blocks of a list of words, sixteen words each, folded into the state -/
def blocks (s : State) (ws : List UInt32) : State :=
  if ws.length < 16 then s else blocks (block s (ws.take 16)) (ws.drop 16)
termination_by ws.length
decreasing_by simp; omega

/-- the digest of a message, twenty octets -/
def digest (message : Bytes) : Bytes :=
  let s := blocks .initial (words (pad message))
  octets s.a ++ octets s.b ++ octets s.c ++ octets s.d ++ octets s.e

theorem length_digest (message : Bytes) : (digest message).length = 20 := by
  simp [digest, octets]

end Unbundle.Sha1
