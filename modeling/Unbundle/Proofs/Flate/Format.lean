import Mathlib
import Unbundle.Flate.Payload
/-
The format of compressed streams, told without a reader.

The bits of a stream stand in its octets from the lowest to the highest one, and so do those of the numbers in it; the words of
a code have their highest bit in front. `Word`, `Block` and `Stream` say which bits are a word of a block, a block and a stream,
and what they decompress to. No rule mentions what stands behind these bits, and only a block that holds octets as they are and
the checksum of a frame ask how far into an octet they begin.

A code is told by the lengths of its words alone. It may leave no words over, unless it has at most one word, of one bit: an
alphabet of which hardly anything occurs needs no more.

`IsStream raw octets payload` says that the octets are a complete stream of the payload: they hold the bits of the stream and
fewer than eight more, which fill up the last octet.
-/
namespace Unbundle.Flate

/-! ## Bits and numbers -/

/-- the bits of an octet, the lowest first -/
def octetBits (b : UInt8) : List Bool := (List.range 8).map b.toNat.testBit

/-- the bits of octets -/
def bitsOf (octets : Bytes) : List Bool := octets.flatMap octetBits

/-- the number that bits write, the lowest first -/
def lowFirst : List Bool → Nat
  | [] => 0
  | b :: rest => b.toNat + 2 * lowFirst rest

/-- the number that bits write, the highest first -/
def highFirst (bits : List Bool) : Nat := bits.foldl (fun n b => 2 * n + b.toNat) 0

/-! ## Codes -/

/-- the first word of a length as a number: all shorter words, made longer by zeros, come before it -/
def firstWord (lengths : List Nat) : (length : Nat) → Nat
  | 0 => 0
  | length + 1 => 2 * (firstWord lengths length + if length = 0 then 0 else lengths.count length)

/-- the word of a symbol in the code with the given word lengths: words of one length belong to the symbols in their order -/
structure IsWord (lengths : List Nat) (symbol : Nat) (word : List Bool) : Prop where
  length : lengths[symbol]? = some word.length
  nonempty : word ≠ []
  value : highFirst word = firstWord lengths word.length + (lengths.take symbol).count word.length

/-- the words of a code and all that begin with them are all the words there are of the longest length -/
def IsFull (lengths : List Nat) : Prop :=
  ((List.range maxWordLength).map fun i => lengths.count (i + 1) * 2 ^ (maxWordLength - (i + 1))).sum = 2 ^ maxWordLength

/-- a code that leaves no words over, or has at most one word, of one bit -/
def IsUsable (lengths : List Nat) : Prop := IsFull lengths ∨ (∀ length ∈ lengths, length ≤ 1) ∧ lengths.count 1 ≤ 1

/-! ## The words of a block -/

/-- a number as a word for the range that it is in and some bits for its place in that range; the ranges have the symbols from
`first` on -/
def IsRanged (lengths : List Nat) (first : Nat) (bases : List (Nat × Nat)) (n : Nat) (bits : List Bool) : Prop :=
  ∃ i base word extra, bases[i]? = some (base, extra.length) ∧ IsWord lengths (first + i) word ∧ bits = word ++ extra ∧
    n = base + lowFirst extra

/-- octets continued by `length` more, each of which is the one that stands `distance` before it -/
structure IsRepeated (distance length : Nat) (out result : Bytes) : Prop where
  continues : out <+: result
  length_eq : result.length = out.length + length
  repeats : ∀ i, out.length ≤ i → i < result.length → result[i]? = result[i - distance]?

/-- a word of a block: it ends the block, stands for an octet, or repeats octets of the output -/
inductive Word (literals distances : List Nat) (out : Bytes) : (bits : List Bool) → (last : Bool) → (result : Bytes) → Prop
  | done {bits} (hword : IsWord literals endOfBlock bits) : Word literals distances out bits true out
  | octet {bits} (b : UInt8) (hword : IsWord literals b.toNat bits) : Word literals distances out bits false (out ++ [b])
  | copy {front back result} {length distance : Nat} (hlength : IsRanged literals (endOfBlock + 1) lengthBases length front)
    (hdistance : IsRanged distances 0 distanceBases distance back) (hreach : distance ≤ out.length)
    (hrepeated : IsRepeated distance length out result) : Word literals distances out (front ++ back) false result

/-- parts of a stream up to one that is the last; each goes on with the output of those before it, and stands behind their
bits -/
inductive UpToLast (part : (place : Nat) → (out : Bytes) → (bits : List Bool) → (last : Bool) → (result : Bytes) → Prop) :
    (place : Nat) → (out : Bytes) → (bits : List Bool) → (result : Bytes) → Prop
  | last {place out bits result} (h : part place out bits true result) : UpToLast part place out bits result
  | more {place out bits bits' next result} (h : part place out bits false next)
    (hrest : UpToLast part (place + bits.length) next bits' result) : UpToLast part place out (bits ++ bits') result

/-- the words of a block, up to the one that ends it -/
abbrev Words (literals distances : List Nat) : (place : Nat) → (out : Bytes) → (bits : List Bool) → (result : Bytes) → Prop :=
  UpToLast fun _ => Word literals distances

/-! ## The codes described at the front of a block -/

/-- the word lengths that one word and the bits behind it give, after those given before -/
inductive Given (got : List Nat) : (symbol : Nat) → (extra : List Bool) → (given : List Nat) → Prop
  | length {symbol : Nat} (h : symbol < 16) : Given got symbol [] [symbol]
  | again {latest extra} (h : got.getLast? = some latest) (hextra : extra.length = 2) :
    Given got 16 extra (List.replicate (3 + lowFirst extra) latest)
  | zeros {extra} (hextra : extra.length = 3) : Given got 17 extra (List.replicate (3 + lowFirst extra) 0)
  | manyZeros {extra} (hextra : extra.length = 7) : Given got 18 extra (List.replicate (11 + lowFirst extra) 0)

/-- words that give word lengths after those given before, up to exactly `wanted` of them -/
inductive WordLengths (lengths : List Nat) (wanted : Nat) : (got : List Nat) → (bits : List Bool) → (all : List Nat) → Prop
  | done {got} (h : got.length = wanted) : WordLengths lengths wanted got [] got
  | more {got given all word extra bits} {symbol : Nat} (hword : IsWord lengths symbol word)
    (hgiven : Given got symbol extra given) (hfits : (got ++ given).length ≤ wanted)
    (hrest : WordLengths lengths wanted (got ++ given) bits all) :
    WordLengths lengths wanted got (word ++ extra ++ bits) all

/-- the word lengths of the code for word lengths, put in the order of their symbols -/
def ordered (listed : List Nat) : List Nat :=
  (List.range 19).map fun symbol => (listed[lengthOrder.idxOf symbol]?).getD 0

/-- numbers of three bits each -/
inductive Triples : (bits : List Bool) → (numbers : List Nat) → Prop
  | nil : Triples [] []
  | cons {triple bits numbers} (h : triple.length = 3) (hrest : Triples bits numbers) :
    Triples (triple ++ bits) (lowFirst triple :: numbers)

/-- two codes, described by their sizes, the code for word lengths, and the word lengths of both -/
inductive Described : (bits : List Bool) → (literals distances : List Nat) → Prop
  | intro {size₁ size₂ size₃ triples bits listed all} (hsize₁ : size₁.length = 5) (hsize₂ : size₂.length = 5)
    (hsize₃ : size₃.length = 4) (hliterals : 257 + lowFirst size₁ ≤ 286) (hdistances : 1 + lowFirst size₂ ≤ 30)
    (htriples : Triples triples listed) (hlisted : listed.length = 4 + lowFirst size₃) (hfull : IsFull (ordered listed))
    (hall : WordLengths (ordered listed) (257 + lowFirst size₁ + (1 + lowFirst size₂)) [] bits all)
    (hend : ∃ length, all[endOfBlock]? = some length ∧ 0 < length) (husable : IsUsable (all.take (257 + lowFirst size₁)))
    (husable' : IsUsable (all.drop (257 + lowFirst size₁))) :
    Described (size₁ ++ size₂ ++ size₃ ++ triples ++ bits) (all.take (257 + lowFirst size₁)) (all.drop (257 + lowFirst size₁))

/-! ## Blocks and streams -/

/-- bits that fill up an octet of which `place` bits are taken -/
def IsPadding (place : Nat) (pad : List Bool) : Prop := pad.length < 8 ∧ 8 ∣ place + pad.length

/-- a block that begins behind `place` bits, and continues some output; the first bit tells whether it is the last block -/
inductive Block (place : Nat) (out : Bytes) : (bits : List Bool) → (last : Bool) → (result : Bytes) → Prop
  | stored {pad} {size check content : Bytes} {last : Bool} (hpad : IsPadding (place + 3) pad) (hsize : size.length = 2)
    (hcheck : check.length = 2) (hcomplement : size.toNat + check.toNat = 65535) (hcontent : content.length = size.toNat) :
    Block place out (last :: false :: false :: (pad ++ bitsOf (size ++ check ++ content))) last (out ++ content)
  | fixed {bits result} {last : Bool} (h : Words fixedLiteralLengths fixedDistanceLengths (place + 3) out bits result) :
    Block place out (last :: true :: false :: bits) last result
  | described {front bits literals distances result} {last : Bool} (hcodes : Described front literals distances)
    (h : Words literals distances (place + 3 + front.length) out bits result) :
    Block place out (last :: false :: true :: (front ++ bits)) last result

/-- the blocks of a stream, up to the last one -/
abbrev Blocks : (place : Nat) → (out : Bytes) → (bits : List Bool) → (result : Bytes) → Prop := UpToLast Block

/-- the checksum of a payload: the sum of its octets, and the sum of what that sum is after each octet -/
def checksum (payload : Bytes) : Nat :=
  let sums := (payload.map UInt8.toNat).scanl (· + ·) 1
  65536 * (sums.tail.sum % 65521) + sums.getLastD 0 % 65521

/-- the two octets in front of a framed stream: the method, with a window of 32 K at most, and a check; no dictionary -/
structure IsFrameHeader (front flags : UInt8) : Prop where
  check : 31 ∣ 256 * front.toNat + flags.toNat
  method : front.toNat % 16 = 8
  window : front.toNat / 16 ≤ 7
  dictionary : flags.toNat.testBit 5 = false

/-- the bits of a stream: of blocks alone, or of blocks in a frame with the checksum of what they decompress to -/
inductive Stream : (raw : Bool) → (bits : List Bool) → (payload : Bytes) → Prop
  | raw {bits payload} (h : Blocks 0 [] bits payload) : Stream true bits payload
  | framed {front flags bits pad payload} {check : Bytes} (hheader : IsFrameHeader front flags) (h : Blocks 16 [] bits payload)
    (hpad : IsPadding (16 + bits.length) pad) (hcheck : check.length = 4)
    (hsum : Bytes.toNat check.reverse = checksum payload) :
    Stream false (bitsOf [front, flags] ++ bits ++ pad ++ bitsOf check) payload

/-- the octets are one complete stream of the payload -/
def IsStream (raw : Bool) (octets payload : Bytes) : Prop :=
  ∃ bits pad, bitsOf octets = bits ++ pad ∧ IsPadding bits.length pad ∧ Stream raw bits payload

end Unbundle.Flate
