import Unbundle.Flate.Huffman
/-
The blocks of a compressed stream.

A block holds octets as they are, or words of a prefix code: a word stands for an octet, for the end of the block, or for a
length that a distance follows, which repeats octets of the output. The codes are fixed or described at the front of the
block. The last block is marked, and the stream ends with it.
-/
namespace Unbundle.Flate

/-- the octets decompressed so far -/
abbrev Output := Array UInt8

/-- the shortest length and the number of extra bits of each length symbol, from symbol 257 on -/
def lengthBases : List (Nat × Nat) :=
  [(3, 0), (4, 0), (5, 0), (6, 0), (7, 0), (8, 0), (9, 0), (10, 0), (11, 1), (13, 1), (15, 1), (17, 1), (19, 2), (23, 2),
    (27, 2), (31, 2), (35, 3), (43, 3), (51, 3), (59, 3), (67, 4), (83, 4), (99, 4), (115, 4), (131, 5), (163, 5), (195, 5),
    (227, 5), (258, 0)]

/-- the shortest distance and the number of extra bits of each distance symbol -/
def distanceBases : List (Nat × Nat) :=
  [(1, 0), (2, 0), (3, 0), (4, 0), (5, 1), (7, 1), (9, 2), (13, 2), (17, 3), (25, 3), (33, 4), (49, 4), (65, 5), (97, 5),
    (129, 6), (193, 6), (257, 7), (385, 7), (513, 8), (769, 8), (1025, 9), (1537, 9), (2049, 10), (3073, 10), (4097, 11),
    (6145, 11), (8193, 12), (12289, 12), (16385, 13), (24577, 13)]

/-- the symbol that ends a block -/
def endOfBlock : Nat := 256

/-- a number made of a base and extra bits -/
def extended (bases : List (Nat × Nat)) (symbol : Nat) : Take Nat :=
  match bases[symbol]? with
  | none => throw .invalid
  | some (base, extra) => return base + (← Take.bits extra)

/-- the output with `length` octets repeated that start `distance` octets before its end -/
def repeated (distance : Nat) : (length : Nat) → Output → Output
  | 0, out => out
  | length + 1, out => repeated distance length (out.push (out[out.size - distance]?.getD 0))

/-- the words of a block, at most `bound` of them, up to the word that ends it -/
def words (literals distances : PrefixCode) : (bound : Nat) → Output → Take Output
  | 0, _ => throw .truncated
  | bound + 1, out => do
    let symbol ← literals.symbol
    if symbol < endOfBlock then words literals distances bound (out.push (UInt8.ofNat symbol))
    else if symbol = endOfBlock then return out
    else
      let length ← extended lengthBases (symbol - 257)
      let distance ← extended distanceBases (← distances.symbol)
      if out.size < distance then throw .invalid
      words literals distances bound (repeated distance length out)

/-- the words of a block; each takes one bit at least -/
def coded (literals distances : PrefixCode) (out : Output) : Take Output := do
  words literals distances (← get).size out

/-- the word lengths of the fixed code for octets and lengths -/
def fixedLiteralLengths : List Nat :=
  List.replicate 144 8 ++ List.replicate 112 9 ++ List.replicate 24 7 ++ List.replicate 8 8

/-- the word lengths of the fixed code for distances -/
def fixedDistanceLengths : List Nat := List.replicate 32 5

/-- the code with the given word lengths, refused when it is not usable -/
def codeOf (loose : Bool) (lengths : List Nat) : Take PrefixCode :=
  match PrefixCode.ofLengths? loose lengths with
  | some c => return c
  | none => throw .invalid

/-- the order in which the word lengths of the code for word lengths are listed -/
def lengthOrder : List Nat := [16, 17, 18, 0, 8, 7, 9, 6, 10, 5, 11, 4, 12, 3, 13, 2, 14, 1, 15]

/-- `count` numbers of three bits -/
def triples : (count : Nat) → Take (List Nat)
  | 0 => return []
  | count + 1 => do
    let x ← Take.bits 3
    return x :: (← triples count)

/-- the code for word lengths; without any word it reads a zero from every bit -/
def lengthCode (listed : List Nat) : Take PrefixCode := do
  let lengths := (List.range 19).map fun symbol => (listed[lengthOrder.idxOf symbol]?).getD 0
  if lengths.all (· = 0) then return ⟨[2], #[0, 0]⟩
  codeOf false lengths

/-- how many word lengths a repeating symbol gives -/
def repeatCount (symbol : Nat) : Take Nat := do
  if symbol = 16 then return 3 + (← Take.bits 2)
  if symbol = 17 then return 3 + (← Take.bits 3)
  return 11 + (← Take.bits 7)

/-- the word length that a repeating symbol gives: the latest one, or zero -/
def repeatValue (symbol : Nat) (got : List Nat) : Take Nat :=
  if symbol = 16 then
    match got with
    | [] => throw .invalid
    | latest :: _ => return latest
  else return 0

/-- `wanted` word lengths; `got` holds those read so far, the latest first, and each word gives one at least -/
def wordLengths (c : PrefixCode) (wanted : Nat) : (bound : Nat) → (got : List Nat) → Take (List Nat)
  | 0, got => return got.reverse
  | bound + 1, got => do
    if wanted ≤ got.length then return got.reverse
    let symbol ← c.symbol
    if symbol < 16 then wordLengths c wanted bound (symbol :: got)
    else
      let count ← repeatCount symbol
      let value ← repeatValue symbol got
      if wanted < got.length + count then throw .invalid
      wordLengths c wanted bound (List.replicate count value ++ got)

/-- the two codes described at the front of a block -/
def described : Take (PrefixCode × PrefixCode) := do
  let literals := 257 + (← Take.bits 5)
  let distances := 1 + (← Take.bits 5)
  let listed := 4 + (← Take.bits 4)
  if 286 < literals || 30 < distances then throw .invalid
  let c ← lengthCode (← triples listed)
  let lengths ← wordLengths c (literals + distances) (literals + distances) []
  if (lengths[endOfBlock]?).getD 0 = 0 then throw .invalid
  return (← codeOf true (lengths.take literals), ← codeOf true (lengths.drop literals))

/-- a block that holds octets as they are: their number, its complement, the octets -/
def stored (out : Output) : Take Output := do
  let size ← Take.octets 2
  let check ← Take.octets 2
  if size.toNat + check.toNat ≠ 65535 then throw .invalid
  return out ++ (← Take.octets size.toNat)

/-- a block: whether it is the last one, and the output with its octets -/
def block (out : Output) : Take (Bool × Output) := do
  let last ← Take.bit
  let out ← match ← Take.bits 2 with
    | 0 => stored out
    | 1 => do coded (← codeOf true fixedLiteralLengths) (← codeOf true fixedDistanceLengths) out
    | 2 => do
      let (literals, distances) ← described
      coded literals distances out
    | _ => throw .invalid
  return (last = 1, out)

/-- at most `bound` blocks, up to the last one -/
def blocksWithin : (bound : Nat) → Output → Take Output
  | 0, _ => throw .truncated
  | bound + 1, out => do
    let (last, out) ← block out
    if last then return out else blocksWithin bound out

/-- the blocks of a stream; each takes one bit at least -/
def blocks : Take Output := do blocksWithin (← get).size #[]

end Unbundle.Flate
