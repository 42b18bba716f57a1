import Unbundle.Flate.Bits
/-
Canonical prefix codes.

A code is given by the length of each symbol's word, 0 for a symbol that does not occur. Words of one length are handed out
in the order of the symbols, after all shorter words. A code is usable when its words fill the space of words exactly; an
alphabet that needs hardly any words may also have a single word of one bit, or none.
-/
namespace Unbundle.Flate

/-- the longest word of a code -/
def maxWordLength : Nat := 15

/-- a code: how many words there are of each length from 1 on, and the symbols in the order of their words -/
structure PrefixCode where
  counts : List Nat
  symbols : Array Nat
  deriving Repr

namespace PrefixCode

/-- how many symbols have each word length from 1 to the longest -/
def lengthCounts (lengths : List Nat) : List Nat :=
  (List.range maxWordLength).map fun i => lengths.count (i + 1)

/-- the words left over when each length has used its share, if no length uses more than there are -/
def spare? (counts : List Nat) : Option Nat :=
  counts.foldlM (fun room count => if count ≤ 2 * room then some (2 * room - count) else none) 1

/-- the symbols with words, ordered by the length of the word and then by number -/
def order (lengths : List Nat) : List Nat :=
  (List.range maxWordLength).flatMap fun i =>
    (lengths.zipIdx.filter fun (length, _) => length = i + 1).map (·.2)

/-- the counts up to the longest word that occurs, one length at least -/
def trimmed (counts : List Nat) : List Nat :=
  match (counts.reverse.dropWhile (· = 0)).reverse with
  | [] => [0]
  | counts => counts

/-- the code with the given word lengths, if its words fill the space of words; `loose` also admits a lone word of one bit -/
def ofLengths? (loose : Bool) (lengths : List Nat) : Option PrefixCode := do
  let counts := lengthCounts lengths
  let spare ← spare? counts
  let code : PrefixCode := ⟨trimmed counts, (order lengths).toArray⟩
  guard (spare = 0 ∨ code.counts = [0] ∨ (loose ∧ code.counts.length = 1))
  return code

/-- the symbol of the word at the front of a source: `word` is the word so far, `first` the first word of the present length
and `index` the number of words that are shorter -/
def walk (symbols : Array Nat) : (counts : List Nat) → (word first index : Nat) → Take Nat
  | [], _, _, _ => throw .invalid
  | count :: longer, word, first, index => do
    let word := word + (← Take.bit)
    if word < first + count then
      match symbols[index + (word - first)]? with
      | some symbol => return symbol
      | none => throw .invalid
    walk symbols longer (2 * word) (2 * (first + count)) (index + count)

/-- the symbol of the word at the front of a source -/
def symbol (c : PrefixCode) : Take Nat := walk c.symbols c.counts 0 0 0

end PrefixCode

end Unbundle.Flate
