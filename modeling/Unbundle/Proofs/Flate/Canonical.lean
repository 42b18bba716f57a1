import Unbundle.Proofs.Flate.Taking
/-
Reading the words of a code.

A code is kept as the number of words of each length and the symbols in the order of their words. A word is read bit by bit: as
long as the bits read, taken as a number, are behind all words of their length, the word is longer.

Results:
- `getElem?_withLength`: the symbols with words of one length, by how many of them come before.
- `reads_symbol`: what is read as a symbol are the words of the symbol, whatever the lengths of the words are.
- `ofLengths?_eq_some_iff`: which word lengths make a code.
-/
namespace Unbundle.Flate

/-! ## Numbers with the highest bit in front -/

theorem foldl_highFirst (n : Nat) (bits : List Bool) :
    bits.foldl (fun n b => 2 * n + b.toNat) n = n * 2 ^ bits.length + highFirst bits := by
  induction bits generalizing n with
  | nil => simp [highFirst]
  | cons b rest ih =>
    rw [highFirst, List.foldl_cons, List.foldl_cons, ih, ih, List.length_cons, pow_succ]
    ring

theorem highFirst_cons (b : Bool) (rest : List Bool) :
    highFirst (b :: rest) = b.toNat * 2 ^ rest.length + highFirst rest := by
  rw [highFirst, List.foldl_cons, foldl_highFirst]
  simp

theorem highFirst_lt (bits : List Bool) : highFirst bits < 2 ^ bits.length := by
  induction bits with
  | nil => simp [highFirst]
  | cons b rest ih =>
    rw [highFirst_cons, List.length_cons, pow_succ]
    cases b <;> simp <;> omega

namespace PrefixCode

variable {lengths : List Nat} {length n k : Nat}

/-! ## The symbols in order -/

/-- the symbols with words of one length, in order -/
def withLength (lengths : List Nat) (length : Nat) : List Nat :=
  (lengths.zipIdx.filter fun (l, _) => l = length).map (·.2)

/-- how many symbols have words of one of the first lengths -/
def upTo (lengths : List Nat) (length : Nat) : Nat := ((List.range length).map fun i => lengths.count (i + 1)).sum

theorem upTo_succ (lengths : List Nat) (length : Nat) :
    upTo lengths (length + 1) = upTo lengths length + lengths.count (length + 1) := by
  rw [upTo, List.range_succ, List.map_append, List.sum_append]
  simp [upTo]

@[simp] theorem length_withLength (lengths : List Nat) (length : Nat) :
    (withLength lengths length).length = lengths.count length := by
  rw [withLength, List.length_map, ← List.countP_eq_length_filter, ← List.zipIdx_map_fst 0 lengths, List.count,
    List.countP_map, List.zipIdx_map_fst]
  exact List.countP_congr fun _ _ => by simp

theorem getElem?_zipIdx_filter (start : Nat) :
    (((lengths.zipIdx start).filter fun (l, _) => l = length).map (·.2))[k]? = some n ↔
      ∃ i, n = start + i ∧ lengths[i]? = some length ∧ (lengths.take i).count length = k := by
  induction lengths generalizing start k with
  | nil => simp
  | cons first rest ih =>
    rw [List.zipIdx_cons]
    by_cases hfirst : first = length
    · subst hfirst
      rw [List.filter_cons_of_pos (by simp), List.map_cons]
      cases k with
      | zero =>
        constructor
        · intro h
          exact ⟨0, by simpa using h.symm, rfl, rfl⟩
        · rintro ⟨i, rfl, -, hcount⟩
          cases i with
          | zero => rfl
          | succ i => simp at hcount
      | succ k =>
        rw [List.getElem?_cons_succ, ih]
        constructor
        · rintro ⟨i, rfl, hi, rfl⟩
          exact ⟨i + 1, by omega, hi, by simp⟩
        · rintro ⟨i, rfl, hi, hcount⟩
          cases i with
          | zero => simp at hcount
          | succ i => exact ⟨i, by omega, hi, by simpa using hcount⟩
    · rw [List.filter_cons_of_neg (by simpa using hfirst), ih]
      constructor
      · rintro ⟨i, rfl, hi, rfl⟩
        exact ⟨i + 1, by omega, hi, by simp [hfirst]⟩
      · rintro ⟨i, rfl, hi, hcount⟩
        cases i with
        | zero => exact absurd (by simpa using hi) hfirst
        | succ i => exact ⟨i, by omega, hi, by simpa [hfirst] using hcount⟩

/-- a symbol stands behind as many of its length as there are before it -/
theorem getElem?_withLength : (withLength lengths length)[k]? = some n ↔
    lengths[n]? = some length ∧ (lengths.take n).count length = k := by
  rw [withLength, getElem?_zipIdx_filter]
  simp

/-- the symbols with words of one length stand behind all with shorter words -/
theorem getElem?_order (hlength : length < maxWordLength) (hk : k < lengths.count (length + 1)) :
    (order lengths)[upTo lengths length + k]? = (withLength lengths (length + 1))[k]? := by
  have hsize : ∀ m, ((List.range m).flatMap fun i => withLength lengths (i + 1)).length = upTo lengths m := fun m => by
    simp [upTo, List.length_flatMap]
  obtain ⟨behind, hsplit⟩ : ∃ behind, List.range maxWordLength = List.range length ++ length :: behind := by
    obtain ⟨more, hmore⟩ := Nat.exists_eq_add_of_lt hlength
    exact ⟨_, by rw [hmore, Nat.add_assoc, List.range_add, List.range_succ_eq_map]; rfl⟩
  have horder : order lengths = ((List.range length).flatMap fun i => withLength lengths (i + 1)) ++
      (withLength lengths (length + 1) ++ behind.flatMap fun i => withLength lengths (i + 1)) := by
    have : order lengths = (List.range maxWordLength).flatMap fun i => withLength lengths (i + 1) := rfl
    rw [this, hsplit, List.flatMap_append, List.flatMap_cons]
  rw [horder, ← hsize, List.getElem?_append_right (Nat.le_add_right _ _), Nat.add_sub_cancel_left,
    List.getElem?_append_left (by simpa using hk)]

/-! ## Reading a word -/

/-- the first number that is no word of a length and does not begin with a shorter word -/
def behindWords (lengths : List Nat) (length : Nat) : Nat :=
  firstWord lengths length + if length = 0 then 0 else lengths.count length

theorem firstWord_succ (lengths : List Nat) (length : Nat) :
    firstWord lengths (length + 1) = 2 * behindWords lengths length := rfl

theorem behindWords_succ (lengths : List Nat) (length : Nat) :
    behindWords lengths (length + 1) = firstWord lengths (length + 1) + lengths.count (length + 1) := rfl

/-- longer words are behind all shorter ones -/
theorem behindWords_mul_le (lengths : List Nat) (length more : Nat) :
    behindWords lengths length * 2 ^ (more + 1) ≤ firstWord lengths (length + (more + 1)) := by
  induction more with
  | zero =>
    rw [Nat.zero_add, firstWord_succ]
    omega
  | succ more ih =>
    have hstep : firstWord lengths (length + (more + 1)) ≤ behindWords lengths (length + (more + 1)) := by
      rw [behindWords]
      exact Nat.le_add_right _ _
    rw [← Nat.add_assoc length, firstWord_succ, pow_succ 2 (more + 1), ← Nat.mul_assoc, Nat.mul_comm _ 2]
    exact Nat.mul_le_mul_left 2 (ih.trans hstep)

theorem walk_cons (symbols : Array Nat) (count : Nat) (longer : List Nat) (word first index : Nat) :
    walk symbols (count :: longer) word first index = (do
      let b ← Take.bit
      if word + b < first + count then
        match symbols[index + (word + b - first)]? with
        | some symbol => return symbol
        | none => throw .invalid
      else walk symbols longer (2 * (word + b)) (2 * (first + count)) (index + count)) := by
  rw [walk]
  congr 1

/-- a number continued by one bit -/
theorem mul_two_pow_cons (v : Nat) (b : Bool) (rest : List Bool) :
    v * 2 ^ (b :: rest).length + highFirst (b :: rest) = (2 * v + b.toNat) * 2 ^ rest.length + highFirst rest := by
  rw [highFirst_cons, List.length_cons, pow_succ]
  ring

/-- what bits behind the number `v` are as the word of a symbol -/
def EndsWord (lengths : List Nat) (length v : Nat) (bits : List Bool) (n : Nat) : Prop :=
  lengths[n]? = some (length + bits.length) ∧ bits ≠ [] ∧ v * 2 ^ bits.length + highFirst bits =
    firstWord lengths (length + bits.length) + (lengths.take n).count (length + bits.length)

/-- one more bit ends a word exactly if the number with it is not behind the words of that length -/
theorem endsWord_cons {v : Nat} {b : Bool} {rest : List Bool} (hv : behindWords lengths length ≤ v) :
    EndsWord lengths length v (b :: rest) n ↔
      if 2 * v + b.toNat < behindWords lengths (length + 1) then
        rest = [] ∧ (withLength lengths (length + 1))[2 * v + b.toNat - firstWord lengths (length + 1)]? = some n
      else EndsWord lengths (length + 1) (2 * v + b.toNat) rest n := by
  have hfirst : firstWord lengths (length + 1) ≤ 2 * v + b.toNat := by
    rw [firstWord_succ]
    omega
  have hlength : length + (b :: rest).length = length + 1 + rest.length := by
    rw [List.length_cons]
    omega
  rw [EndsWord, mul_two_pow_cons, hlength, EndsWord]
  split_ifs with hshort
  · rw [getElem?_withLength]
    constructor
    · rintro ⟨hn, -, hvalue⟩
      cases rest with
      | nil =>
        simp only [List.length_nil, pow_zero, Nat.mul_one, Nat.add_zero, highFirst, List.foldl_nil] at hn hvalue
        exact ⟨rfl, hn, by omega⟩
      | cons c more =>
        -- a longer word would be behind all words of this length
        have hlt := highFirst_lt (c :: more)
        have hle := behindWords_mul_le lengths (length + 1) more.length
        have hmul := Nat.mul_le_mul_right (2 ^ (more.length + 1)) hshort
        rw [Nat.succ_mul] at hmul
        rw [List.length_cons] at hvalue hlt
        omega
    · rintro ⟨rfl, hn, hrank⟩
      exact ⟨hn, by simp, by simp [highFirst]; omega⟩
  · constructor
    · rintro ⟨hn, -, hvalue⟩
      refine ⟨hn, ?_, hvalue⟩
      rintro rfl
      -- the symbol would be one of those with words of this length
      have hmem := getElem?_withLength.2 ⟨hn, rfl⟩
      have hrank := (List.getElem?_eq_some_iff.1 hmem).1
      simp only [List.length_nil, pow_zero, Nat.mul_one, Nat.add_zero, highFirst, List.foldl_nil,
        length_withLength] at hvalue hrank
      rw [behindWords_succ] at hshort
      omega
    · rintro ⟨hn, -, hvalue⟩
      exact ⟨hn, by simp, hvalue⟩

/-- a word is read from the bit behind those that are the number `v`, if these are behind all words of their length -/
theorem reads_walk {symbols : Array Nat}
    (hsymbols : ∀ length k, k < lengths.count (length + 1) →
      symbols[upTo lengths length + k]? = (withLength lengths (length + 1))[k]?)
    (counts : List Nat) {v : Nat} (hcounts : ∀ i, (counts[i]?).getD 0 = lengths.count (length + 1 + i))
    (hv : behindWords lengths length ≤ v) :
    Reads (walk symbols counts (2 * v) (firstWord lengths (length + 1)) (upTo lengths length)) fun _ bits n =>
      EndsWord lengths length v bits n := by
  induction counts generalizing length v with
  | nil =>
    -- there are no words of this length or a longer one
    refine (Reads.throw .invalid).congr fun _ bits n => iff_of_false id ?_
    rintro ⟨hn, hbits, -⟩
    obtain ⟨b, rest, rfl⟩ := List.exists_cons_of_ne_nil hbits
    have hzero := hcounts rest.length
    rw [List.getElem?_nil, Option.getD_none, eq_comm, List.count_eq_zero, Nat.add_right_comm] at hzero
    exact hzero (List.mem_of_getElem? hn)
  | cons count longer ih =>
    have hcount : count = lengths.count (length + 1) := by simpa using hcounts 0
    have hlonger : ∀ i, (longer[i]?).getD 0 = lengths.count (length + 1 + 1 + i) := fun i => by
      rw [Nat.add_right_comm (length + 1) 1 i]
      exact hcounts (i + 1)
    have hfirst : firstWord lengths (length + 1) ≤ 2 * v := by
      rw [firstWord_succ]
      omega
    rw [walk_cons, hcount, ← behindWords_succ, ← firstWord_succ, ← upTo_succ]
    have hrest : ∀ w, Reads (if 2 * v + w < behindWords lengths (length + 1) then
        match symbols[upTo lengths length + (2 * v + w - firstWord lengths (length + 1))]? with
        | some symbol => return symbol
        | none => throw .invalid
      else walk symbols longer (2 * (2 * v + w)) (firstWord lengths (length + 1 + 1)) (upTo lengths (length + 1)))
        fun _ bits n => if 2 * v + w < behindWords lengths (length + 1) then
            bits = [] ∧ (withLength lengths (length + 1))[2 * v + w - firstWord lengths (length + 1)]? = some n
          else EndsWord lengths (length + 1) (2 * v + w) bits n := fun w => by
      split_ifs with hshort
      · rw [behindWords_succ] at hshort
        rw [hsymbols _ _ (by omega)]
        split
        · next symbol hsymbol =>
          exact (Reads.pure symbol).congr fun _ _ _ => by rw [hsymbol, Option.some_inj, eq_comm (a := symbol)]
        · next hnone => exact (Reads.throw .invalid).congr fun _ _ _ => by simp [hnone]
      · exact ih hlonger (by omega)
    refine (reads_bit.bind hrest).congr fun _ bits n => ⟨?_, fun h => ?_⟩
    · rintro ⟨_, _, rest, rfl, ⟨b, rfl, rfl⟩, h⟩
      exact (endsWord_cons hv).2 h
    · obtain ⟨b, rest, rfl⟩ := List.exists_cons_of_ne_nil h.2.1
      exact ⟨_, [b], rest, rfl, ⟨b, rfl, rfl⟩, (endsWord_cons hv).1 h⟩

/-! ## Codes -/

/-- the code with the given word lengths -/
def code (lengths : List Nat) : PrefixCode := ⟨trimmed (lengthCounts lengths), (order lengths).toArray⟩

theorem trimmed_concat_zero (counts : List Nat) : trimmed (counts ++ [0]) = trimmed counts := by
  simp [trimmed]

theorem trimmed_concat (counts : List Nat) {last : Nat} (h : last ≠ 0) : trimmed (counts ++ [last]) = counts ++ [last] := by
  have hreverse : ((counts ++ [last]).reverse.dropWhile (· = 0)).reverse = counts ++ [last] := by simp [h]
  rw [trimmed, hreverse]
  split
  · simp_all
  · rfl

/-- nothing but zeros is left out -/
theorem getD_trimmed (counts : List Nat) (i : Nat) : ((trimmed counts)[i]?).getD 0 = (counts[i]?).getD 0 := by
  induction counts using List.reverseRecOn with
  | nil => cases i <;> rfl
  | append_singleton front last ih =>
    by_cases hlast : last = 0
    · subst hlast
      rw [trimmed_concat_zero, ih, List.getElem?_append]
      split_ifs with hi
      · rfl
      · rw [List.getElem?_eq_none (Nat.le_of_not_lt hi), List.getElem?_singleton]
        split_ifs <;> rfl
    · rw [trimmed_concat _ hlast]

/-- a code is for no words, or its counts end with one that is not zero -/
theorem trimmed_cases (counts : List Nat) : (trimmed counts = [0] ∧ ∀ count ∈ counts, count = 0) ∨
    ∃ front last, trimmed counts = front ++ [last] ∧ last ≠ 0 := by
  induction counts using List.reverseRecOn with
  | nil => exact .inl ⟨rfl, by simp⟩
  | append_singleton front last ih =>
    by_cases hlast : last = 0
    · subst hlast
      rw [trimmed_concat_zero]
      refine ih.imp_left fun h => ⟨h.1, fun count hcount => ?_⟩
      rcases List.mem_append.1 hcount with hfront | hzero
      · exact h.2 count hfront
      · exact List.mem_singleton.1 hzero
    · exact .inr ⟨front, last, trimmed_concat _ hlast, hlast⟩

/-- how many words of `m` bits begin with a word, if there are `f i` words of `i + 1` bits -/
def filled (f : Nat → Nat) (m : Nat) : Nat := ((List.range m).map fun i => f i * 2 ^ (m - (i + 1))).sum

theorem filled_succ (f : Nat → Nat) (m : Nat) : filled f (m + 1) = 2 * filled f m + f m := by
  have hdouble : ∀ i ∈ List.range m, f i * 2 ^ (m + 1 - (i + 1)) = 2 * (f i * 2 ^ (m - (i + 1))) := fun i hi => by
    have hlt := List.mem_range.1 hi
    rw [show m + 1 - (i + 1) = m - (i + 1) + 1 by omega, pow_succ]
    ring
  rw [filled, List.range_succ, List.map_append, List.sum_append, List.map_congr_left hdouble, List.sum_map_mul_left]
  simp [filled]

theorem spare?_concat (counts : List Nat) (last : Nat) : spare? (counts ++ [last]) =
    (spare? counts).bind fun room => if last ≤ 2 * room then some (2 * room - last) else none := by
  rw [spare?, List.foldlM_append, spare?]
  simp only [List.foldlM_cons, List.foldlM_nil]
  congr 1
  funext room
  split_ifs <;> rfl

/-- counts of words leave some room, or more words are wanted than there are -/
theorem spare?_cases (f : Nat → Nat) (m : Nat) :
    (∃ room, spare? ((List.range m).map f) = some room ∧ room + filled f m = 2 ^ m) ∨
      spare? ((List.range m).map f) = none ∧ 2 ^ m < filled f m := by
  induction m with
  | zero => exact .inl ⟨1, rfl, rfl⟩
  | succ m ih =>
    rw [List.range_succ, List.map_append, List.map_singleton, spare?_concat, filled_succ, pow_succ]
    rcases ih with ⟨room, hroom, htotal⟩ | ⟨hnone, htotal⟩
    · rw [hroom, Option.bind_some]
      split_ifs with hfits
      · exact .inl ⟨_, rfl, by omega⟩
      · exact .inr ⟨rfl, by omega⟩
    · exact .inr ⟨by rw [hnone]; rfl, by omega⟩

/-- with at most one bit in each word all else is decided by the number of words -/
theorem filled_of_le_one (h : ∀ length ∈ lengths, length ≤ 1) (m : Nat) :
    filled (fun i => lengths.count (i + 1)) (m + 1) = lengths.count 1 * 2 ^ m := by
  induction m with
  | zero => simp [filled]
  | succ m ih =>
    have hnone : lengths.count (m + 1 + 1) = 0 := List.count_eq_zero.2 fun hmem => by
      have := h _ hmem
      omega
    rw [filled_succ, ih, hnone, pow_succ]
    ring

theorem ofLengths?_eq (loose : Bool) (lengths : List Nat) : ofLengths? loose lengths =
    (spare? (lengthCounts lengths)).bind fun spare =>
      if spare = 0 ∨ (code lengths).counts = [0] ∨ (loose ∧ (code lengths).counts.length = 1) then some (code lengths)
      else none := by
  rw [ofLengths?]
  cases spare? (lengthCounts lengths) with
  | none => rfl
  | some spare =>
    by_cases h : spare = 0 ∨ (code lengths).counts = [0] ∨ (loose ∧ (code lengths).counts.length = 1)
    · rw [Option.bind_some, if_pos h]
      exact Option.bind_eq_some_iff.2 ⟨spare, rfl, Option.bind_eq_some_iff.2 ⟨(), if_pos h, rfl⟩⟩
    · rw [Option.bind_some, if_neg h]
      refine Option.bind_eq_none_iff.2 fun _ hspare => ?_
      cases hspare
      exact Option.bind_eq_none_iff.2 fun _ hguard => absurd ((if_neg h).symm.trans hguard) (by simp)

section

variable (hmax : ∀ length ∈ lengths, length ≤ maxWordLength)

include hmax

/-- the counts of a code tell how many words there are of every length -/
theorem getD_counts (i : Nat) : ((code lengths).counts[i]?).getD 0 = lengths.count (i + 1) := by
  rw [code, getD_trimmed, lengthCounts, List.getElem?_map]
  by_cases hi : i < maxWordLength
  · rw [List.getElem?_range hi]
    rfl
  · rw [List.getElem?_eq_none (by simpa using Nat.le_of_not_lt hi)]
    refine (List.count_eq_zero.2 fun hmem => ?_).symm
    have := hmax _ hmem
    omega

/-- a code is read as its words say -/
theorem reads_symbol : Reads (code lengths).symbol fun _ bits n => IsWord lengths n bits := by
  have hsymbols : ∀ length k, k < lengths.count (length + 1) →
      (order lengths).toArray[upTo lengths length + k]? = (withLength lengths (length + 1))[k]? := fun length k hk => by
    have hmem : length + 1 ∈ lengths := List.count_pos_iff.1 (Nat.zero_lt_of_lt hk)
    rw [List.getElem?_toArray]
    exact getElem?_order (hmax _ hmem) hk
  have hcounts : ∀ i, ((code lengths).counts[i]?).getD 0 = lengths.count (0 + 1 + i) := fun i => by
    rw [getD_counts hmax, Nat.zero_add, Nat.add_comm]
  refine (reads_walk hsymbols (code lengths).counts hcounts (v := 0) (by simp [behindWords, firstWord])).congr
    fun _ bits n => ⟨fun h => ?_, fun h => ?_⟩
  · obtain ⟨hlength, hbits, hvalue⟩ := h
    rw [Nat.zero_add] at hlength hvalue
    exact ⟨hlength, hbits, by rwa [Nat.zero_mul, Nat.zero_add] at hvalue⟩
  · rw [EndsWord, Nat.zero_add, Nat.zero_mul, Nat.zero_add]
    exact ⟨h.length, h.nonempty, h.value⟩

/-- the counts of a code go up to the longest word -/
theorem forall_le_iff (m : Nat) : (∀ length ∈ lengths, length ≤ m + 1) ↔ (code lengths).counts.length ≤ m + 1 := by
  constructor
  · intro h
    rcases trimmed_cases (lengthCounts lengths) with ⟨hzero, -⟩ | ⟨front, last, hlast, hne⟩
    · rw [code, hzero]
      exact Nat.le_add_left 1 m
    · have hlong := getD_counts hmax front.length
      rw [code, hlast, List.getElem?_concat_length, Option.getD_some] at hlong
      have hmem : front.length + 1 ∈ lengths := List.count_pos_iff.1 (by omega)
      rw [code, hlast, List.length_append, List.length_singleton]
      exact h _ hmem
  · intro h length hlength
    by_contra hlt
    have hcount := getD_counts hmax (length - 1)
    rw [List.getElem?_eq_none (by omega), Nat.sub_add_cancel (by omega), Option.getD_none, eq_comm,
      List.count_eq_zero] at hcount
    exact hcount hlength

theorem counts_eq_zero_iff : (code lengths).counts = [0] ↔ ∀ length ∈ lengths, length = 0 := by
  constructor
  · intro h length hlength
    by_contra hpos
    have hcount := getD_counts hmax (length - 1)
    rw [h, Nat.sub_add_cancel (by omega)] at hcount
    have hzero : lengths.count length = 0 := by
      rw [← hcount]
      cases length - 1 <;> rfl
    exact List.count_eq_zero.1 hzero hlength
  · intro h
    rcases trimmed_cases (lengthCounts lengths) with ⟨hzero, -⟩ | ⟨front, last, hlast, hne⟩
    · exact hzero
    · have hlong := getD_counts hmax front.length
      rw [code, hlast, List.getElem?_concat_length, Option.getD_some] at hlong
      have hmem : front.length + 1 ∈ lengths := List.count_pos_iff.1 (by omega)
      exact absurd (h _ hmem) (by omega)

/-- word lengths make a code if they leave no words over, or there are no words, or at most one of one bit where that is
admitted -/
theorem ofLengths?_eq_some_iff {loose : Bool} {c : PrefixCode} : ofLengths? loose lengths = some c ↔
    c = code lengths ∧ (IsFull lengths ∨ (∀ length ∈ lengths, length = 0) ∨
      loose ∧ (∀ length ∈ lengths, length ≤ 1) ∧ lengths.count 1 ≤ 1) := by
  have hfull : IsFull lengths ↔ filled (fun i => lengths.count (i + 1)) maxWordLength = 2 ^ maxWordLength := Iff.rfl
  have hone : (∀ length ∈ lengths, length ≤ 1) → filled (fun i => lengths.count (i + 1)) maxWordLength =
      lengths.count 1 * 2 ^ 14 := fun h => filled_of_le_one h 14
  have hcounts : (code lengths).counts.length = 1 ↔ ∀ length ∈ lengths, length ≤ 1 := by
    rw [forall_le_iff hmax 0]
    rcases trimmed_cases (lengthCounts lengths) with ⟨hzero, -⟩ | ⟨front, last, hlast, -⟩
    · simp [code, hzero]
    · simp [code, hlast]
  have hnoneOne : (∀ length ∈ lengths, length = 0) → (∀ length ∈ lengths, length ≤ 1) ∧ lengths.count 1 = 0 := fun h =>
    ⟨fun l hl => by rw [h l hl]; exact Nat.zero_le 1, List.count_eq_zero.2 fun hmem => absurd (h 1 hmem) (by decide)⟩
  rw [ofLengths?_eq, lengthCounts]
  rcases spare?_cases (fun i => lengths.count (i + 1)) maxWordLength with ⟨room, hroom, htotal⟩ | ⟨hnone, htotal⟩
  · have hspare : room = 0 ↔ IsFull lengths := by
      rw [hfull]
      omega
    rw [hroom, Option.bind_some, Option.ite_none_right_eq_some, counts_eq_zero_iff hmax, hcounts, hspare, Option.some_inj,
      eq_comm (b := c), and_comm]
    refine and_congr_right fun _ => or_congr_right' fun hnot => or_congr_right (and_congr_right fun _ => ?_)
    -- two words of one bit would leave no words over
    refine (and_iff_left_of_imp fun h => ?_).symm
    rw [hfull, hone h] at hnot
    rw [hone h, show (2 : Nat) ^ maxWordLength = 2 * 2 ^ 14 from rfl] at htotal
    rw [show (2 : Nat) ^ maxWordLength = 2 * 2 ^ 14 from rfl] at hnot
    omega
  · rw [hnone, Option.bind_none]
    refine iff_of_false (by simp) ?_
    rintro ⟨-, h | h | ⟨-, h, hcount⟩⟩
    · exact htotal.ne' h
    · obtain ⟨hle, hzero⟩ := hnoneOne h
      rw [hone hle, hzero] at htotal
      simp at htotal
    · rw [hone h, show (2 : Nat) ^ maxWordLength = 2 * 2 ^ 14 from rfl] at htotal
      omega

end

end PrefixCode

end Unbundle.Flate
