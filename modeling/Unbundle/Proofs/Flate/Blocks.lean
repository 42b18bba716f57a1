import Unbundle.Proofs.Flate.Words
/-
The codes described at the front of a block, and the blocks of a stream, are read as they are told.

A code for word lengths without any word reads a zero from every bit. Then the end of a block has no word, and the description
is refused; so it may be left out of what is told.

Results:
- `reads_described`: the two codes described at the front of a block.
- `reads_block`, `reads_blocks`: a block, and the blocks of a stream.
-/
namespace Unbundle.Flate

open PrefixCode

variable {place : Nat} {bits : List Bool}

/-! ## Codes -/

theorem not_isFull_of_zero {lengths : List Nat} (h : ∀ length ∈ lengths, length = 0) : ¬ IsFull lengths := by
  have hcount : ∀ i, lengths.count (i + 1) = 0 := fun i =>
    List.count_eq_zero.2 fun hmem => absurd (h _ hmem) (Nat.succ_ne_zero i)
  simp only [IsFull, hcount, Nat.zero_mul, List.map_const', List.sum_replicate, smul_zero]
  exact (Nat.two_pow_pos _).ne

/-- a code without any word is usable -/
theorem isUsable_iff {lengths : List Nat} : IsUsable lengths ↔
    IsFull lengths ∨ (∀ length ∈ lengths, length = 0) ∨ (∀ length ∈ lengths, length ≤ 1) ∧ lengths.count 1 ≤ 1 := by
  refine or_congr_right (or_iff_right_of_imp fun h => ⟨fun length hlength => ?_, ?_⟩).symm
  · exact (h length hlength).trans_le (Nat.zero_le 1)
  rw [List.count_eq_zero.2 fun hmem => absurd (h 1 hmem) (by decide)]
  exact Nat.zero_le 1

theorem reads_codeOf {lengths : List Nat} (loose : Bool) (hmax : ∀ length ∈ lengths, length ≤ maxWordLength) :
    Reads (codeOf loose lengths) fun _ bits c => bits = [] ∧ c = code lengths ∧ (IsFull lengths ∨
      (∀ length ∈ lengths, length = 0) ∨ loose ∧ (∀ length ∈ lengths, length ≤ 1) ∧ lengths.count 1 ≤ 1) := by
  have hiff : ∀ c, ofLengths? loose lengths = some c ↔ _ := fun c => ofLengths?_eq_some_iff hmax
  rw [codeOf]
  split
  · next c hc =>
    obtain ⟨rfl, h⟩ := (hiff c).1 hc
    exact (Reads.pure _).congr fun _ _ _ => by simp only [h, and_true]
  · next hnone =>
    refine (Reads.throw .invalid).congr fun _ _ c => iff_of_false id fun ⟨_, hc⟩ => ?_
    rw [(hiff c).2 hc] at hnone
    cases hnone

theorem reads_codeOf_true {lengths : List Nat} (hmax : ∀ length ∈ lengths, length ≤ maxWordLength) :
    Reads (codeOf true lengths) fun _ bits c => bits = [] ∧ c = code lengths ∧ IsUsable lengths := by
  simpa only [isUsable_iff, true_and] using reads_codeOf true hmax

/-- the code for word lengths that has no word -/
def zeroCode : PrefixCode := ⟨[2], #[0, 0]⟩

theorem reads_zeroCode : Reads zeroCode.symbol fun _ bits n => bits.length = 1 ∧ n = 0 := by
  rw [symbol, zeroCode, walk_cons]
  refine (reads_bit.bind (H := fun b _ bits n => bits = [] ∧ n = 0 ∧ b < 2) fun b => ?_).congr fun _ bits n => ⟨?_, ?_⟩
  · obtain _ | _ | b := b
    · exact (Reads.pure 0).congr fun _ _ _ => by simp
    · exact (Reads.pure 0).congr fun _ _ _ => by simp
    · exact (Reads.throw .invalid).congr fun _ _ _ => by simp
  · rintro ⟨_, _, _, rfl, ⟨b, rfl, rfl⟩, rfl, rfl, -⟩
    exact ⟨rfl, rfl⟩
  · rintro ⟨hlength, rfl⟩
    obtain ⟨b, rfl⟩ := List.length_eq_one_iff.1 hlength
    exact ⟨_, [b], [], rfl, ⟨b, rfl, rfl⟩, rfl, rfl, b.toNat_lt⟩

theorem reads_triples (count : Nat) :
    Reads (triples count) fun _ bits numbers => Triples bits numbers ∧ numbers.length = count := by
  induction count with
  | zero =>
    refine (Reads.pure []).congr fun _ bits numbers => ⟨?_, ?_⟩
    · rintro ⟨rfl, rfl⟩
      exact ⟨.nil, rfl⟩
    · rintro ⟨h, hlength⟩
      cases h with
      | nil => exact ⟨rfl, rfl⟩
      | cons _ _ => cases hlength
  | succ count ih =>
    refine ((reads_bits 3).bind fun n => ih.map (n :: ·)).congr fun _ bits numbers => ⟨?_, ?_⟩
    · rintro ⟨_, triple, back, rfl, ⟨htriple, rfl⟩, numbers, ⟨hrest, rfl⟩, rfl⟩
      exact ⟨.cons htriple hrest, rfl⟩
    · rintro ⟨h, hlength⟩
      cases h with
      | nil => cases hlength
      | cons htriple hrest =>
        exact ⟨_, _, _, rfl, ⟨htriple, rfl⟩, _, ⟨hrest, Nat.succ_injective hlength⟩, rfl⟩

/-! ## Word lengths -/

theorem length_ordered (listed : List Nat) : (ordered listed).length = 19 := by
  simp [ordered]

theorem lowFirst_lt (bits : List Bool) : lowFirst bits < 2 ^ bits.length := by
  induction bits with
  | nil => simp [lowFirst]
  | cons b rest ih =>
    have := b.toNat_lt
    rw [lowFirst, List.length_cons, pow_succ]
    omega

theorem Triples.lt {numbers : List Nat} (h : Triples bits numbers) : ∀ n ∈ numbers, n < 8 := by
  induction h with
  | nil => simp
  | @cons triple _ _ htriple _ ih =>
    have hlt := lowFirst_lt triple
    rw [htriple] at hlt
    exact List.forall_mem_cons.2 ⟨hlt, ih⟩

/-- the word lengths of the code for word lengths are numbers of three bits -/
theorem ordered_le {listed : List Nat} (h : ∀ n ∈ listed, n < 8) : ∀ length ∈ ordered listed, length ≤ maxWordLength := by
  intro length hlength
  obtain ⟨symbol, -, rfl⟩ := List.mem_map.1 hlength
  cases hlisted : listed[lengthOrder.idxOf symbol]? with
  | none => exact Nat.zero_le _
  | some n =>
    have hlt := h n (List.mem_of_getElem? hlisted)
    rw [Option.getD_some, maxWordLength]
    omega

/-- the word lengths that a symbol of the code for them gives, when `got` holds those given before, the latest first -/
def givenStep (symbol : Nat) (got : List Nat) : Take (List Nat) := do
  if symbol < 16 then return [symbol]
  else
    let count ← repeatCount symbol
    let value ← repeatValue symbol got
    return List.replicate count value

theorem wordLengths_succ (c : PrefixCode) (wanted bound : Nat) (got : List Nat) : wordLengths c wanted (bound + 1) got =
    if wanted ≤ got.length then pure got.reverse
    else c.symbol >>= fun symbol => givenStep symbol got >>= fun given =>
      if wanted < got.length + given.length then throw .invalid else wordLengths c wanted bound (given ++ got) := by
  rw [wordLengths]
  split_ifs with hwanted
  · rfl
  · refine bind_congr fun symbol => ?_
    rw [givenStep]
    split_ifs with hsymbol
    · rw [pure_bind, if_neg (by simp; omega)]
      rfl
    · simp only [bind_assoc, pure_bind, List.length_replicate]
      rfl

theorem Given.pos {got given : List Nat} {symbol : Nat} (h : Given got symbol bits given) : 0 < given.length := by
  cases h <;> simp

/-- the word lengths given by one word are all the same -/
theorem Given.reverse_eq {got given : List Nat} {symbol : Nat} (h : Given got symbol bits given) : given.reverse = given := by
  cases h <;> simp

/-- the word lengths that a symbol gives by repeating one of them -/
theorem reads_repeats (width base value : Nat) :
    Reads (do return List.replicate (base + (← Take.bits width)) value) fun _ bits given =>
    bits.length = width ∧ given = List.replicate (base + lowFirst bits) value := by
  refine ((reads_bits width).map fun n => List.replicate (base + n) value).congr fun _ bits given => ⟨?_, ?_⟩
  · rintro ⟨_, ⟨rfl, rfl⟩, rfl⟩
    exact ⟨rfl, rfl⟩
  · rintro ⟨rfl, rfl⟩
    exact ⟨_, ⟨rfl, rfl⟩, rfl⟩

theorem reads_givenStep {symbol : Nat} (hsymbol : symbol < 19) (got : List Nat) : Reads (givenStep symbol got) fun _ bits given =>
    Given got.reverse symbol bits given := by
  rcases Nat.lt_or_ge symbol 16 with hlt | hge
  · rw [givenStep, if_pos hlt]
    refine (Reads.pure [symbol]).congr fun _ bits given => ⟨?_, fun h => ?_⟩
    · rintro ⟨rfl, rfl⟩
      exact .length hlt
    · cases h with
      | length _ => exact ⟨rfl, rfl⟩
      | _ => omega
  · obtain rfl | rfl | rfl : symbol = 16 ∨ symbol = 17 ∨ symbol = 18 := by omega
    · cases got with
      | nil =>
        have hstep : givenStep 16 [] = (Take.bits 2 >>= fun _ => throw .invalid) := by
          simp only [givenStep, lt_irrefl, if_false, if_true, repeatCount, repeatValue, bind_assoc, pure_bind, throw_bind]
        rw [hstep]
        refine ((reads_bits 2).bind fun _ => Reads.throw .invalid).congr fun _ bits given => ⟨by simp, fun h => ?_⟩
        cases h with
        | length h => omega
        | again hlatest _ => cases hlatest
      | cons latest others =>
        have hstep : givenStep 16 (latest :: others) = (do return List.replicate (3 + (← Take.bits 2)) latest) := by
          simp [givenStep, repeatCount, repeatValue]
        rw [hstep]
        refine (reads_repeats 2 3 latest).congr fun _ bits given => ⟨?_, fun h => ?_⟩
        · rintro ⟨hlength, rfl⟩
          exact .again (by simp) hlength
        · cases h with
          | length h => omega
          | again hlatest hextra =>
            simp at hlatest
            exact ⟨hextra, by rw [hlatest]⟩
    · have hstep : givenStep 17 got = (do return List.replicate (3 + (← Take.bits 3)) 0) := by
        simp [givenStep, repeatCount, repeatValue]
      rw [hstep]
      refine (reads_repeats 3 3 0).congr fun _ bits given => ⟨?_, fun h => ?_⟩
      · rintro ⟨hlength, rfl⟩
        exact .zeros hlength
      · cases h with
        | length h => omega
        | zeros hextra => exact ⟨hextra, rfl⟩
    · have hstep : givenStep 18 got = (do return List.replicate (11 + (← Take.bits 7)) 0) := by
        simp [givenStep, repeatCount, repeatValue]
      rw [hstep]
      refine (reads_repeats 7 11 0).congr fun _ bits given => ⟨?_, fun h => ?_⟩
      · rintro ⟨hlength, rfl⟩
        exact .manyZeros hlength
      · cases h with
        | length h => omega
        | manyZeros hextra => exact ⟨hextra, rfl⟩

section

variable {lengths : List Nat} (hmax : ∀ length ∈ lengths, length ≤ maxWordLength) {wanted : Nat}

theorem WordLengths.eq_of_length {got all : List Nat} (h : WordLengths lengths wanted got bits all)
    (hlength : wanted ≤ got.length) :
    bits = [] ∧ all = got := by
  cases h with
  | done _ => exact ⟨rfl, rfl⟩
  | more _ hgiven hfits _ =>
    have := hgiven.pos
    rw [List.length_append] at hfits
    omega

include hmax

theorem reads_wordLengths (hsize : lengths.length ≤ 19) {bound : Nat} {got : List Nat} (hbound : wanted ≤ got.length + bound)
    (hle : got.length ≤ wanted) :
    Reads (wordLengths (code lengths) wanted bound got) fun _ bits all => WordLengths lengths wanted got.reverse bits all := by
  have hdone : ∀ {got : List Nat}, got.length = wanted → Reads (pure got.reverse) fun _ bits all =>
      WordLengths lengths wanted got.reverse bits all := fun {got} hlength => by
    refine (Reads.pure got.reverse).congr fun _ bits all => ⟨?_, fun h => h.eq_of_length (by simpa using hlength.ge)⟩
    rintro ⟨rfl, rfl⟩
    exact .done (by rw [List.length_reverse, hlength])
  induction bound generalizing got with
  | zero => exact hdone (hle.antisymm hbound)
  | succ bound ih =>
    rw [wordLengths_succ]
    split_ifs with hwanted
    · exact hdone (hle.antisymm hwanted)
    have hrest : ∀ {symbol front given}, Given got.reverse symbol front given → Reads
        (if wanted < got.length + given.length then throw .invalid else wordLengths (code lengths) wanted bound (given ++ got))
        fun _ back all => ¬ wanted < got.length + given.length ∧
          WordLengths lengths wanted (got.reverse ++ given) back all := fun {symbol front given} hgiven => by
      have hreverse : (given ++ got).reverse = got.reverse ++ given := by rw [List.reverse_append, hgiven.reverse_eq]
      have hpos := hgiven.pos
      refine Reads.guard .invalid fun hfits => ?_
      rw [← hreverse]
      exact ih (by rw [List.length_append]; omega) (by rw [List.length_append]; omega)
    refine ((reads_symbol hmax).bind_of fun {_ _ symbol} hword => (reads_givenStep ?_ got).bind_of hrest).congr
      fun _ bits all => ⟨?_, fun h => ?_⟩
    · exact (List.getElem?_eq_some_iff.1 hword.length).1.trans_le hsize
    · rintro ⟨symbol, word, _, rfl, hword, given, extra, back, rfl, hgiven, hfits, hrest⟩
      rw [← List.append_assoc]
      refine .more hword hgiven ?_ hrest
      rw [List.length_append, List.length_reverse]
      omega
    · cases h with
      | done hlength =>
        rw [List.length_reverse] at hlength
        omega
      | more hword hgiven hfits hrest =>
        rw [List.length_append, List.length_reverse] at hfits
        exact ⟨_, _, _, List.append_assoc _ _ _, hword, _, _, _, rfl, hgiven, Nat.not_lt_of_le hfits, hrest⟩

end

/-- the word lengths of a code are at most as long as those that words can give -/
theorem WordLengths.le_max {lengths got all : List Nat} {wanted : Nat} (h : WordLengths lengths wanted got bits all)
    (hgot : ∀ length ∈ got, length ≤ maxWordLength) : ∀ length ∈ all, length ≤ maxWordLength := by
  induction h with
  | done _ => exact hgot
  | more _ hgiven _ _ ih =>
    refine ih fun length hlength => (List.mem_append.1 hlength).elim (hgot length) fun hmem => ?_
    cases hgiven with
    | length h =>
      rw [List.mem_singleton.1 hmem]
      exact Nat.le_of_lt_succ h
    | again hlatest _ =>
      rw [List.eq_of_mem_replicate hmem]
      exact hgot _ (List.mem_of_getLast? hlatest)
    | zeros _ =>
      rw [List.eq_of_mem_replicate hmem]
      exact Nat.zero_le _
    | manyZeros _ =>
      rw [List.eq_of_mem_replicate hmem]
      exact Nat.zero_le _

/-- a code without any word gives zeros alone -/
theorem reads_wordLengths_zeroCode {wanted bound : Nat} {got : List Nat} (hbound : wanted ≤ got.length + bound) :
    Reads (wordLengths zeroCode wanted bound got) fun _ bits all =>
      bits.length = wanted - got.length ∧ all = got.reverse ++ List.replicate (wanted - got.length) 0 := by
  have hdone : ∀ {got : List Nat}, wanted ≤ got.length → Reads (pure got.reverse) fun _ bits all =>
      bits.length = wanted - got.length ∧ all = got.reverse ++ List.replicate (wanted - got.length) 0 := fun {got} hle => by
    rw [Nat.sub_eq_zero_of_le hle, List.replicate_zero, List.append_nil]
    simpa only [List.length_eq_zero_iff] using Reads.pure got.reverse
  induction bound generalizing got with
  | zero => exact hdone hbound
  | succ bound ih =>
    rw [wordLengths_succ]
    split_ifs with hwanted
    · exact hdone hwanted
    have hrest : ∀ {symbol : Nat}, symbol = 0 → Reads (givenStep symbol got >>= fun given =>
        if wanted < got.length + given.length then throw .invalid else wordLengths zeroCode wanted bound (given ++ got))
        fun _ bits all => bits.length = wanted - (got.length + 1) ∧
          all = got.reverse ++ List.replicate (wanted - got.length) 0 := by
      rintro _ rfl
      have hcount : wanted - got.length = wanted - (got.length + 1) + 1 := by omega
      have hall : got.reverse ++ List.replicate (wanted - got.length) 0 =
          (0 :: got).reverse ++ List.replicate (wanted - (got.length + 1)) 0 := by
        rw [hcount, List.replicate_succ, List.reverse_cons, List.append_assoc, List.singleton_append]
      rw [givenStep, if_pos (by decide), pure_bind, List.length_singleton, if_neg (by omega), List.singleton_append, hall]
      exact ih (by rw [List.length_cons]; omega)
    refine (reads_zeroCode.bind_of fun hzero => hrest hzero.2).congr fun _ bits all => ⟨?_, ?_⟩
    · rintro ⟨_, front, back, rfl, ⟨hfront, -⟩, hback, rfl⟩
      exact ⟨by rw [List.length_append]; omega, rfl⟩
    · rintro ⟨hlength, rfl⟩
      cases bits with
      | nil =>
        rw [List.length_nil] at hlength
        omega
      | cons b back =>
        rw [List.length_cons] at hlength
        exact ⟨0, [b], back, rfl, ⟨rfl, rfl⟩, by omega, rfl⟩

/-! ## Described codes -/

/-- the word lengths of both codes, when the code for word lengths is listed; the end of a block has a word -/
def listedLengths (listed : List Nat) (wanted : Nat) : Take (List Nat) := do
  let c ← lengthCode listed
  let lengths ← wordLengths c wanted wanted []
  if (lengths[endOfBlock]?).getD 0 = 0 then throw .invalid
  else return lengths

/-- the two codes with the given word lengths -/
def codesOf (literals : Nat) (lengths : List Nat) : Take (PrefixCode × PrefixCode) := do
  return (← codeOf true (lengths.take literals), ← codeOf true (lengths.drop literals))

theorem described_eq : described = (do
    let size₁ ← Take.bits 5
    let size₂ ← Take.bits 5
    let size₃ ← Take.bits 4
    if 286 < 257 + size₁ ∨ 30 < 1 + size₂ then throw .invalid
    else
      let listed ← triples (4 + size₃)
      let lengths ← listedLengths listed (257 + size₁ + (1 + size₂))
      codesOf (257 + size₁) lengths) := by
  rw [described]
  refine bind_congr fun size₁ => bind_congr fun size₂ => bind_congr fun size₃ => ?_
  simp only [Bool.or_eq_true, decide_eq_true_eq, throw_bind, listedLengths, bind_assoc]
  split_ifs
  · rfl
  · refine bind_congr fun listed => bind_congr fun c => bind_congr fun lengths => ?_
    split_ifs <;> rfl

theorem reads_lengthCode {listed : List Nat} (hlisted : ∀ n ∈ listed, n < 8) : Reads (lengthCode listed) fun _ bits c =>
    bits = [] ∧ ((∀ length ∈ ordered listed, length = 0) ∧ c = zeroCode ∨
      IsFull (ordered listed) ∧ c = code (ordered listed)) := by
  have hcode : lengthCode listed = if (ordered listed).all (· = 0) then pure zeroCode else codeOf false (ordered listed) := rfl
  rw [hcode]
  split_ifs with hzero
  · simp only [List.all_eq_true, decide_eq_true_eq] at hzero
    exact (Reads.pure zeroCode).congr fun _ bits c => by
      rw [iff_true_intro hzero, true_and, iff_false_intro (not_isFull_of_zero hzero), false_and, or_false]
  · simp only [List.all_eq_true, decide_eq_true_eq] at hzero
    exact (reads_codeOf false (ordered_le hlisted)).congr fun _ bits c => by simp [hzero, and_comm]

/-- the word lengths of both codes make a full use of words -/
theorem reads_listedLengths {listed : List Nat} (hlisted : ∀ n ∈ listed, n < 8) (wanted : Nat) :
    Reads (listedLengths listed wanted) fun _ bits all => IsFull (ordered listed) ∧
      WordLengths (ordered listed) wanted [] bits all ∧ ∃ length, all[endOfBlock]? = some length ∧ 0 < length := by
  have hend : ∀ lengths : List Nat, Reads (if (lengths[endOfBlock]?).getD 0 = 0 then throw .invalid else pure lengths)
      fun _ bits all => ¬ (lengths[endOfBlock]?).getD 0 = 0 ∧ bits = [] ∧ all = lengths := fun lengths =>
    Reads.guard .invalid fun _ => Reads.pure lengths
  have hcode : ∀ {c}, ((∀ length ∈ ordered listed, length = 0) ∧ c = zeroCode ∨
      IsFull (ordered listed) ∧ c = code (ordered listed)) →
      Reads (wordLengths c wanted wanted [] >>= fun lengths =>
        if (lengths[endOfBlock]?).getD 0 = 0 then throw .invalid else pure lengths) fun _ bits all => IsFull (ordered listed) ∧
          WordLengths (ordered listed) wanted [] bits all ∧ ∃ length, all[endOfBlock]? = some length ∧ 0 < length := by
    rintro c (⟨hzero, rfl⟩ | ⟨hfull, rfl⟩)
    · -- the end of a block has no word
      refine ((reads_wordLengths_zeroCode (by simp)).bind hend).congr fun _ bits all =>
        iff_of_false ?_ fun ⟨hfull, _⟩ => not_isFull_of_zero hzero hfull
      rintro ⟨lengths, _, _, -, ⟨-, rfl⟩, hne, -⟩
      refine hne ?_
      rw [List.reverse_nil, List.nil_append, List.getElem?_replicate]
      split <;> rfl
    · refine ((reads_wordLengths (ordered_le hlisted) (length_ordered listed).le (by simp) (Nat.zero_le _)).bind hend).congr
        fun _ bits all => ⟨?_, ?_⟩
      · rintro ⟨lengths, _, _, rfl, hall, hne, rfl, rfl⟩
        rw [List.append_nil]
        cases hlength : all[endOfBlock]? with
        | none => exact absurd (by rw [hlength]; rfl) hne
        | some length =>
          rw [hlength, Option.getD_some] at hne
          exact ⟨hfull, hall, length, rfl, Nat.pos_of_ne_zero hne⟩
      · rintro ⟨-, hall, length, hlength, hpos⟩
        exact ⟨all, bits, [], (List.append_nil _).symm, hall, by rw [hlength]; exact hpos.ne', rfl, rfl⟩
  refine ((reads_lengthCode hlisted).bind_of fun hc => hcode hc.2).congr fun _ bits all => ⟨?_, ?_⟩
  · rintro ⟨_, _, _, rfl, ⟨rfl, -⟩, h⟩
    exact h
  · rintro h
    exact ⟨_, [], bits, rfl, ⟨rfl, .inr ⟨h.1, rfl⟩⟩, h⟩

theorem reads_codesOf {lengths : List Nat} (hmax : ∀ length ∈ lengths, length ≤ maxWordLength) (literals : Nat) :
    Reads (codesOf literals lengths) fun _ bits r => bits = [] ∧ IsUsable (lengths.take literals) ∧
      IsUsable (lengths.drop literals) ∧ r = (code (lengths.take literals), code (lengths.drop literals)) := by
  have hfront : ∀ length ∈ lengths.take literals, length ≤ maxWordLength := fun length h => hmax length (List.mem_of_mem_take h)
  have hback : ∀ length ∈ lengths.drop literals, length ≤ maxWordLength := fun length h => hmax length (List.mem_of_mem_drop h)
  refine ((reads_codeOf_true hfront).bind fun c => (reads_codeOf_true hback).map fun c' => (c, c')).congr
    fun _ bits r => ⟨?_, ?_⟩
  · rintro ⟨_, _, _, rfl, ⟨rfl, rfl, husable⟩, _, ⟨rfl, rfl, husable'⟩, rfl⟩
    exact ⟨rfl, husable, husable', rfl⟩
  · rintro ⟨rfl, husable, husable', rfl⟩
    exact ⟨_, [], [], rfl, ⟨rfl, rfl, husable⟩, _, ⟨rfl, rfl, husable'⟩, rfl⟩

theorem reads_described : Reads described fun _ bits r => ∃ lengths : List Nat × List Nat,
    Described bits lengths.1 lengths.2 ∧ r = (code lengths.1, code lengths.2) := by
  rw [described_eq]
  refine ((reads_bits 5).bind fun _ => (reads_bits 5).bind fun _ => (reads_bits 4).bind fun _ =>
    Reads.guard .invalid fun _ => (reads_triples _).bind_of fun hlisted =>
      (reads_listedLengths hlisted.1.lt _).bind_of fun hall =>
        reads_codesOf (hall.2.1.le_max (by simp)) _).congr fun _ bits r => ⟨?_, ?_⟩
  · rintro ⟨_, size₁, _, rfl, ⟨hsize₁, rfl⟩, _, size₂, _, rfl, ⟨hsize₂, rfl⟩, _, size₃, _, rfl, ⟨hsize₃, rfl⟩, hlimits,
      listed, front, _, rfl, ⟨hlisted, hcount⟩, all, back, _, rfl, ⟨hfull, hall, hend⟩, rfl, husable, husable', rfl⟩
    rw [not_or, Nat.not_lt, Nat.not_lt] at hlimits
    refine ⟨(_, _), ?_, rfl⟩
    rw [List.append_nil, ← List.append_assoc, ← List.append_assoc, ← List.append_assoc]
    exact .intro hsize₁ hsize₂ hsize₃ hlimits.1 hlimits.2 hlisted hcount hfull hall hend husable husable'
  · rintro ⟨⟨_, _⟩, ⟨hsize₁, hsize₂, hsize₃, hliterals, hdistances, hlisted, hcount, hfull, hall, hend, husable, husable'⟩, rfl⟩
    refine ⟨_, _, _, ?_, ⟨hsize₁, rfl⟩, _, _, _, rfl, ⟨hsize₂, rfl⟩, _, _, _, rfl, ⟨hsize₃, rfl⟩, ?_, _, _, _, rfl,
      ⟨hlisted, hcount⟩, _, _, [], rfl, ⟨hfull, hall, hend⟩, rfl, husable, husable', rfl⟩
    · rw [List.append_nil, List.append_assoc, List.append_assoc, List.append_assoc]
    · rw [not_or, Nat.not_lt, Nat.not_lt]
      exact ⟨hliterals, hdistances⟩

theorem Described.le_max {literals distances : List Nat} (h : Described bits literals distances) :
    (∀ length ∈ literals, length ≤ maxWordLength) ∧ ∀ length ∈ distances, length ≤ maxWordLength := by
  obtain ⟨_, _, _, _, _, _, _, _, hall, _, _, _⟩ := h
  have hmax := hall.le_max (by simp)
  exact ⟨fun length h => hmax length (List.mem_of_mem_take h), fun length h => hmax length (List.mem_of_mem_drop h)⟩

/-! ## Blocks -/

theorem isPadding_nil (h : 8 ∣ place) : IsPadding place [] := ⟨by decide, h⟩

theorem IsPadding.eq_nil {pad : List Bool} (h : IsPadding place pad) (hplace : 8 ∣ place) : pad = [] := by
  obtain ⟨hlt, hdvd⟩ := h
  exact List.eq_nil_of_length_eq_zero (by omega)

/-- whole octets end between two octets -/
theorem IsPadding.dvd {pad : List Bool} (h : IsPadding place pad) (octets : Bytes) :
    8 ∣ place + (pad ++ bitsOf octets).length := by
  have hdvd := h.2
  rw [List.length_append, length_bitsOf]
  omega

theorem reads_stored (out : Output) : Reads (stored out) fun place bits result =>
    ∃ pad, ∃ size check content : Bytes, IsPadding place pad ∧ bits = pad ++ bitsOf (size ++ check ++ content) ∧
      size.length = 2 ∧ check.length = 2 ∧ size.toNat + check.toNat = 65535 ∧ content.length = size.toNat ∧
      result.toList = out.toList ++ content := by
  have hcontent : ∀ size check : Bytes, Reads (if size.toNat + check.toNat ≠ 65535 then throw .invalid
      else do return out ++ (← Take.octets size.toNat)) fun place bits result =>
        ¬ size.toNat + check.toNat ≠ 65535 ∧ ∃ content, (∃ pad, IsPadding place pad ∧ bits = pad ++ bitsOf content ∧
          content.length = size.toNat) ∧ result = out ++ content := fun size check =>
    Reads.guard .invalid fun _ => (reads_octets size.toNat).map (out ++ ·)
  refine ((reads_octets 2).bind fun size => (reads_octets 2).bind fun check => hcontent size check).congr
    fun place bits result => ⟨?_, ?_⟩
  · rintro ⟨size, _, _, rfl, ⟨pad, hpad, rfl, hsize⟩, check, _, _, rfl, ⟨pad', hpad', rfl, hcheck⟩, hsum, content,
      ⟨pad'', hpad'', rfl, hcontent⟩, rfl⟩
    -- the other octets begin between two octets
    obtain rfl := hpad'.eq_nil (hpad.dvd size)
    obtain rfl := hpad''.eq_nil (hpad'.dvd check)
    refine ⟨pad, size, check, content, hpad, ?_, hsize, hcheck, not_not.1 hsum, hcontent, by simp⟩
    simp only [List.nil_append, bitsOf_append, List.append_assoc]
  · rintro ⟨pad, size, check, content, hpad, rfl, hsize, hcheck, hsum, hcontent, hresult⟩
    have hpad' := isPadding_nil (hpad.dvd size)
    have hpad'' := isPadding_nil (hpad'.dvd check)
    refine ⟨size, pad ++ bitsOf size, bitsOf check ++ bitsOf content, ?_, ⟨pad, hpad, rfl, hsize⟩, check, bitsOf check,
      bitsOf content, rfl, ⟨[], hpad', rfl, hcheck⟩, not_not.2 hsum, content, ⟨[], hpad'', rfl, hcontent⟩, ?_⟩
    · simp only [bitsOf_append, List.append_assoc]
    · rw [← Array.toList_inj, hresult, Array.toList_appendList]

/-- the octets of a block of some kind -/
def blockContent (kind : Nat) (out : Output) : Take Output :=
  match kind with
  | 0 => stored out
  | 1 => do coded (← codeOf true fixedLiteralLengths) (← codeOf true fixedDistanceLengths) out
  | 2 => do
    let (literals, distances) ← described
    coded literals distances out
  | _ => throw .invalid

theorem block_eq (out : Output) : block out = (do
    let last ← Take.bit
    let kind ← Take.bits 2
    return (last = 1, ← blockContent kind out)) := by
  rw [block]
  refine bind_congr fun last => bind_congr fun kind => ?_
  obtain _ | _ | _ | kind := kind
  · rfl
  · simp only [blockContent, bind_assoc]
  · simp only [blockContent, bind_assoc]
  · rfl

/-- what the bits behind the kind of a block are -/
def IsContent (kind place : Nat) (out : Bytes) (bits : List Bool) (result : Bytes) : Prop :=
  match kind with
  | 0 => ∃ pad, ∃ size check content : Bytes, IsPadding place pad ∧ bits = pad ++ bitsOf (size ++ check ++ content) ∧
      size.length = 2 ∧ check.length = 2 ∧ size.toNat + check.toNat = 65535 ∧ content.length = size.toNat ∧
      result = out ++ content
  | 1 => Words fixedLiteralLengths fixedDistanceLengths place out bits result
  | 2 => ∃ literals distances front back, bits = front ++ back ∧ Described front literals distances ∧
      Words literals distances (place + front.length) out back result
  | _ => False

theorem fixedLiteralLengths_le : ∀ length ∈ fixedLiteralLengths, length ≤ maxWordLength := by
  decide +kernel

theorem fixedDistanceLengths_le : ∀ length ∈ fixedDistanceLengths, length ≤ maxWordLength := by
  decide +kernel

theorem isFull_fixedLiteralLengths : IsFull fixedLiteralLengths := by
  unfold IsFull
  decide +kernel

theorem isFull_fixedDistanceLengths : IsFull fixedDistanceLengths := by
  unfold IsFull
  decide +kernel

theorem reads_blockContent (kind : Nat) (out : Output) : Reads (blockContent kind out) fun place bits result =>
    IsContent kind place out.toList bits result.toList := by
  match kind with
  | 0 => exact reads_stored out
  | 1 =>
    refine ((reads_codeOf_true fixedLiteralLengths_le).bind_of fun hliterals =>
      (reads_codeOf_true fixedDistanceLengths_le).bind_of fun hdistances =>
        reads_coded fixedLiteralLengths_le fixedDistanceLengths_le out hliterals.2.1 hdistances.2.1).congr
      fun place bits result => ⟨?_, fun h => ?_⟩
    · rintro ⟨_, _, _, rfl, ⟨rfl, -⟩, _, _, back, rfl, ⟨rfl, -⟩, h⟩
      exact h
    · exact ⟨_, [], bits, rfl, ⟨rfl, rfl, .inl isFull_fixedLiteralLengths⟩, _, [], bits, rfl,
        ⟨rfl, rfl, .inl isFull_fixedDistanceLengths⟩, h⟩
  | 2 =>
    refine (reads_described.bind_through fun hcodes =>
      reads_coded hcodes.le_max.1 hcodes.le_max.2 out rfl rfl).congr fun place bits result => ⟨?_, ?_⟩
    · rintro ⟨⟨literals, distances⟩, front, back, rfl, hcodes, h⟩
      exact ⟨literals, distances, front, back, rfl, hcodes, h⟩
    · rintro ⟨literals, distances, front, back, rfl, hcodes, h⟩
      exact ⟨(literals, distances), front, back, rfl, hcodes, h⟩
  | kind + 3 => exact Reads.throw .invalid

theorem reads_block (out : Output) : Reads (block out) fun place bits r => Block place out.toList bits r.1 r.2.toList := by
  rw [block_eq]
  refine (reads_bit.bind fun last => (reads_bits 2).bind fun kind => (reads_blockContent kind out).map fun result =>
    (decide (last = 1), result)).congr fun place bits r => ⟨?_, fun h => ?_⟩
  · rintro ⟨_, _, _, rfl, ⟨last, rfl, rfl⟩, _, kind, back, rfl, ⟨hkind, rfl⟩, result, hcontent, rfl⟩
    have hlast : decide (last.toNat = 1) = last := by cases last <;> rfl
    obtain ⟨b, c, rfl⟩ := List.length_eq_two.1 hkind
    rw [hlast]
    match b, c with
    | false, false =>
      obtain ⟨pad, size, check, content, hpad, rfl, hsize, hcheck, hsum, hlength, hresult⟩ := hcontent
      dsimp only
      rw [hresult]
      exact .stored hpad hsize hcheck hsum hlength
    | true, false => exact .fixed hcontent
    | false, true =>
      obtain ⟨literals, distances, front, back, rfl, hcodes, hwords⟩ := hcontent
      have hblock : Block place out.toList (last :: false :: true :: (front ++ back)) last result.toList :=
        .described hcodes hwords
      exact hblock
    | true, true => exact hcontent.elim
  · obtain ⟨last, result⟩ := r
    dsimp only at h
    generalize hresult : result.toList = octets at h
    have hlast : last = decide (last.toNat = 1) := by cases last <;> rfl
    cases h with
    | stored hpad hsize hcheck hsum hlength =>
      exact ⟨_, [last], _, rfl, ⟨last, rfl, rfl⟩, 0, [false, false], _, rfl, ⟨rfl, rfl⟩, result,
        ⟨_, _, _, _, hpad, rfl, hsize, hcheck, hsum, hlength, hresult⟩, Prod.ext hlast rfl⟩
    | fixed hwords =>
      exact ⟨_, [last], _, rfl, ⟨last, rfl, rfl⟩, 1, [true, false], _, rfl, ⟨rfl, rfl⟩, result, hresult ▸ hwords,
        Prod.ext hlast rfl⟩
    | described hcodes hwords =>
      exact ⟨_, [last], _, rfl, ⟨last, rfl, rfl⟩, 2, [false, true], _, rfl, ⟨rfl, rfl⟩, result,
        ⟨_, _, _, _, rfl, hcodes, hresult ▸ hwords⟩, Prod.ext hlast rfl⟩

theorem Block.nonempty {out result : Bytes} {last : Bool} (h : Block place out bits last result) : bits ≠ [] := by
  cases h <;> simp

theorem reads_blocks : Reads blocks fun place bits result => Blocks place [] bits result.toList := by
  have hblocks : ∀ bound out, blocksWithin bound out = repeatedly block bound out := fun bound => by
    induction bound with
    | zero => exact fun _ => rfl
    | succ bound ih =>
      intro out
      rw [blocksWithin, repeatedly_succ]
      refine bind_congr fun entry => ?_
      obtain ⟨last, next⟩ := entry
      simp only [ih]
  have heq : blocks = (do repeatedly block (← get).size #[]) := bind_congr fun s => hblocks s.size #[]
  rw [heq]
  exact reads_repeatedly reads_block Block.nonempty #[]

end Unbundle.Flate
