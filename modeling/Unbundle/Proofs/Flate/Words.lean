import Unbundle.Proofs.Flate.Canonical
/-
The words of a block are read as they are told.

A loop that does a step again until it was the last one reads parts up to the last one, if its bound is not smaller than the
number of bits that are left: each part has one bit at least. The words of a block and the blocks of a stream are both read by
such a loop.

Results:
- `reads_repeatedly`: what a loop reads, from what a step of it reads.
- `isRepeated_iff`: octets repeated one after the other are those that stand a distance before.
- `reads_coded`: the words of a block.
-/
namespace Unbundle.Flate

open PrefixCode

variable {α : Type} {s s' : Source} {place : Nat} {bits rest : List Bool}

/-! ## Loops -/

@[simp] theorem throw_bind {β : Type} (e : Fault) (f : α → Take β) : ((throw e : Take α) >>= f) = throw e := rfl

/-- a step done again, at most `bound` times, until it says that it was the last -/
def repeatedly (step : Output → Take (Bool × Output)) : (bound : Nat) → Output → Take Output
  | 0, _ => throw .truncated
  | bound + 1, out => do
    let (last, out) ← step out
    if last then return out else repeatedly step bound out

section

variable {step : Output → Take (Bool × Output)}
  {part : (place : Nat) → (out : Bytes) → (bits : List Bool) → (last : Bool) → (result : Bytes) → Prop}

theorem UpToLast.nonempty (hpart : ∀ {place out bits last result}, part place out bits last result → bits ≠ [])
    {place : Nat} {out result : Bytes} {bits : List Bool} (h : UpToLast part place out bits result) : bits ≠ [] := by
  cases h with
  | last h => exact hpart h
  | more h _ => exact List.append_ne_nil_of_left_ne_nil (hpart h) _

/-- what a loop still does behind a step -/
theorem repeatedly_succ (bound : Nat) (out : Output) : repeatedly step (bound + 1) out =
    step out >>= fun r => if r.1 then pure r.2 else repeatedly step bound r.2 := rfl

theorem repeatedly_sound (hstep : ∀ out, Reads (step out) fun place bits r => part place out.toList bits r.1 r.2.toList)
    {bound : Nat} {out result : Output} (hs : s.At place) (hrun : repeatedly step bound out s = .ok (result, s')) :
    ∃ bits, s.bits = bits ++ s'.bits ∧ s'.At (place + bits.length) ∧ UpToLast part place out.toList bits result.toList := by
  induction bound generalizing out s place with
  | zero => cases hrun
  | succ bound ih =>
    rw [repeatedly_succ] at hrun
    obtain ⟨⟨last, next⟩, s₁, hx, hrun⟩ := exists_of_bind hrun
    obtain ⟨front, hfront, hs₁, hpart⟩ := (hstep out).sound hs hx
    cases last with
    | true =>
      cases hrun
      exact ⟨front, hfront, hs₁, .last hpart⟩
    | false =>
      obtain ⟨back, hback, hs', hrest⟩ := ih hs₁ hrun
      refine ⟨front ++ back, by rw [hfront, hback, List.append_assoc], ?_, .more hpart hrest⟩
      rwa [List.length_append, ← Nat.add_assoc]

theorem repeatedly_complete (hstep : ∀ out, Reads (step out) fun place bits r => part place out.toList bits r.1 r.2.toList)
    (hpart : ∀ {place out bits last result}, part place out bits last result → bits ≠ [])
    {out result : Bytes} (h : UpToLast part place out bits result) {bound : Nat} (hbound : bits.length ≤ bound)
    (hs : s.At place) (hbits : s.bits = bits ++ rest) :
    ∃ s', repeatedly step bound out.toArray s = .ok (result.toArray, s') ∧ s'.bits = rest := by
  induction h generalizing bound s with
  | last h =>
    obtain ⟨bound, rfl⟩ : ∃ n, bound = n + 1 := ⟨bound - 1, by have := List.length_pos_of_ne_nil (hpart h); omega⟩
    obtain ⟨s₁, hx, hrest⟩ := (hstep _).complete (a := (true, _)) hs hbits h
    exact ⟨s₁, by rw [repeatedly_succ, bind_ok hx]; rfl, hrest⟩
  | @more place out front back next result h hmore ih =>
    have hpos := List.length_pos_of_ne_nil (hpart h)
    rw [List.length_append] at hbound
    obtain ⟨bound, rfl⟩ : ∃ n, bound = n + 1 := ⟨bound - 1, by omega⟩
    obtain ⟨s₁, hx, hfront, hs₁⟩ := (hstep _).complete_at (a := (false, next.toArray)) hs
      (by rw [hbits, List.append_assoc]) h
    have hback : back.length ≤ bound := by omega
    obtain ⟨s', hrun, hrest⟩ := ih hback hs₁ hfront
    exact ⟨s', by rw [repeatedly_succ, bind_ok hx]; exact hrun, hrest⟩

/-- a loop that is bounded by the number of bits left reads parts up to the last one -/
theorem reads_repeatedly (hstep : ∀ out, Reads (step out) fun place bits r => part place out.toList bits r.1 r.2.toList)
    (hpart : ∀ {place out bits last result}, part place out bits last result → bits ≠ []) (out : Output) :
    Reads (do repeatedly step (← get).size out) fun place bits result =>
      UpToLast part place out.toList bits result.toList where
  sound hs hrun := repeatedly_sound hstep hs hrun
  complete {s place bits rest result} hs hbits h := by
    have hbound : bits.length ≤ s.size := by
      rw [← s.length_bits, hbits, List.length_append]
      exact Nat.le_add_right _ _
    exact repeatedly_complete hstep hpart h hbound hs hbits

end

/-! ## The words of a block -/

theorem isRepeated_zero {distance : Nat} {out result : Bytes} : IsRepeated distance 0 out result ↔ result = out := by
  constructor
  · intro h
    exact (h.continues.eq_of_length h.length_eq.symm).symm
  · rintro rfl
    exact ⟨List.prefix_rfl, rfl, fun i hle hlt => absurd hle (Nat.not_le_of_lt hlt)⟩

/-- the first of the octets repeated is one of the output -/
theorem isRepeated_succ {distance length : Nat} {out result : Bytes} (hpos : 0 < distance) (hreach : distance ≤ out.length) :
    IsRepeated distance (length + 1) out result ↔
      IsRepeated distance length (out ++ [out[out.length - distance]?.getD 0]) result := by
  obtain ⟨b, hb⟩ : ∃ b, out[out.length - distance]? = some b := ⟨_, List.getElem?_eq_getElem (by omega)⟩
  have hfront : ∀ {behind : Bytes}, (out ++ behind)[out.length - distance]? = some b := fun {behind} => by
    rw [List.getElem?_append_left (by omega), hb]
  rw [hb, Option.getD_some]
  constructor
  · rintro ⟨⟨behind, rfl⟩, hlength, hrepeats⟩
    have hnext := hrepeats out.length le_rfl (by omega)
    rw [hfront, List.getElem?_append_right le_rfl, Nat.sub_self] at hnext
    cases behind with
    | nil => cases hnext
    | cons c behind =>
      cases hnext
      refine ⟨⟨behind, by rw [List.append_assoc, List.singleton_append]⟩, ?_, fun i hle => hrepeats i ?_⟩
      · rw [hlength, List.length_append, List.length_singleton]
        omega
      · rw [List.length_append] at hle
        omega
  · rintro ⟨⟨behind, rfl⟩, hlength, hrepeats⟩
    rw [List.append_assoc] at hlength hrepeats ⊢
    have hlonger : (out ++ [b]).length = out.length + 1 := List.length_append
    rw [hlonger] at hlength hrepeats
    refine ⟨⟨_, rfl⟩, by omega, fun i hle hlt => ?_⟩
    rcases Nat.eq_or_lt_of_le hle with rfl | hlt'
    · rw [hfront, List.getElem?_append_right le_rfl, Nat.sub_self]
      rfl
    · exact hrepeats i hlt' hlt

theorem isRepeated_iff {distance : Nat} (length : Nat) {out : Output} {result : Bytes} (hpos : 0 < distance)
    (hreach : distance ≤ out.size) :
    IsRepeated distance length out.toList result ↔ result = (repeated distance length out).toList := by
  induction length generalizing out with
  | zero => exact isRepeated_zero
  | succ length ih =>
    rw [isRepeated_succ hpos (by simpa using hreach), repeated, ← ih (by simp; omega)]
    simp

theorem reads_extended (bases : List (Nat × Nat)) (symbol : Nat) : Reads (extended bases symbol) fun _ bits n =>
    ∃ base, bases[symbol]? = some (base, bits.length) ∧ n = base + lowFirst bits := by
  rw [extended]
  split
  · next hnone => exact (Reads.throw .invalid).congr fun _ _ _ => by simp [hnone]
  · next base extra hbase =>
    refine ((reads_bits extra).map (base + ·)).congr fun _ bits n => ⟨?_, ?_⟩
    · rintro ⟨_, ⟨rfl, rfl⟩, rfl⟩
      exact ⟨base, hbase, rfl⟩
    · rintro ⟨base', hbase', rfl⟩
      rw [hbase] at hbase'
      cases hbase'
      exact ⟨_, ⟨rfl, rfl⟩, rfl⟩

/-- a distance reaches back at least one octet -/
theorem IsRanged.distance_pos {lengths : List Nat} {distance : Nat} (h : IsRanged lengths 0 distanceBases distance bits) :
    0 < distance := by
  obtain ⟨i, base, word, extra, hbase, -, -, rfl⟩ := h
  have hall : ∀ range ∈ distanceBases, 0 < range.1 := by decide
  exact Nat.add_pos_left (hall _ (List.mem_of_getElem? hbase)) _

/-- the distance at the front of a source -/
def distanceStep (distances : PrefixCode) : Take Nat := do extended distanceBases (← distances.symbol)

/-- what a word that repeats octets does -/
def repeatStep (distances : PrefixCode) (i : Nat) (out : Output) : Take Output := do
  let length ← extended lengthBases i
  let distance ← distanceStep distances
  if out.size < distance then throw .invalid
  return repeated distance length out

/-- what a word of a block does: it gives an octet, ends the block, or repeats octets -/
def wordStep (literals distances : PrefixCode) (out : Output) : Take (Bool × Output) := do
  let symbol ← literals.symbol
  if symbol < endOfBlock then return (false, out.push (UInt8.ofNat symbol))
  else if symbol = endOfBlock then return (true, out)
  else return (false, ← repeatStep distances (symbol - 257) out)

theorem words_eq_repeatedly (literals distances : PrefixCode) (bound : Nat) (out : Output) :
    words literals distances bound out = repeatedly (wordStep literals distances) bound out := by
  induction bound generalizing out with
  | zero => rfl
  | succ bound ih =>
    rw [words, repeatedly_succ, wordStep, bind_assoc]
    refine bind_congr fun symbol => ?_
    split_ifs
    · rw [ih]
      rfl
    · rfl
    · simp only [repeatStep, distanceStep, bind_assoc]
      refine bind_congr fun length => bind_congr fun symbol => bind_congr fun distance => ?_
      split_ifs
      · rfl
      · rw [ih]
        rfl

theorem Word.nonempty {literals distances : List Nat} {out result : Bytes} {last : Bool}
    (h : Word literals distances out bits last result) : bits ≠ [] := by
  cases h with
  | done hword => exact hword.nonempty
  | octet b hword => exact hword.nonempty
  | copy hlength _ _ _ =>
    obtain ⟨i, base, word, extra, -, hword, rfl, -⟩ := hlength
    simp [hword.nonempty]

section

variable {literals distances : List Nat} (hliterals : ∀ length ∈ literals, length ≤ maxWordLength)
  (hdistances : ∀ length ∈ distances, length ≤ maxWordLength)

include hdistances

theorem reads_distanceStep : Reads (distanceStep (code distances)) fun _ bits n =>
    IsRanged distances 0 distanceBases n bits := by
  refine ((reads_symbol hdistances).bind (reads_extended distanceBases)).congr fun _ bits n => ⟨?_, ?_⟩
  · rintro ⟨i, word, extra, rfl, hword, base, hbase, rfl⟩
    exact ⟨i, base, word, extra, hbase, by rwa [Nat.zero_add], rfl, rfl⟩
  · rintro ⟨i, base, word, extra, hbase, hword, rfl, rfl⟩
    exact ⟨i, word, extra, rfl, by rwa [Nat.zero_add] at hword, base, hbase, rfl⟩

theorem reads_repeatStep (i : Nat) (out : Output) : Reads (repeatStep (code distances) i out) fun _ bits result =>
    ∃ base extra back distance, bits = extra ++ back ∧ lengthBases[i]? = some (base, extra.length) ∧
      IsRanged distances 0 distanceBases distance back ∧ distance ≤ out.size ∧
      IsRepeated distance (base + lowFirst extra) out.toList result.toList := by
  have hcopy : ∀ length distance, Reads (if out.size < distance then throw .invalid
      else pure (repeated distance length out)) fun _ bits result =>
        ¬ out.size < distance ∧ bits = [] ∧ result = repeated distance length out := fun length distance =>
    Reads.guard .invalid fun _ => Reads.pure _
  refine ((reads_extended lengthBases i).bind fun length =>
    (reads_distanceStep hdistances).bind fun distance => hcopy length distance).congr fun _ bits result => ⟨?_, ?_⟩
  · rintro ⟨_, extra, _, rfl, ⟨base, hbase, rfl⟩, distance, back, _, rfl, hdistance, hreach, rfl, rfl⟩
    have hreach := Nat.le_of_not_lt hreach
    rw [List.append_nil]
    exact ⟨base, extra, back, distance, rfl, hbase, hdistance, hreach,
      (isRepeated_iff _ hdistance.distance_pos hreach).2 rfl⟩
  · rintro ⟨base, extra, back, distance, rfl, hbase, hdistance, hreach, hrepeated⟩
    rw [isRepeated_iff _ hdistance.distance_pos hreach, Array.toList_inj] at hrepeated
    exact ⟨_, extra, back, rfl, ⟨base, hbase, rfl⟩, distance, back, [], by rw [List.append_nil], hdistance,
      Nat.not_lt_of_le hreach, rfl, hrepeated⟩

include hliterals

theorem reads_wordStep (out : Output) : Reads (wordStep (code literals) (code distances) out) fun _ bits r =>
    Word literals distances out.toList bits r.1 r.2.toList := by
  have hrest : ∀ symbol, Reads (if symbol < endOfBlock then pure (false, out.push (UInt8.ofNat symbol))
      else if symbol = endOfBlock then pure (true, out)
      else do return (false, ← repeatStep (code distances) (symbol - 257) out)) fun _ bits r =>
        if symbol < endOfBlock then bits = [] ∧ r = (false, out.push (UInt8.ofNat symbol))
        else if symbol = endOfBlock then bits = [] ∧ r = (true, out)
        else ∃ result, (∃ base extra back distance, bits = extra ++ back ∧
          lengthBases[symbol - 257]? = some (base, extra.length) ∧ IsRanged distances 0 distanceBases distance back ∧
          distance ≤ out.size ∧ IsRepeated distance (base + lowFirst extra) out.toList result.toList) ∧
          r = (false, result) := fun symbol => by
    split_ifs
    · exact Reads.pure _
    · exact Reads.pure _
    · exact (reads_repeatStep hdistances (symbol - 257) out).map fun result => (false, result)
  refine ((reads_symbol hliterals).bind hrest).congr fun _ bits r => ⟨?_, fun h => ?_⟩
  · rintro ⟨symbol, word, back, rfl, hword, h⟩
    split_ifs at h with hoctet hend
    · obtain ⟨rfl, rfl⟩ := h
      rw [List.append_nil, Array.toList_push]
      refine .octet _ ?_
      rwa [UInt8.toNat_ofNat', Nat.mod_eq_of_lt (show symbol < 2 ^ 8 from hoctet)]
    · obtain ⟨rfl, rfl⟩ := h
      rw [List.append_nil]
      exact .done (hend ▸ hword)
    · obtain ⟨result, ⟨base, extra, back, distance, rfl, hbase, hdistance, hreach, hrepeated⟩, rfl⟩ := h
      rw [← List.append_assoc]
      refine .copy ⟨symbol - 257, base, word, extra, hbase, ?_, rfl, rfl⟩ hdistance hreach hrepeated
      rwa [show endOfBlock + 1 + (symbol - 257) = symbol by simp only [endOfBlock] at *; omega]
  · obtain ⟨last, result⟩ := r
    generalize hresult : result.toList = octets at h
    cases h with
    | done hword =>
      refine ⟨endOfBlock, bits, [], by rw [List.append_nil], hword, ?_⟩
      rw [if_neg (lt_irrefl _), if_pos rfl, Array.toList_inj.1 hresult]
      exact ⟨rfl, rfl⟩
    | octet b hword =>
      refine ⟨b.toNat, bits, [], by rw [List.append_nil], hword, ?_⟩
      rw [← Array.toList_push, Array.toList_inj] at hresult
      rw [if_pos (show b.toNat < endOfBlock from b.toNat_lt), hresult, UInt8.ofNat_toNat]
      exact ⟨rfl, rfl⟩
    | copy hlength hdistance hreach hrepeated =>
      obtain ⟨i, base, word, extra, hbase, hword, rfl, rfl⟩ := hlength
      refine ⟨endOfBlock + 1 + i, word, _, List.append_assoc _ _ _, hword, ?_⟩
      rw [if_neg (by omega), if_neg (by omega), show endOfBlock + 1 + i - 257 = i by simp only [endOfBlock]; omega]
      exact ⟨result, ⟨base, extra, _, _, rfl, hbase, hdistance, hreach, by rwa [hresult]⟩, rfl⟩

theorem reads_coded (out : Output) {c d : PrefixCode} (hc : c = code literals) (hd : d = code distances) :
    Reads (coded c d out) fun place bits result => Words literals distances place out.toList bits result.toList := by
  subst hc hd
  have hcoded : coded (code literals) (code distances) out =
      (do repeatedly (wordStep (code literals) (code distances)) (← get).size out) :=
    bind_congr fun s => words_eq_repeatedly _ _ s.size out
  rw [hcoded]
  exact reads_repeatedly (reads_wordStep hliterals hdistances) Word.nonempty out

end

end Unbundle.Flate
