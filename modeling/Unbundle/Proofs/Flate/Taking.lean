import Unbundle.Proofs.Flate.Format
import Unbundle.Proofs.Flate.Stored
/-
Steps that take bits off a source, and the bits that they take.

`Reads x G` says of a step `x` that it takes exactly the bits that `G` describes: if it succeeds the bits taken are such, and
whenever such bits stand at the front of a source it succeeds and takes them, whatever stands behind. `G` is told how many bits
of the stream come before, which matters only for the bits that fill up an octet. Since a step is a function, no two ways to
describe the front of a source differ.

Results:
- `Reads.pure`, `Reads.bind`, `Reads.guard`: the judgment is put together as the steps are.
- `reads_bit`, `reads_bits`, `reads_octets`: bits, numbers and whole octets.
-/
namespace Unbundle.Flate

/-! ## The bits of octets -/

@[simp] theorem length_octetBits (b : UInt8) : (octetBits b).length = 8 := by
  simp [octetBits]

@[simp] theorem bitsOf_nil : bitsOf [] = [] := rfl

theorem bitsOf_cons (b : UInt8) (rest : Bytes) : bitsOf (b :: rest) = octetBits b ++ bitsOf rest := rfl

@[simp] theorem bitsOf_append (front rest : Bytes) : bitsOf (front ++ rest) = bitsOf front ++ bitsOf rest :=
  List.flatMap_append

@[simp] theorem length_bitsOf (octets : Bytes) : (bitsOf octets).length = 8 * octets.length := by
  induction octets with
  | nil => rfl
  | cons b rest ih =>
    rw [bitsOf_cons, List.length_append, length_octetBits, ih, List.length_cons]
    omega

theorem lowFirst_map_testBit (count n : Nat) : lowFirst ((List.range count).map n.testBit) = n % 2 ^ count := by
  induction count generalizing n with
  | zero => simp [lowFirst, Nat.mod_one]
  | succ count ih =>
    have hrest : (List.map (fun i => n.testBit (i + 1)) (List.range count)) = (List.range count).map (n / 2).testBit := by
      refine List.map_congr_left fun i _ => ?_
      rw [Nat.testBit_succ]
    rw [List.range_succ_eq_map, List.map_cons, List.map_map, lowFirst]
    simp only [Function.comp_def, Nat.succ_eq_add_one, hrest, ih]
    rw [Nat.toNat_testBit, pow_zero, Nat.div_one, pow_succ', Nat.mod_mul]

theorem lowFirst_octetBits (b : UInt8) : lowFirst (octetBits b) = b.toNat := by
  rw [octetBits, lowFirst_map_testBit]
  exact Nat.mod_eq_of_lt b.toNat_lt

theorem octetBits_injective : Function.Injective octetBits := fun a b h => by
  rw [← UInt8.toNat_inj, ← lowFirst_octetBits, h, lowFirst_octetBits]

theorem bitsOf_injective : Function.Injective bitsOf := by
  intro front
  induction front with
  | nil =>
    intro rest h
    have hlength := congrArg List.length h
    rw [length_bitsOf, length_bitsOf, List.length_nil] at hlength
    exact (List.eq_nil_of_length_eq_zero (by omega)).symm
  | cons b others ih =>
    intro rest h
    cases rest with
    | nil => simp [bitsOf_cons, octetBits] at h
    | cons c rest =>
      rw [bitsOf_cons, bitsOf_cons] at h
      obtain ⟨hb, hrest⟩ := List.append_inj h (by simp)
      rw [octetBits_injective hb, ih hrest]

/-- bits that begin with those of some octets are those of octets that begin with them -/
theorem eq_append_of_bitsOf_eq {octets front : Bytes} {rest : List Bool} (h : bitsOf octets = bitsOf front ++ rest) :
    ∃ behind, octets = front ++ behind ∧ rest = bitsOf behind := by
  have hsplit : bitsOf (octets.take front.length) ++ bitsOf (octets.drop front.length) = bitsOf front ++ rest := by
    rw [← bitsOf_append, List.take_append_drop, h]
  have hle : front.length ≤ octets.length := by
    have hlength := congrArg List.length h
    simp only [List.length_append, length_bitsOf] at hlength
    omega
  obtain ⟨hfront, hrest⟩ := List.append_inj hsplit (by simp [hle])
  refine ⟨octets.drop front.length, ?_, hrest.symm⟩
  conv_lhs => rw [← List.take_append_drop front.length octets, bitsOf_injective hfront]

theorem drop_octetBits (b : UInt8) {i : Nat} (h : i < 8) :
    (octetBits b).drop i = b.toNat.testBit i :: (octetBits b).drop (i + 1) := by
  rw [List.drop_eq_getElem_cons (by simpa using h)]
  simp [octetBits]

/-! ## Sources -/

/-- the bits that are left in a source -/
def Source.bits (s : Source) : List Bool := (bitsOf s.octets).drop s.used

/-- a source stands behind `place` bits of a stream -/
structure Source.At (s : Source) (place : Nat) : Prop where
  used_eq : s.used = place % 8
  used_of_nil : s.octets = [] → s.used = 0

variable {s s' : Source} {place place' : Nat} {α β : Type}

theorem Source.at_start (octets : Bytes) : Source.At ⟨octets, 0⟩ 0 := ⟨rfl, fun _ => rfl⟩

theorem Source.bits_start (octets : Bytes) : Source.bits ⟨octets, 0⟩ = bitsOf octets := rfl

theorem Source.length_bits (s : Source) : s.bits.length = s.size := by
  rw [bits, size, List.length_drop, length_bitsOf]

theorem Source.At.congr (h : s.At place) (hplace : place % 8 = place' % 8) : s.At place' :=
  ⟨h.used_eq.trans hplace, h.used_of_nil⟩

/-- a source that is not at the start of an octet has an octet that is used in part -/
theorem Source.At.exists_octet (h : s.At place) (hused : s.used ≠ 0) : ∃ b rest, s = ⟨b :: rest, s.used⟩ := by
  obtain ⟨octets, used⟩ := s
  cases octets with
  | nil => exact absurd (h.used_of_nil rfl) hused
  | cons b rest => exact ⟨b, rest, rfl⟩

theorem Source.bits_cons {b : UInt8} {rest : Bytes} {used : Nat} (h : used < 8) :
    Source.bits ⟨b :: rest, used⟩ = (octetBits b).drop used ++ bitsOf rest := by
  rw [bits, bitsOf_cons, List.drop_append_of_le_length (by simpa using h.le)]

/-! ## The judgment -/

/-- a step takes exactly the bits that `G` describes, given the number of bits before them and the result -/
structure Reads (x : Take α) (G : Nat → List Bool → α → Prop) : Prop where
  sound : ∀ {s s' place a}, Source.At s place → x s = .ok (a, s') →
    ∃ bits, s.bits = bits ++ s'.bits ∧ s'.At (place + bits.length) ∧ G place bits a
  complete : ∀ {s place bits rest a}, Source.At s place → s.bits = bits ++ rest → G place bits a →
    ∃ s', x s = .ok (a, s') ∧ s'.bits = rest

/-- a step that succeeds does so after those before it -/
theorem exists_of_bind {x : Take α} {f : α → Take β} {r : β × Source} (h : (x >>= f) s = .ok r) :
    ∃ a s₁, x s = .ok (a, s₁) ∧ f a s₁ = .ok r := by
  rcases hx : x s with e | ⟨a, s₁⟩
  · simp only [Bind.bind, StateT.bind, hx, Except.bind] at h
    cases h
  · exact ⟨a, s₁, rfl, by rwa [bind_ok hx] at h⟩

namespace Reads

variable {x : Take α} {f : α → Take β} {G G' : Nat → List Bool → α → Prop} {H : α → Nat → List Bool → β → Prop}

/-- what is at the front of a source is taken, and the source then stands behind it -/
theorem complete_at (h : Reads x G) {bits rest : List Bool} {a : α} (hs : s.At place) (hbits : s.bits = bits ++ rest)
    (hG : G place bits a) : ∃ s', x s = .ok (a, s') ∧ s'.bits = rest ∧ s'.At (place + bits.length) := by
  obtain ⟨s', hrun, hrest⟩ := h.complete hs hbits hG
  obtain ⟨bits', hbits', hs', -⟩ := h.sound hs hrun
  rw [hbits, hrest] at hbits'
  rw [List.append_cancel_right hbits']
  exact ⟨s', hrun, hrest, hs'⟩

theorem congr (h : Reads x G) (hG : ∀ place bits a, G place bits a ↔ G' place bits a) : Reads x G' where
  sound hs hrun := by
    obtain ⟨bits, hbits, hs', ha⟩ := h.sound hs hrun
    exact ⟨bits, hbits, hs', (hG _ _ _).1 ha⟩
  complete hs hbits ha := h.complete hs hbits ((hG _ _ _).2 ha)

theorem pure (a : α) : Reads (Pure.pure a) fun _ bits a' => bits = [] ∧ a' = a where
  sound hs hrun := by
    cases hrun
    exact ⟨[], rfl, hs, rfl, rfl⟩
  complete hs hbits h := by
    obtain ⟨rfl, rfl⟩ := h
    exact ⟨_, rfl, hbits⟩

theorem throw (e : Fault) : Reads (MonadExcept.throw e : Take α) fun _ _ _ => False where
  sound _ hrun := by cases hrun
  complete _ _ h := h.elim

/-- a step and what is done behind it, when the bits taken by the step are told by something that its result is made of -/
theorem bind_through {γ : Type} {g : γ → α} {K : γ → Nat → List Bool → Prop} {J : γ → Nat → List Bool → β → Prop}
    (h : Reads x fun place bits a => ∃ c, K c place bits ∧ a = g c)
    (hf : ∀ {c place bits}, K c place bits → Reads (f (g c)) (J c)) :
    Reads (x >>= f) fun place bits b =>
      ∃ c front back, bits = front ++ back ∧ K c place front ∧ J c (place + front.length) back b where
  sound {s s' place b} hs hrun := by
    obtain ⟨a, s₁, hx, hrun⟩ := exists_of_bind hrun
    obtain ⟨front, hfront, hs₁, c, hc, rfl⟩ := h.sound hs hx
    obtain ⟨back, hback, hs', hb⟩ := (hf hc).sound hs₁ hrun
    refine ⟨front ++ back, by rw [hfront, hback, List.append_assoc], ?_, c, front, back, rfl, hc, hb⟩
    rwa [List.length_append, ← Nat.add_assoc]
  complete {s place bits rest b} hs hbits hG := by
    obtain ⟨c, front, back, rfl, hc, hb⟩ := hG
    obtain ⟨s₁, hx, hrest, hs₁⟩ := h.complete_at hs (by rw [hbits, List.append_assoc]) ⟨c, hc, rfl⟩
    obtain ⟨s', hrun, hlast⟩ := (hf hc).complete hs₁ hrest hb
    exact ⟨s', by rw [bind_ok hx, hrun], hlast⟩

/-- a step and what is done behind it; that may rely on what the step gives -/
theorem bind_of (h : Reads x G) (hf : ∀ {place bits a}, G place bits a → Reads (f a) (H a)) :
    Reads (x >>= f) fun place bits b =>
      ∃ a front back, bits = front ++ back ∧ G place front a ∧ H a (place + front.length) back b :=
  bind_through (g := id) (K := fun a place bits => G place bits a) (h.congr fun _ _ _ => by simp) hf

theorem bind (h : Reads x G) (hf : ∀ a, Reads (f a) (H a)) :
    Reads (x >>= f) fun place bits b =>
      ∃ a front back, bits = front ++ back ∧ G place front a ∧ H a (place + front.length) back b :=
  h.bind_of fun _ => hf _

theorem map (h : Reads x G) (g : α → β) :
    Reads (do return g (← x)) fun place bits b => ∃ a, G place bits a ∧ b = g a := by
  refine (h.bind fun a => pure (g a)).congr fun place bits b => ⟨?_, ?_⟩
  · rintro ⟨a, front, back, rfl, ha, rfl, rfl⟩
    exact ⟨a, by rwa [List.append_nil], rfl⟩
  · rintro ⟨a, ha, rfl⟩
    exact ⟨a, bits, [], by rw [List.append_nil], ha, rfl, rfl⟩

/-- a step after a check -/
theorem guard {c : Prop} [Decidable c] (e : Fault) (h : ¬ c → Reads x G) :
    Reads (if c then MonadExcept.throw e else x) fun place bits a => ¬ c ∧ G place bits a := by
  split_ifs with hc
  · exact (throw e).congr fun _ _ _ => by simp [hc]
  · exact (h hc).congr fun _ _ _ => by simp [hc]

end Reads

/-! ## Bits and numbers -/

theorem reads_bit : Reads Take.bit fun _ bits n => ∃ b : Bool, bits = [b] ∧ n = b.toNat := by
  -- one step of a source with an octet at its front
  have hstep : ∀ {b : UInt8} {rest : Bytes} {used place : Nat}, Source.At ⟨b :: rest, used⟩ place →
      ∃ s', Take.bit ⟨b :: rest, used⟩ = .ok ((b.toNat.testBit used).toNat, s') ∧
        Source.bits ⟨b :: rest, used⟩ = b.toNat.testBit used :: s'.bits ∧ s'.At (place + 1) := by
    intro b rest used place hs
    have hused : used = place % 8 := hs.used_eq
    have hlt : used < 8 := by omega
    have hvalue : (b.toNat >>> used) % 2 = (b.toNat.testBit used).toNat := by
      rw [Nat.toNat_testBit, Nat.shiftRight_eq_div_pow]
    rw [Take.bit, Source.bits_cons hlt, drop_octetBits b hlt]
    dsimp only
    rw [hvalue]
    by_cases hinner : used < 7
    · refine ⟨⟨b :: rest, used + 1⟩, by simp [hinner], ?_, by simp; omega, by simp⟩
      rw [Source.bits_cons (by omega), List.cons_append]
    · obtain rfl : used = 7 := by omega
      refine ⟨⟨rest, 0⟩, by simp, ?_, by simp; omega, by simp⟩
      simp [Source.bits, octetBits]
  constructor
  · rintro ⟨octets, used⟩ s' place n hs hrun
    cases octets with
    | nil => cases hrun
    | cons b rest =>
      obtain ⟨s₁, hbit, hbits, hs₁⟩ := hstep hs
      rw [hbit] at hrun
      cases hrun
      exact ⟨[_], hbits, hs₁, _, rfl, rfl⟩
  · rintro ⟨octets, used⟩ place bits rest n hs hbits ⟨b, rfl, rfl⟩
    cases octets with
    | nil => simp [Source.bits] at hbits
    | cons c others =>
      obtain ⟨s₁, hbit, hfront, -⟩ := hstep hs
      rw [hfront, List.singleton_append, List.cons.injEq] at hbits
      obtain ⟨rfl, hrest⟩ := hbits
      exact ⟨s₁, hbit, hrest⟩

theorem reads_bits (count : Nat) :
    Reads (Take.bits count) fun _ bits n => bits.length = count ∧ n = lowFirst bits := by
  induction count with
  | zero =>
    refine (Reads.pure 0).congr fun _ bits n => ⟨?_, ?_⟩
    · rintro ⟨rfl, rfl⟩
      exact ⟨rfl, rfl⟩
    · rintro ⟨hlength, rfl⟩
      rw [List.length_eq_zero_iff.1 hlength]
      exact ⟨rfl, rfl⟩
  | succ count ih =>
    refine (reads_bit.bind fun low => ih.map (low + 2 * ·)).congr fun _ bits n => ⟨?_, ?_⟩
    · rintro ⟨_, _, back, rfl, ⟨b, rfl, rfl⟩, _, ⟨rfl, rfl⟩, rfl⟩
      exact ⟨by simp, rfl⟩
    · rintro ⟨hlength, rfl⟩
      obtain ⟨b, back, rfl⟩ := List.exists_cons_of_length_eq_add_one hlength
      refine ⟨_, [b], back, rfl, ⟨b, rfl, rfl⟩, _, ⟨?_, rfl⟩, rfl⟩
      simpa using hlength

/-! ## Whole octets -/

theorem octets_start (count : Nat) (octets : Bytes) : Take.octets count ⟨octets, 0⟩ =
    if count ≤ octets.length then .ok (octets.take count, ⟨octets.drop count, 0⟩) else .error .truncated := by
  by_cases h : count ≤ octets.length
  · have happend := octets_append (octets.take count) (octets.drop count)
    rw [List.take_append_drop, List.length_take_of_le h] at happend
    rw [happend, if_pos h]
  · simp only [Take.octets, Take.align, bind, StateT.bind, modify, modifyGet, MonadStateOf.modifyGet, StateT.modifyGet,
      get, getThe, MonadStateOf.get, StateT.get, pure, Except.pure, Except.bind, if_true, Bytes.split?, h, if_false]
    rfl

/-- the bits that fill up the octet in which a source stands, and the source behind them -/
theorem Source.At.exists_padding (h : s.At place) : ∃ pad behind, s.bits = pad ++ bitsOf behind ∧ IsPadding place pad ∧
    ∀ count, Take.octets count s = Take.octets count ⟨behind, 0⟩ := by
  have hused := h.used_eq
  by_cases hzero : s.used = 0
  · refine ⟨[], s.octets, by rw [bits, hzero]; rfl, ⟨by simp, by simp; omega⟩, fun count => ?_⟩
    rw [← hzero]
  · obtain ⟨b, rest, hs⟩ := h.exists_octet hzero
    rw [hs]
    refine ⟨(octetBits b).drop s.used, rest, bits_cons (by omega), ⟨by simp; omega, ?_⟩, fun count => ?_⟩
    · rw [List.length_drop, length_octetBits]
      omega
    · exact octets_cons count s.used hzero b rest

theorem reads_octets (count : Nat) : Reads (Take.octets count) fun place bits octets =>
    ∃ pad, IsPadding place pad ∧ bits = pad ++ bitsOf octets ∧ octets.length = count := by
  constructor
  · intro s s' place octets hs hrun
    obtain ⟨pad, behind, hbits, hpad, heq⟩ := hs.exists_padding
    rw [heq, octets_start] at hrun
    split_ifs at hrun with hle
    cases hrun
    refine ⟨pad ++ bitsOf (behind.take count), ?_, ⟨?_, fun _ => rfl⟩, pad, hpad, rfl, by simpa using hle⟩
    · rw [hbits, Source.bits_start, List.append_assoc, ← bitsOf_append, List.take_append_drop]
    · obtain ⟨-, hplace⟩ := hpad
      rw [List.length_append, length_bitsOf]
      dsimp only
      omega
  · rintro s place bits rest octets hs hbits ⟨pad, ⟨hlt, hplace⟩, rfl, rfl⟩
    obtain ⟨pad', behind, hbits', ⟨hlt', hplace'⟩, heq⟩ := hs.exists_padding
    -- both fill up the same octet
    have hpads : pad' ++ bitsOf behind = pad ++ (bitsOf octets ++ rest) := by rw [← hbits', hbits, List.append_assoc]
    obtain ⟨-, hbehind⟩ := List.append_inj hpads (by omega)
    obtain ⟨last, rfl, rfl⟩ := eq_append_of_bitsOf_eq hbehind
    rw [heq, octets_append]
    exact ⟨⟨last, 0⟩, rfl, rfl⟩

end Unbundle.Flate
