import Unbundle.Proofs.Signature.Spelling
/-
The readers that types and method signatures are read with, each against what it reads.

`Takes x octets references value` says that the reader `x` gives the value from these octets, whatever stands behind them, and
stops right behind them. `Passes x octets` says that whatever `x` passes is the octets of something. A reader put together
from others has both properties from theirs, by `Takes.bind` and by taking its run apart.

Results:
- `takes_number`, `takes_integer`, `takes_typeReference`: numbers in any of the three widths are taken as they were written.
- `takes_sentinels`, `takes_modifier`: separators and custom modifiers in front make no difference.
- `passes_number`, `passes_integer`, `passes_typeReference`, `passes_modifiers`, `passes_sentinels`: nothing else is passed.
-/
namespace Unbundle.Signature

open Reader

variable {α β : Type}

/-! ## Readers that take their octets and no more -/

theorem bind_of_ok {x : Reader α} {f : α → Reader β} {a : α} {c c' : Cursor} (h : x c = .ok a c') :
    (x >>= f) c = f a c' := by
  change EStateM.bind x f c = f a c'
  rw [EStateM.bind, h]

theorem exists_of_bind_ok {x : Reader α} {f : α → Reader β} {b : β} {c c' : Cursor} (h : (x >>= f) c = .ok b c') :
    ∃ a d, x c = .ok a d ∧ f a d = .ok b c' := by
  change EStateM.bind x f c = .ok b c' at h
  rw [EStateM.bind] at h
  split at h
  · next a d hx => exact ⟨a, d, hx, h⟩
  · cases h

theorem eq_of_pure_ok {a b : α} {c c' : Cursor} (h : (pure a : Reader α) c = .ok b c') : a = b ∧ c = c' := by
  cases h
  exact ⟨rfl, rfl⟩

theorem rest_of_byte {b : UInt8} {c c' : Cursor} (h : byte c = .ok b c') : c.rest = b :: c'.rest := by
  obtain ⟨rest, position, met⟩ := c
  cases rest with
  | nil => cases h
  | cons b' rest =>
    cases h
    rfl

/-- whatever stands behind the octets, the reader passes them and no more, gives the value and has met the references -/
def Reader.Takes (reader : Reader α) (octets : Bytes) (references : List CodedType) (value : α) : Prop :=
  ∀ rest position met, reader ⟨octets ++ rest, position, met⟩ =
    .ok value ⟨rest, position + octets.length, references.reverse ++ met⟩

/-- whatever the reader passes, it is the octets of something -/
def Reader.Passes {ι : Type} (reader : Reader α) (octets : ι → Bytes) : Prop :=
  ∀ c a c', reader c = .ok a c' → ∃ i, c.rest = octets i ++ c'.rest

namespace Reader.Takes

variable {x : Reader α} {a : α} {octets octets' : Bytes} {references references' : List CodedType}

theorem pure (a : α) : Takes (pure a) [] [] a := fun _ _ _ => rfl

theorem bind {f : α → Reader β} {b : β} (hx : Takes x octets references a) (hf : Takes (f a) octets' references' b) :
    Takes (x >>= f) (octets ++ octets') (references ++ references') b := by
  intro rest position met
  rw [List.append_assoc, bind_of_ok (hx _ _ _), hf, List.length_append, List.reverse_append, List.append_assoc,
    Nat.add_assoc]

theorem map (f : α → β) (hx : Takes x octets references a) :
    Takes (x >>= fun a => Pure.pure (f a)) octets references (f a) := by
  have h := hx.bind (f := fun a => Pure.pure (f a)) (pure (f a))
  rwa [List.append_nil, List.append_nil] at h

/-- run as often as there are things to read, a reader takes them all -/
theorem many {ι : Type} {item : Reader α} {octets : ι → Bytes} {references : ι → List CodedType} {value : ι → α}
    {items : List ι} (h : ∀ i ∈ items, Takes item (octets i) (references i) (value i)) :
    Takes (Reader.many item items.length) (items.flatMap octets) (items.flatMap references) (items.map value) := by
  induction items with
  | nil => exact pure []
  | cons i items ih =>
    have hitems := ih fun j hj => h j (List.mem_cons_of_mem i hj)
    exact (h i List.mem_cons_self).bind (hitems.map (value i :: ·))

end Reader.Takes

/-- run often, a reader passes the octets of as many things -/
theorem Reader.Passes.many {ι : Type} {item : Reader α} {octets : ι → Bytes} (h : Passes item octets) (count : Nat) :
    Passes (Reader.many item count) fun items : Fin count → ι =>
      (List.finRange count).flatMap fun i => octets (items i) := by
  induction count with
  | zero =>
    intro c l c' hl
    obtain ⟨-, rfl⟩ := eq_of_pure_ok hl
    exact ⟨Fin.elim0, rfl⟩
  | succ count ih =>
    intro c l c' hl
    obtain ⟨a, c1, ha, hl⟩ := exists_of_bind_ok hl
    obtain ⟨l', c2, hl', hl⟩ := exists_of_bind_ok hl
    obtain ⟨-, rfl⟩ := eq_of_pure_ok hl
    obtain ⟨first, hfirst⟩ := h c a c1 ha
    obtain ⟨items, hitems⟩ := ih c1 l' c2 hl'
    refine ⟨Fin.cons first items, ?_⟩
    dsimp only at hitems ⊢
    rw [hfirst, hitems, List.finRange_succ, List.flatMap_cons, List.flatMap_map, List.append_assoc]
    rfl

theorem takes_byte (b : UInt8) : Takes byte [b] [] b := fun _ _ _ => rfl

/-! ## Numbers -/

theorem toNat_octet {n : Nat} (h : n < 256) : (UInt8.ofNat n).toNat = n := UInt8.toNat_ofNat_of_lt' h

section

variable {lead b1 b2 b3 : UInt8} {rest : Bytes} {position : Nat} {met : List CodedType}

theorem packed_one (h : lead.toNat < 128) :
    packed ⟨lead :: rest, position, met⟩ = .ok (lead.toNat, 7) ⟨rest, position + 1, met⟩ := by
  have hone : lead < 0x80 := UInt8.lt_iff_toNat_lt.2 h
  simp only [packed, bind, EStateM.bind, byte, hone, if_true, pure, EStateM.pure]

theorem packed_two (hlow : 128 ≤ lead.toNat) (hhigh : lead.toNat < 192) :
    packed ⟨lead :: b1 :: rest, position, met⟩ =
      .ok (256 * (lead.toNat % 64) + b1.toNat, 14) ⟨rest, position + 2, met⟩ := by
  have hone : ¬ lead < 0x80 := fun h => Nat.not_lt.2 hlow (UInt8.lt_iff_toNat_lt.1 h)
  have htwo : lead < 0xC0 := UInt8.lt_iff_toNat_lt.2 hhigh
  simp only [packed, bind, EStateM.bind, byte, hone, htwo, if_true, if_false, pure, EStateM.pure]

theorem packed_four (hlow : 192 ≤ lead.toNat) (hhigh : lead.toNat < 224) :
    packed ⟨lead :: b1 :: b2 :: b3 :: rest, position, met⟩ =
      .ok (16777216 * (lead.toNat % 32) + 65536 * b1.toNat + 256 * b2.toNat + b3.toNat, 29)
        ⟨rest, position + 4, met⟩ := by
  have htwo : ¬ lead < 0xC0 := fun h => Nat.not_lt.2 hlow (UInt8.lt_iff_toNat_lt.1 h)
  have hone : ¬ lead < 0x80 := fun h => Nat.not_lt.2 (Nat.le_trans (by decide) hlow) (UInt8.lt_iff_toNat_lt.1 h)
  have hfour : lead < 0xE0 := UInt8.lt_iff_toNat_lt.2 hhigh
  simp only [packed, bind, EStateM.bind, byte, hone, htwo, hfour, if_true, if_false, pure, EStateM.pure]

end

theorem takes_packed (n : Packed) : Takes packed n.octets [] (n.value, n.width.bits) := by
  obtain ⟨width, value, fits⟩ := n
  intro rest position met
  cases width with
  | one =>
    have hlt : value < 128 := fits
    have hlead := toNat_octet (n := value) (by omega)
    have h : packed ⟨UInt8.ofNat value :: rest, position, met⟩ = _ := packed_one (by omega)
    rwa [hlead] at h
  | two =>
    have hlt : value < 16384 := fits
    have hlead := toNat_octet (n := 0x80 + value / 256) (by omega)
    have hlow := toNat_octet (n := value % 256) (by omega)
    have h : packed ⟨UInt8.ofNat (0x80 + value / 256) :: UInt8.ofNat (value % 256) :: rest, position, met⟩ = _ :=
      packed_two (by omega) (by omega)
    have hvalue : 256 * ((0x80 + value / 256) % 64) + value % 256 = value := by omega
    rwa [hlead, hlow, hvalue] at h
  | four =>
    have hlt : value < 536870912 := fits
    have hlead := toNat_octet (n := 0xC0 + value / 16777216) (by omega)
    have h1 := toNat_octet (n := value / 65536 % 256) (by omega)
    have h2 := toNat_octet (n := value / 256 % 256) (by omega)
    have h3 := toNat_octet (n := value % 256) (by omega)
    have h : packed ⟨UInt8.ofNat (0xC0 + value / 16777216) :: UInt8.ofNat (value / 65536 % 256) ::
      UInt8.ofNat (value / 256 % 256) :: UInt8.ofNat (value % 256) :: rest, position, met⟩ = _ :=
      packed_four (by omega) (by omega)
    have hvalue : 16777216 * ((0xC0 + value / 16777216) % 32) + 65536 * (value / 65536 % 256) +
        256 * (value / 256 % 256) + value % 256 = value := by omega
    rwa [hlead, h1, h2, h3, hvalue] at h

theorem takes_number (n : Packed) : Takes number n.octets [] n.value := (takes_packed n).map Prod.fst

/-- moving the sign back gives the integer -/
theorem turned_back (z : SignedPacked) :
    (if z.turned % 2 = 1 then ((z.turned / 2 : Nat) : Int) - (1 <<< (z.width.bits - 1) : Nat) else (z.turned / 2 : Nat)) =
      z.value := by
  have hfits := z.fits
  have hhalf : 1 <<< (z.width.bits - 1) = z.width.half := Nat.one_shiftLeft _
  rw [hhalf]
  unfold SignedPacked.turned
  split_ifs <;> omega

theorem takes_integer (z : SignedPacked) : Takes integer z.number.octets [] z.value := by
  have h := (takes_packed z.number).map fun p =>
    if p.1 % 2 = 1 then ((p.1 / 2 : Nat) : Int) - (1 <<< (p.2 - 1) : Nat) else (p.1 / 2 : Nat)
  rw [← turned_back z]
  exact h

/-! ## References -/

theorem ofNat_toNat_target (t : PackedType) : CodedType.ofNat t.target.toNat = t.target := by
  obtain ⟨width, ⟨tag, row⟩, htag, fits⟩ := t
  simp only [CodedType.ofNat, CodedType.toNat, CodedType.mk.injEq] at htag ⊢
  omega

theorem takes_typeReference (t : PackedType) : Takes typeReference t.number.octets [t.target] t.target := by
  let note (n : Nat) : Reader CodedType := do
    modify fun c => { c with met := CodedType.ofNat n :: c.met }
    return CodedType.ofNat n
  have hnote : Takes (note t.number.value) [] [CodedType.ofNat t.target.toNat] (CodedType.ofNat t.target.toNat) :=
    fun _ _ _ => rfl
  have h := (takes_number t.number).bind (f := note) hnote
  rwa [ofNat_toNat_target, List.append_nil] at h

/-- reading as many things as were counted, none of which is a reference -/
theorem takes_many_counted {item : Reader β} {octets : α → Bytes} {value : α → β}
    (h : ∀ x, Takes item (octets x) [] (value x)) (l : Counted α) :
    Takes (many item l.count.value) (l.items.flatMap octets) [] (l.items.map value) := by
  have hmany : Takes (many item l.items.length) (l.items.flatMap octets) (l.items.flatMap fun _ => []) _ :=
    Takes.many fun x _ => h x
  rwa [List.flatMap_eq_nil_iff.2 fun _ _ => rfl] at hmany

/-- a number that was read stands at the front in the width that was read -/
theorem packed_sound {c c' : Cursor} {value bits : Nat} (h : packed c = .ok (value, bits) c') :
    ∃ n : Packed, c.rest = n.octets ++ c'.rest ∧ n.value = value ∧ n.width.bits = bits := by
  obtain ⟨lead, c0, hlead, h⟩ := exists_of_bind_ok h
  rw [rest_of_byte hlead]
  split_ifs at h with hone htwo hfour
  · cases h
    have hlt : lead.toNat < 128 := UInt8.lt_iff_toNat_lt.1 hone
    exact ⟨⟨.one, lead.toNat, hlt⟩, by simp [Packed.octets], rfl, rfl⟩
  · obtain ⟨b1, c1, h1, h⟩ := exists_of_bind_ok h
    cases h
    have hlow : 128 ≤ lead.toNat := Nat.not_lt.1 fun hlt => hone (UInt8.lt_iff_toNat_lt.2 hlt)
    have hhigh : lead.toNat < 192 := UInt8.lt_iff_toNat_lt.1 htwo
    have hb1 := b1.toNat_lt
    refine ⟨⟨.two, 256 * (lead.toNat % 64) + b1.toNat, show _ < 16384 by omega⟩, ?_, rfl, rfl⟩
    have h0 : 0x80 + (256 * (lead.toNat % 64) + b1.toNat) / 256 = lead.toNat := by omega
    have h1' : (256 * (lead.toNat % 64) + b1.toNat) % 256 = b1.toNat := by omega
    simp only [Packed.octets, h0, h1', UInt8.ofNat_toNat, rest_of_byte h1, List.cons_append, List.nil_append]
  · obtain ⟨b1, c1, h1, h⟩ := exists_of_bind_ok h
    obtain ⟨b2, c2, h2, h⟩ := exists_of_bind_ok h
    obtain ⟨b3, c3, h3, h⟩ := exists_of_bind_ok h
    cases h
    have hlow : 192 ≤ lead.toNat := Nat.not_lt.1 fun hlt => htwo (UInt8.lt_iff_toNat_lt.2 hlt)
    have hhigh : lead.toNat < 224 := UInt8.lt_iff_toNat_lt.1 hfour
    have hb1 := b1.toNat_lt
    have hb2 := b2.toNat_lt
    have hb3 := b3.toNat_lt
    let value := 16777216 * (lead.toNat % 32) + 65536 * b1.toNat + 256 * b2.toNat + b3.toNat
    refine ⟨⟨.four, value, show value < 536870912 by omega⟩, ?_, rfl, rfl⟩
    have h0 : 0xC0 + value / 16777216 = lead.toNat := by omega
    have h1' : value / 65536 % 256 = b1.toNat := by omega
    have h2' : value / 256 % 256 = b2.toNat := by omega
    have h3' : value % 256 = b3.toNat := by omega
    simp only [Packed.octets, h0, h1', h2', h3', UInt8.ofNat_toNat, rest_of_byte h1, rest_of_byte h2, rest_of_byte h3,
      List.cons_append, List.nil_append]
  · cases h

theorem number_sound {c c' : Cursor} {value : Nat} (h : number c = .ok value c') :
    ∃ n : Packed, c.rest = n.octets ++ c'.rest ∧ n.value = value := by
  obtain ⟨⟨v, bits⟩, c1, hpacked, h⟩ := exists_of_bind_ok h
  obtain ⟨rfl, rfl⟩ := eq_of_pure_ok h
  obtain ⟨n, hrest, hvalue, -⟩ := packed_sound hpacked
  exact ⟨n, hrest, hvalue⟩

theorem passes_number : Passes number Packed.octets := fun _ _ _ h => (number_sound h).imp fun _ hn => hn.1

theorem passes_typeReference : Passes typeReference fun t : PackedType => t.number.octets := by
  intro c target c' h
  obtain ⟨value, c1, hvalue, h⟩ := exists_of_bind_ok h
  cases h
  obtain ⟨n, hrest, rfl⟩ := number_sound hvalue
  have hback : (CodedType.ofNat n.value).toNat = n.value := by
    simp only [CodedType.ofNat, CodedType.toNat]
    omega
  refine ⟨⟨n.width, CodedType.ofNat n.value, Nat.mod_lt _ (by decide), hback.symm ▸ n.fits⟩, ?_⟩
  simp only [PackedType.number, hback]
  exact hrest

theorem passes_integer : Passes integer fun z : SignedPacked => z.number.octets := by
  intro c value c' h
  obtain ⟨⟨raw, bits⟩, c1, hpacked, h⟩ := exists_of_bind_ok h
  obtain ⟨-, rfl⟩ := eq_of_pure_ok h
  obtain ⟨n, hrest, -, -⟩ := packed_sound hpacked
  have hfits := n.fits
  have htwice := n.width.two_pow_bits
  let z : SignedPacked :=
    ⟨n.width, if n.value % 2 = 1 then ((n.value / 2 : Nat) : Int) - n.width.half else (n.value / 2 : Nat), by
      split_ifs <;> omega⟩
  have hturned : z.turned = n.value := by
    simp only [SignedPacked.turned, z]
    split_ifs <;> omega
  refine ⟨z, ?_⟩
  simp only [SignedPacked.number, hturned]
  exact hrest

/-! ## What stands in front of types -/

section

variable {b : UInt8} {rest : Bytes} {position : Nat} {met : List CodedType}

theorem modifiersWithin_nil (bound : Nat) : modifiersWithin bound ⟨[], position, met⟩ = .ok () ⟨[], position, met⟩ := by
  cases bound <;> rfl

theorem modifiersWithin_cons_of_not (bound : Nat) (h : isModifier b = false) :
    modifiersWithin bound ⟨b :: rest, position, met⟩ = .ok () ⟨b :: rest, position, met⟩ := by
  cases bound with
  | zero => rfl
  | succ bound =>
    simp [modifiersWithin, bind, EStateM.bind, get, getThe, MonadStateOf.get, EStateM.get, pure, EStateM.pure, h]

theorem modifiersWithin_cons (bound : Nat) (h : isModifier b = true) :
    modifiersWithin (bound + 1) ⟨b :: rest, position, met⟩ =
      (do let _ ← number; modifiersWithin bound : Reader Unit) ⟨rest, position + 1, met⟩ := by
  simp [modifiersWithin, bind, EStateM.bind, get, getThe, MonadStateOf.get, EStateM.get, h, byte]

/-- any two bounds do that are not below the number of octets -/
theorem modifiersWithin_congr {c : Cursor} {bound bound' : Nat} (h : c.rest.length ≤ bound) (h' : c.rest.length ≤ bound') :
    modifiersWithin bound c = modifiersWithin bound' c := by
  induction bound generalizing bound' c with
  | zero =>
    obtain ⟨rest, position, met⟩ := c
    obtain rfl : rest = [] := List.length_eq_zero_iff.1 (Nat.le_zero.1 h)
    rw [modifiersWithin_nil, modifiersWithin_nil]
  | succ bound ih =>
    obtain ⟨_ | ⟨b, rest⟩, position, met⟩ := c
    · rw [modifiersWithin_nil, modifiersWithin_nil]
    cases hb : isModifier b with
    | false => rw [modifiersWithin_cons_of_not _ hb, modifiersWithin_cons_of_not _ hb]
    | true =>
      obtain ⟨bound', rfl⟩ : ∃ n, bound' = n + 1 := ⟨bound' - 1, by simp at h'; omega⟩
      rw [modifiersWithin_cons _ hb, modifiersWithin_cons _ hb]
      cases hn : number ⟨rest, position + 1, met⟩ with
      | error e c => simp only [bind, EStateM.bind, hn]
      | ok n c =>
        obtain ⟨n, hrest, -⟩ := number_sound hn
        have hshorter : c.rest.length ≤ rest.length := by
          have := congrArg List.length hrest
          rw [List.length_append] at this
          simp only at this
          omega
        rw [bind_of_ok hn, bind_of_ok hn]
        simp only [List.length_cons] at h h'
        exact ih (by omega) (by omega)

theorem modifiers_of_not_modifier (h : isModifier b = false) :
    modifiers ⟨b :: rest, position, met⟩ = .ok () ⟨b :: rest, position, met⟩ := modifiersWithin_cons_of_not _ h

theorem modifiers_modifier (x : Modifier) :
    modifiers ⟨x.octets ++ rest, position, met⟩ = modifiers ⟨rest, position + x.octets.length, met⟩ := by
  obtain ⟨required, n⟩ := x
  have hcode : isModifier (if required then 0x1F else 0x20) = true := by cases required <;> rfl
  simp only [modifiers, Modifier.octets, List.cons_append, List.length_cons]
  rw [modifiersWithin_cons _ hcode, bind_of_ok (takes_number n _ _ _), Nat.add_assoc, Nat.add_comm 1]
  refine modifiersWithin_congr ?_ (Nat.le_refl _)
  rw [List.length_append]
  exact Nat.le_add_left _ _

theorem sentinels_replicate (count : Nat) (h : b ≠ sentinel) :
    sentinels ⟨List.replicate count sentinel ++ b :: rest, position, met⟩ = .ok () ⟨b :: rest, position + count, met⟩ := by
  have hcount : ((List.replicate count sentinel ++ b :: rest).takeWhile (· = sentinel)).length = count := by
    rw [List.takeWhile_append_of_pos (by simp), List.takeWhile_cons_of_neg (by simpa using h), List.append_nil,
      List.length_replicate]
  have hrun : sentinels ⟨List.replicate count sentinel ++ b :: rest, position, met⟩ =
      .ok () ⟨(List.replicate count sentinel ++ b :: rest).drop
        ((List.replicate count sentinel ++ b :: rest).takeWhile (· = sentinel)).length,
        position + ((List.replicate count sentinel ++ b :: rest).takeWhile (· = sentinel)).length, met⟩ := rfl
  rw [hrun, hcount, List.drop_left' (List.length_replicate ..)]

end

section

variable {x : Reader α} {b : UInt8} {octets : Bytes} {references : List CodedType} {a : α}

/-- separators in front of what a reader takes -/
theorem takes_sentinels (count : Nat) (hb : b ≠ sentinel) (h : Takes x (b :: octets) references a) :
    Takes (do sentinels; x) (List.replicate count sentinel ++ b :: octets) references a := by
  intro rest position met
  rw [List.append_assoc, List.cons_append, bind_of_ok (sentinels_replicate count hb), ← List.cons_append, h,
    List.length_append, List.length_replicate, Nat.add_assoc]

theorem takes_modifiers (hb : isModifier b = false) (h : Takes x (b :: octets) references a) :
    Takes (do modifiers; x) (b :: octets) references a := by
  intro rest position met
  rw [List.cons_append, bind_of_ok (modifiers_of_not_modifier hb), ← List.cons_append, h]

/-- a custom modifier in front of what a reader takes -/
theorem takes_modifier (m : Modifier) (h : Takes (do modifiers; x) octets references a) :
    Takes (do modifiers; x) (m.octets ++ octets) references a := by
  intro rest position met
  have hskip : (do modifiers; x) ⟨m.octets ++ (octets ++ rest), position, met⟩ =
      (do modifiers; x) ⟨octets ++ rest, position + m.octets.length, met⟩ := by
    simp only [bind, EStateM.bind, modifiers_modifier]
  rw [List.append_assoc, hskip, h, List.length_append, Nat.add_assoc]

end

theorem passes_modifiersWithin (bound : Nat) :
    Passes (modifiersWithin bound) fun l : List Modifier => l.flatMap Modifier.octets := by
  induction bound with
  | zero =>
    intro c u c' h
    obtain ⟨-, rfl⟩ := eq_of_pure_ok h
    exact ⟨[], rfl⟩
  | succ bound ih =>
    rintro ⟨_ | ⟨b, rest⟩, position, met⟩ u c' h
    · rw [modifiersWithin_nil] at h
      cases h
      exact ⟨[], rfl⟩
    cases hb : isModifier b with
    | false =>
      rw [modifiersWithin_cons_of_not _ hb] at h
      cases h
      exact ⟨[], rfl⟩
    | true =>
      rw [modifiersWithin_cons _ hb] at h
      obtain ⟨value, c1, hvalue, h⟩ := exists_of_bind_ok h
      obtain ⟨n, hn⟩ := passes_number _ _ _ hvalue
      obtain ⟨l, hl⟩ := ih _ _ _ h
      have hcode : (if b = 0x1F then 0x1F else 0x20) = b := by
        rw [isModifier, Bool.or_eq_true, decide_eq_true_iff, decide_eq_true_iff] at hb
        rcases hb with rfl | rfl <;> rfl
      refine ⟨⟨b = 0x1F, n⟩ :: l, ?_⟩
      simp only at hn
      simp only [List.flatMap_cons, Modifier.octets, decide_eq_true_eq, hcode, hn, hl, List.cons_append, List.append_assoc]

theorem passes_modifiers : Passes modifiers fun l : List Modifier => l.flatMap Modifier.octets :=
  fun c u c' h => passes_modifiersWithin c.rest.length c u c' h

theorem passes_sentinels : Passes sentinels fun count => List.replicate count sentinel := by
  rintro ⟨rest, position, met⟩ u c' h
  cases h
  refine ⟨(rest.takeWhile (· = sentinel)).length, ?_⟩
  have hfront : List.replicate (rest.takeWhile (· = sentinel)).length sentinel = rest.takeWhile (· = sentinel) :=
    (List.eq_replicate_of_mem fun b hb => by simpa using List.mem_takeWhile_imp hb).symm
  simp only [hfront]
  exact List.prefix_append_drop (List.takeWhile_prefix _)

end Unbundle.Signature
