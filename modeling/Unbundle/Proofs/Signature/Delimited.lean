import Unbundle.Proofs.Signature.RoundTrip
/-
Signatures delimit themselves.

No signature says how long it is, and a blob may hold anything. A reader still stops at one place only: the octets up to there
are needed, all of them, and the octets behind it play no part, so that the same value comes of any blob with the same front
and none of a blob that is cut short. A reader that fails has not left its blob either.

`Advances x` says of a reader, whatever comes of it, that its cursor only moves on over octets that are there; a reader put
together from others has the property from theirs. `Delimits x` says the whole of the above. What a reader does on success
follows from what it takes and passes: were the same octets read from a blob that is cut short, they would be read from the
whole blob too, and the reader would stop at two places.

Results:
- `Advances.bind`, `Advances.many`, `advances_type`, `advances_method`: no reader leaves its blob.
- `Delimits.of_takes`: a reader that takes what it passes, one octet at least, delimits what it reads.
- `delimits_readers`: the readers of numbers, of references, of types and of method signatures do.
-/
namespace Unbundle.Signature

open Reader

variable {α β : Type}

/-! ## Where a cursor goes -/

/-- the second cursor stands in the same blob as the first, at the same place or further on -/
def Cursor.LeadsTo (c c' : Cursor) : Prop :=
  ∃ passed, c.rest = passed ++ c'.rest ∧ c'.position = c.position + passed.length

theorem Cursor.LeadsTo.refl (c : Cursor) : c.LeadsTo c := ⟨[], rfl, rfl⟩

theorem Cursor.LeadsTo.trans {c d e : Cursor} (h : c.LeadsTo d) (h' : d.LeadsTo e) : c.LeadsTo e := by
  obtain ⟨first, hrest, hposition⟩ := h
  obtain ⟨second, hrest', hposition'⟩ := h'
  refine ⟨first ++ second, ?_, ?_⟩
  · rw [hrest, hrest', List.append_assoc]
  · rw [hposition', hposition, List.length_append, Nat.add_assoc]

namespace Reader

/-- the cursor at the end of a reading, whether that gives a value or fails -/
def cursorAfter (x : Reader α) (c : Cursor) : Cursor :=
  match x c with
  | .ok _ c' => c'
  | .error _ c' => c'

/-- the reader moves its cursor on over octets that are there, or not at all -/
def Advances (x : Reader α) : Prop := ∀ c : Cursor, c.LeadsTo (cursorAfter x c)

namespace Advances

variable {x : Reader α} {f : α → Reader β}

theorem pure (a : α) : Advances (Pure.pure a : Reader α) := fun c => .refl c

theorem fail (e : ReadError) : Advances (Reader.fail e : Reader α) := fun c => .refl c

theorem bind (hx : Advances x) (hf : ∀ a, Advances (f a)) : Advances (x >>= f) := by
  intro c
  have hfirst := hx c
  cases h : x c with
  | ok a d =>
    have hafter : cursorAfter (x >>= f) c = cursorAfter (f a) d := by
      rw [cursorAfter, bind_of_ok h]
      rfl
    rw [cursorAfter, h] at hfirst
    rw [hafter]
    exact hfirst.trans (hf a d)
  | error e d =>
    have hafter : cursorAfter (x >>= f) c = d := by
      simp only [cursorAfter, Bind.bind, EStateM.bind, h]
    rw [cursorAfter, h] at hfirst
    rwa [hafter]

theorem map (hx : Advances x) (g : α → β) : Advances (x >>= fun a => Pure.pure (g a)) := hx.bind fun a => .pure (g a)

theorem many (hx : Advances x) (count : Nat) : Advances (Reader.many x count) := by
  induction count with
  | zero => exact .pure []
  | succ count ih => exact hx.bind fun a => ih.map (a :: ·)

end Advances

end Reader

/-! ## The readers -/

theorem advances_byte : Advances byte := by
  rintro ⟨rest, position, met⟩
  cases rest with
  | nil => exact .refl _
  | cons b rest => exact ⟨[b], rfl, rfl⟩

theorem advances_packed : Advances packed := by
  refine advances_byte.bind fun b0 => ?_
  split_ifs
  · exact .pure _
  · exact advances_byte.map _
  · exact advances_byte.bind fun b1 => advances_byte.bind fun b2 => advances_byte.map _
  · exact .fail _

theorem advances_number : Advances number := advances_packed.map Prod.fst

theorem advances_integer : Advances integer := advances_packed.bind fun _ => .pure _

theorem advances_typeReference : Advances typeReference := by
  refine advances_number.bind fun n => ?_
  intro c
  exact ⟨[], rfl, rfl⟩

theorem advances_modifiersWithin (bound : Nat) : Advances (modifiersWithin bound) := by
  induction bound with
  | zero => exact .pure ()
  | succ bound ih =>
    rintro ⟨_ | ⟨b, rest⟩, position, met⟩
    · rw [cursorAfter, modifiersWithin_nil]
      exact .refl _
    cases hb : isModifier b with
    | false =>
      rw [cursorAfter, modifiersWithin_cons_of_not _ hb]
      exact .refl _
    | true =>
      have hcode : Cursor.LeadsTo ⟨b :: rest, position, met⟩ ⟨rest, position + 1, met⟩ := ⟨[b], rfl, rfl⟩
      have hback : Advances (do let _ ← number; modifiersWithin bound) := advances_number.bind fun _ => ih
      rw [cursorAfter, modifiersWithin_cons _ hb]
      exact hcode.trans (hback _)

theorem advances_modifiers : Advances modifiers := fun c => advances_modifiersWithin c.rest.length c

theorem advances_sentinels : Advances sentinels := by
  rintro ⟨rest, position, met⟩
  refine ⟨rest.takeWhile (· = sentinel), ?_, rfl⟩
  exact List.prefix_append_drop (List.takeWhile_prefix _)

section

variable {item : Reader Form} (hitem : Advances item)

include hitem

theorem advances_methodOf : Advances (methodOf item) := by
  have hparameter : Advances (do sentinels; item) := advances_sentinels.bind fun _ => hitem
  have hback (genericCount : Nat) (convention : UInt8) : Advances (do
      let count ← number
      let returns ← item
      let parameters ← many (do sentinels; item) count
      return { returns, parameters, hasThis := convention.toNat / 32 % 2 = 1, genericCount } : Reader MethodForm) :=
    advances_number.bind fun count => hitem.bind fun _ => (hparameter.many count).map _
  refine advances_byte.bind fun convention => ?_
  dsimp only
  split_ifs
  · exact advances_number.bind fun genericCount => hback genericCount convention
  · exact hback 0 convention

theorem advances_elementOf (element : UInt8) : Advances (elementOf item element) := by
  unfold elementOf
  split
  · exact hitem.map _
  · exact hitem.map _
  · exact advances_typeReference.map _
  · exact advances_typeReference.map _
  · exact advances_number.map _
  · exact hitem.bind fun inner => advances_number.bind fun rank => advances_number.bind fun sizes =>
      (advances_number.many sizes).bind fun _ => advances_number.bind fun bounds => (advances_integer.many bounds).map _
  · refine advances_byte.bind fun kind => ?_
    have hback : Advances (do
        let target ← typeReference
        let count ← number
        return Form.generic target (← many item count)) :=
      advances_typeReference.bind fun target => advances_number.bind fun count => (hitem.many count).map _
    dsimp only
    split_ifs
    · exact (Advances.fail _).bind fun _ => hback
    · exact hback
  · exact (advances_methodOf hitem).map _
  · exact hitem.map _
  · exact advances_number.map _
  · exact hitem
  · exact .fail _

end

theorem advances_typeWithin (depth : Nat) : Advances (typeWithin depth) := by
  induction depth with
  | zero => exact .fail _
  | succ depth ih =>
    refine advances_modifiers.bind fun _ => advances_byte.bind fun element => ?_
    cases coreName? element with
    | some name => exact .pure _
    | none => exact advances_elementOf ih element

theorem advances_type : Advances type := fun c => advances_typeWithin c.rest.length c

theorem advances_method : Advances method := advances_methodOf advances_type

/-! ## The place where a reader stops -/

/-- From any place of any blob, one of two things happens. The reader stops at a place further on in the blob: it gives the same
value, having met the same references, for any blob with the same octets up to that place, and fails if one of them is cut
off. Or it fails at a place of the blob. -/
def Reader.Delimits (x : Reader α) : Prop :=
  ∀ (blob : Bytes) (start : Nat) (met : List CodedType), start ≤ blob.length →
    (∃ a stop met', start < stop ∧ stop ≤ blob.length ∧
      (∀ other : Bytes, other.take stop = blob.take stop →
        x ⟨other.drop start, start, met⟩ = .ok a ⟨other.drop stop, stop, met'⟩) ∧
      ∀ cut < stop, ∃ e c, x ⟨(blob.take cut).drop start, start, met⟩ = .error e c) ∨
    ∃ e stop met', start ≤ stop ∧ stop ≤ blob.length ∧
      x ⟨blob.drop start, start, met⟩ = .error e ⟨blob.drop stop, stop, met'⟩

namespace Reader.Delimits

theorem map {x : Reader α} (h : Delimits x) (f : α → β) : Delimits (x >>= fun a => Pure.pure (f a)) := by
  intro blob start met hstart
  rcases h blob start met hstart with ⟨a, stop, met', hlt, hle, hsame, hcut⟩ | ⟨e, stop, met', hlt, hle, hfails⟩
  · refine .inl ⟨f a, stop, met', hlt, hle, fun other hother => ?_, fun cut hless => ?_⟩
    · rw [bind_of_ok (hsame other hother)]
      rfl
    · obtain ⟨e, c, he⟩ := hcut cut hless
      exact ⟨e, c, by simp only [Bind.bind, EStateM.bind, he]⟩
  · exact .inr ⟨e, stop, met', hlt, hle, by simp only [Bind.bind, EStateM.bind, hfails]⟩

section

variable {ι : Type} {x : Reader α} {octets : ι → Bytes} {references : ι → List CodedType} {value : ι → α}

/-- what is taken from a place of a blob is taken from the same place of any blob with the same front -/
theorem of_same_front (htakes : ∀ i, Takes x (octets i) (references i) (value i)) {i : ι} {blob other rest : Bytes}
    {start : Nat} (hi : blob.drop start = octets i ++ rest)
    (hother : other.take (start + (octets i).length) = blob.take (start + (octets i).length)) (met : List CodedType) :
    x ⟨other.drop start, start, met⟩ =
      .ok (value i) ⟨other.drop (start + (octets i).length), start + (octets i).length, (references i).reverse ++ met⟩ := by
  have hfront : other.drop start = octets i ++ other.drop (start + (octets i).length) := by
    have htaken : (other.drop start).take (octets i).length = octets i := by
      rw [List.take_drop, hother, ← List.take_drop, hi, List.take_left]
    rw [← List.drop_drop]
    conv_lhs => rw [← List.take_append_drop (octets i).length (other.drop start), htaken]
  rw [hfront]
  exact htakes i _ _ _

/-- a reader delimits what it reads if it takes what it passes, one octet at least, and stays in its blob -/
theorem of_takes (htakes : ∀ i, Takes x (octets i) (references i) (value i)) (hpasses : Passes x octets)
    (hnonempty : ∀ i, octets i ≠ []) (hadvances : Advances x) : Delimits x := by
  intro blob start met hstart
  have hleads := hadvances ⟨blob.drop start, start, met⟩
  cases hread : x ⟨blob.drop start, start, met⟩ with
  | error e c =>
    rw [cursorAfter, hread] at hleads
    obtain ⟨rest, position, met'⟩ := c
    obtain ⟨passed, hrest, hposition⟩ := hleads
    simp only at hrest hposition
    subst hposition
    have hlength := congrArg List.length hrest
    rw [List.length_drop, List.length_append] at hlength
    refine .inr ⟨e, start + passed.length, met', Nat.le_add_right _ _, by omega, ?_⟩
    rw [← List.drop_drop, hrest, List.drop_left]
  | ok a c =>
    obtain ⟨i, hi⟩ := hpasses _ _ _ hread
    simp only at hi
    have hlength := congrArg List.length hi
    rw [List.length_drop, List.length_append] at hlength
    have hpositive : 0 < (octets i).length := List.length_pos_iff.2 (hnonempty i)
    refine .inl ⟨value i, start + (octets i).length, (references i).reverse ++ met, by omega, by omega,
      fun other hother => of_same_front htakes hi hother met, fun cut hcut => ?_⟩
    cases hshort : x ⟨(blob.take cut).drop start, start, met⟩ with
    | error e c => exact ⟨e, c, rfl⟩
    | ok b d =>
      -- what is read from the cut blob is read from the whole one too, and the reader stops at two places
      exfalso
      obtain ⟨j, hj⟩ := hpasses _ _ _ hshort
      simp only at hj
      have hwithin := congrArg List.length hj
      rw [List.length_drop, List.length_append, List.length_take] at hwithin
      have hpositive' : 0 < (octets j).length := List.length_pos_iff.2 (hnonempty j)
      have hfirst := of_same_front htakes hi rfl met
      have hagain : blob.take (start + (octets j).length) = (blob.take cut).take (start + (octets j).length) := by
        rw [List.take_take, Nat.min_eq_left (by omega)]
      have hsecond := of_same_front htakes hj hagain met
      rw [hfirst] at hsecond
      have hposition := congrArg Cursor.position (EStateM.Result.ok.inj hsecond).2
      simp only at hposition
      omega

end

end Reader.Delimits

/-! ## Signatures -/

theorem Packed.octets_ne_nil (n : Packed) : n.octets ≠ [] := by
  obtain ⟨width, value, fits⟩ := n
  cases width <;> exact List.cons_ne_nil _ _

theorem Spelling.octets_ne_nil (s : Spelling) : s.octets ≠ [] := by
  obtain ⟨b, octets, hoctets, -⟩ := s.octets_eq_cons
  rw [hoctets]
  exact List.cons_ne_nil b octets

theorem delimits_type : Delimits type := .of_takes takes_type passes_type Spelling.octets_ne_nil advances_type

theorem delimits_method : Delimits method :=
  .of_takes takes_method (passes_methodOf passes_type) (fun _ => List.cons_ne_nil _ _) advances_method

/-- **Signatures delimit themselves.** This holds of unsigned and signed numbers, of references, and of types and method
signatures with their references looked up, whatever the references stand for. -/
theorem delimits_readers (answer : CodedType → Option TypeSig) :
    Delimits number ∧ Delimits integer ∧
    Delimits (do
      let target ← typeReference
      return (answer target).getD target.unresolved) ∧
    Delimits (do return (← type).resolve answer) ∧
    Delimits (do
      let m ← method
      return (m.returns.resolve answer, m.parameters.map (·.resolve answer), m.hasThis, m.genericCount)) := by
  refine ⟨?_, ?_, ?_, delimits_type.map _, delimits_method.map _⟩
  · exact .of_takes takes_number passes_number Packed.octets_ne_nil advances_number
  · exact .of_takes takes_integer passes_integer (fun z => z.number.octets_ne_nil) advances_integer
  · have hreference : Delimits typeReference :=
      .of_takes takes_typeReference passes_typeReference (fun t => t.number.octets_ne_nil) advances_typeReference
    exact hreference.map fun target => (answer target).getD target.unresolved

end Unbundle.Signature
