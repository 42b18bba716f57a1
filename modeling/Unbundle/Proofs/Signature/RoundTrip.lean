import Unbundle.Proofs.Signature.Reading
/-
Reading types and method signatures is inverse to writing them.

Results:
- `takes_type`, `takes_method`: every spelling is read from its octets, by induction on the type. The depth that bounds the
  reader is never reached, since every level of a type costs an octet.
- `passes_type`, `passes_methodOf`: whatever is read is the octets of a spelling, by induction on the depth.
- `read_inverse_octets`: both together, with the references looked up.
-/
namespace Unbundle.Signature

open Reader

/-! ## Types -/

section

variable {depth : Nat} {element : UInt8} {octets : Bytes} {references : List CodedType} {form : Form}

theorem isModifier_of_coreName? {name : String} (h : coreName? element = some name) : isModifier element = false := by
  by_contra hmodifier
  rw [Bool.not_eq_false, isModifier, Bool.or_eq_true, decide_eq_true_iff, decide_eq_true_iff] at hmodifier
  rcases hmodifier with rfl | rfl <;> cases h

theorem takes_core {name : String} (hdepth : [element].length ≤ depth) (hcore : coreName? element = some name) :
    Takes (typeWithin depth) [element] [] (.core name) := by
  cases depth with
  | zero => simp at hdepth
  | succ depth =>
    refine takes_modifiers (isModifier_of_coreName? hcore) ((takes_byte element).bind ?_)
    simp only [hcore]
    exact .pure _

/-- an element code costs a level of the depth and an octet, so that the depth is enough for what is behind the code -/
theorem takes_element (hdepth : (element :: octets).length ≤ depth) (hmodifier : isModifier element = false)
    (hcore : coreName? element = none)
    (h : ∀ depth', octets.length ≤ depth' → Takes (elementOf (typeWithin depth') element) octets references form) :
    Takes (typeWithin depth) (element :: octets) references form := by
  cases depth with
  | zero => simp at hdepth
  | succ depth =>
    refine takes_modifiers hmodifier ((takes_byte element).bind ?_)
    simp only [hcore]
    exact h depth (Nat.le_of_succ_le_succ hdepth)

theorem takes_modified (m : Modifier) (h : Takes (typeWithin depth) octets references form) :
    Takes (typeWithin depth) (m.octets ++ octets) references form := by
  cases depth with
  | zero => exact absurd (h [] 0 []) nofun
  | succ depth => exact takes_modifier m h

end

/-- what a reader of types has to do for the reader of method signatures -/
theorem takes_methodOf {item : Reader Form} (h : MethodHead) {returns : Bytes} {gaps : Fin h.count.value → Nat}
    {parameters : Fin h.count.value → Bytes} {references : List CodedType}
    {references' : Fin h.count.value → List CodedType} {form : Form} {forms : Fin h.count.value → Form}
    (hreturns : Takes item returns references form)
    (hlead : ∀ i, ∃ b octets, parameters i = b :: octets ∧ b ≠ sentinel)
    (hparameters : ∀ i, Takes item (parameters i) (references' i) (forms i)) :
    Takes (methodOf item) (h.octetsWith returns gaps parameters)
      (references ++ (List.finRange h.count.value).flatMap references')
      { returns := form, parameters := (List.finRange h.count.value).map forms, hasThis := h.hasThis,
        genericCount := if h.isGeneric then h.genericCount.value else 0 } := by
  have hgaps : ∀ i ∈ List.finRange h.count.value,
      Takes (do sentinels; item) (List.replicate (gaps i) sentinel ++ parameters i) (references' i) (forms i) := by
    intro i _
    obtain ⟨b, octets, hoctets, hb⟩ := hlead i
    have hi := hparameters i
    rw [hoctets] at hi ⊢
    exact takes_sentinels (gaps i) hb hi
  have hmany := Takes.many hgaps
  rw [List.length_finRange] at hmany
  have hoctets : h.octetsWith returns gaps parameters =
      [h.convention] ++ ((if h.isGeneric then h.genericCount.octets else []) ++ (h.count.octets ++ (returns ++
        (List.finRange h.count.value).flatMap fun i => List.replicate (gaps i) sentinel ++ parameters i))) := by
    simp [MethodHead.octetsWith, MethodHead.octets]
  rw [hoctets]
  refine (takes_byte h.convention).bind ?_
  by_cases hbit : h.convention.toNat / 16 % 2 = 1
  · simp only [MethodHead.isGeneric, hbit, if_true, decide_true]
    exact (takes_number h.genericCount).bind ((takes_number h.count).bind (hreturns.bind (hmany.map _)))
  · simp only [MethodHead.isGeneric, hbit, if_false, decide_false, Bool.false_eq_true]
    exact (Takes.pure 0).bind ((takes_number h.count).bind (hreturns.bind (hmany.map _)))

/-- a type does not start with a separator -/
theorem Spelling.octets_eq_cons (s : Spelling) : ∃ b octets, s.octets = b :: octets ∧ b ≠ sentinel := by
  cases s with
  | core element name known =>
    refine ⟨element, [], rfl, ?_⟩
    rintro rfl
    cases known
  | reference kind target => exact ⟨_, _, rfl, by cases kind <;> decide⟩
  | derived mark inner => exact ⟨_, _, rfl, by cases mark <;> decide⟩
  | array inner shape => exact ⟨_, _, rfl, by decide⟩
  | param number ofMethod => exact ⟨_, _, rfl, by cases ofMethod <;> decide⟩
  | generic kind target count arguments => exact ⟨_, _, rfl, by decide⟩
  | function head returns gaps parameters => exact ⟨_, _, rfl, by decide⟩
  | pinned inner => exact ⟨_, _, rfl, by decide⟩
  | modified modifier inner =>
    obtain ⟨required, number⟩ := modifier
    refine ⟨if required then 0x1F else 0x20, _, rfl, ?_⟩
    cases required <;> decide

/-- what follows the element type of an array -/
def Reader.shape (inner : Form) : Reader Form := do
  let rank ← number
  let sizes ← number
  let _ ← many number sizes
  let bounds ← number
  let _ ← many integer bounds
  return .derived inner (TypeSig.arraySuffix rank)

theorem takes_shape (a : ArrayShape) (inner : Form) :
    Takes (shape inner) a.octets [] (.derived inner (TypeSig.arraySuffix a.rank.value)) :=
  (takes_number a.rank).bind <| (takes_number a.sizes.count).bind <| (takes_many_counted takes_number a.sizes).bind <|
    (takes_number a.lower.count).bind <| (takes_many_counted takes_integer a.lower).map _

theorem length_le_flatMap {ι : Type} {items : List ι} {i : ι} (hi : i ∈ items) (f : ι → Bytes) :
    (f i).length ≤ (items.flatMap f).length := by
  rw [List.length_flatMap]
  exact List.le_sum_of_mem (List.mem_map_of_mem hi)

/-- a depth is enough that is not below the number of octets -/
theorem takes_typeWithin (s : Spelling) {depth : Nat} (h : s.octets.length ≤ depth) :
    Takes (typeWithin depth) s.octets s.references s.form := by
  induction s generalizing depth with
  | core element name known => exact takes_core h known
  | reference kind target =>
    have hread := (takes_typeReference target).map Form.reference
    cases kind with
    | valueType => exact takes_element h rfl rfl fun _ _ => hread
    | classType => exact takes_element h rfl rfl fun _ _ => hread
  | derived mark inner ih =>
    cases mark with
    | pointer => exact takes_element h rfl rfl fun _ hd => (ih hd).map _
    | byReference => exact takes_element h rfl rfl fun _ hd => (ih hd).map _
    | vector => exact takes_element h rfl rfl fun _ hd => (ih hd).map _
  | array inner shape ih =>
    refine takes_element h rfl rfl fun depth' hd => ?_
    rw [List.length_append] at hd
    have hread : Takes (elementOf (typeWithin depth') 0x14) (inner.octets ++ shape.octets) (inner.references ++ []) _ :=
      (ih (Nat.le_of_add_right_le hd)).bind (takes_shape shape inner.form)
    rwa [List.append_nil] at hread
  | param number ofMethod =>
    have hread := (takes_number number).map fun n => Form.param n ofMethod
    cases ofMethod with
    | false => exact takes_element h rfl rfl fun _ _ => hread
    | true => exact takes_element h rfl rfl fun _ _ => hread
  | generic kind target count arguments ih =>
    refine takes_element h rfl rfl fun depth' hd => ?_
    have hbound (i : Fin count.value) : (arguments i).octets.length ≤ depth' := by
      have hle := length_le_flatMap (List.mem_finRange i) fun i => (arguments i).octets
      simp only [List.length_cons, List.length_append] at hd
      omega
    have hmany := Takes.many fun i (_ : i ∈ List.finRange count.value) => ih i (hbound i)
    rw [List.length_finRange] at hmany
    have hback : Takes (do
        let target ← typeReference
        let count ← number
        return Form.generic target (← many (typeWithin depth') count))
        (target.number.octets ++ (count.octets ++ (List.finRange count.value).flatMap fun i => (arguments i).octets))
        _ (.generic target.target ((List.finRange count.value).map fun i => (arguments i).form)) :=
      (takes_typeReference target).bind ((takes_number count).bind (hmany.map _))
    cases kind with
    | valueType => exact (takes_byte 0x11).bind hback
    | classType => exact (takes_byte 0x12).bind hback
  | function head returns gaps parameters ihReturns ihParameters =>
    refine takes_element h rfl rfl fun depth' hd => ?_
    have hbound (i : Fin head.count.value) : (parameters i).octets.length ≤ depth' := by
      have hle := length_le_flatMap (List.mem_finRange i) fun i => List.replicate (gaps i) sentinel ++ (parameters i).octets
      simp only [MethodHead.octetsWith, List.length_append] at hd hle
      omega
    have hreturns : returns.octets.length ≤ depth' := by
      simp only [MethodHead.octetsWith, List.length_append] at hd
      omega
    exact (takes_methodOf head (ihReturns hreturns) (fun i => (parameters i).octets_eq_cons)
      fun i => ihParameters i (hbound i)).map _
  | pinned inner ih => exact takes_element h rfl rfl fun _ hd => ih hd
  | modified modifier inner ih =>
    rw [Spelling.octets, List.length_append] at h
    exact takes_modified modifier (ih (Nat.le_of_add_left_le h))

theorem takes_type (s : Spelling) : Takes type s.octets s.references s.form := by
  intro rest position met
  refine takes_typeWithin s ?_ rest position met
  rw [List.length_append]
  exact Nat.le_add_right _ _

theorem takes_method (x : MethodSpelling) : Takes method x.octets x.references x.form :=
  takes_methodOf x.head (takes_type x.returns) (fun i => (x.parameters i).octets_eq_cons) fun i => takes_type (x.parameters i)

/-! ## Nothing else is read -/

theorem passes_shape (inner : Form) : Passes (shape inner) ArrayShape.octets := by
  intro c t c' h
  obtain ⟨rank, c1, hrank, h⟩ := exists_of_bind_ok h
  obtain ⟨sizes, c2, hsizes, h⟩ := exists_of_bind_ok h
  obtain ⟨_, c3, hmany, h⟩ := exists_of_bind_ok h
  obtain ⟨bounds, c4, hbounds, h⟩ := exists_of_bind_ok h
  obtain ⟨_, c5, hmany', h⟩ := exists_of_bind_ok h
  obtain ⟨-, rfl⟩ := eq_of_pure_ok h
  obtain ⟨r, hr⟩ := passes_number _ _ _ hrank
  obtain ⟨n, hn, rfl⟩ := number_sound hsizes
  obtain ⟨k, hk, rfl⟩ := number_sound hbounds
  obtain ⟨f, hf⟩ := passes_number.many n.value _ _ _ hmany
  obtain ⟨g, hg⟩ := passes_integer.many k.value _ _ _ hmany'
  have hsizesFit : ((List.finRange n.value).map f).length < 2 ^ n.width.bits := by
    rw [List.length_map, List.length_finRange]
    exact n.fits
  have hlowerFit : ((List.finRange k.value).map g).length < 2 ^ k.width.bits := by
    rw [List.length_map, List.length_finRange]
    exact k.fits
  refine ⟨⟨r, ⟨n.width, _, hsizesFit⟩, ⟨k.width, _, hlowerFit⟩⟩, ?_⟩
  rw [hr, hn, hf, hk, hg]
  simp [ArrayShape.octets, Counted.count, List.flatMap_map]

theorem passes_methodOf {item : Reader Form} (hitem : Passes item Spelling.octets) :
    Passes (methodOf item) MethodSpelling.octets := by
  intro c m c' h
  obtain ⟨convention, c1, hconvention, h⟩ := exists_of_bind_ok h
  -- whether there is a generic count or not, the same is read behind it
  have hgeneric : ∃ (g : Packed) (c2 : Cursor), c1.rest = (if convention.toNat / 16 % 2 = 1 then g.octets else []) ++ c2.rest ∧
      ∃ genericCount, (do
        let count ← number
        let returns ← item
        let parameters ← many (do sentinels; item) count
        return { returns, parameters, hasThis := convention.toNat / 32 % 2 = 1, genericCount } : Reader MethodForm) c2 =
          .ok m c' := by
    dsimp only at h
    split_ifs at h with hbit
    · obtain ⟨genericCount, c2, hcount, h⟩ := exists_of_bind_ok h
      obtain ⟨g, hg⟩ := passes_number _ _ _ hcount
      exact ⟨g, c2, by rw [if_pos hbit, hg], genericCount, h⟩
    · exact ⟨⟨.one, 0, by decide⟩, c1, by rw [if_neg hbit, List.nil_append], 0, h⟩
  obtain ⟨g, c2, hg, genericCount, h⟩ := hgeneric
  obtain ⟨count, c3, hcount, h⟩ := exists_of_bind_ok h
  obtain ⟨returns, c4, hreturns, h⟩ := exists_of_bind_ok h
  obtain ⟨parameters, c5, hparameters, h⟩ := exists_of_bind_ok h
  obtain ⟨-, rfl⟩ := eq_of_pure_ok h
  have hgapped : Passes (do sentinels; item) fun p : Nat × Spelling => List.replicate p.1 sentinel ++ p.2.octets := by
    intro c t c' h
    obtain ⟨_, d, hsentinels, h⟩ := exists_of_bind_ok h
    obtain ⟨gap, hgap⟩ := passes_sentinels _ _ _ hsentinels
    obtain ⟨s, hs⟩ := hitem _ _ _ h
    exact ⟨(gap, s), by rw [hgap, hs, List.append_assoc]⟩
  obtain ⟨k, hk, rfl⟩ := number_sound hcount
  obtain ⟨s, hs⟩ := hitem _ _ _ hreturns
  obtain ⟨items, hitems⟩ := hgapped.many k.value _ _ _ hparameters
  refine ⟨⟨⟨convention, g, k⟩, s, fun i => (items i).1, fun i => (items i).2⟩, ?_⟩
  rw [rest_of_byte hconvention, hg, hk, hs, hitems]
  simp [MethodSpelling.octets, MethodHead.octetsWith, MethodHead.octets, MethodHead.isGeneric]

/-- modifiers put back in front of a type -/
theorem exists_modified (l : List Modifier) (s : Spelling) :
    ∃ s' : Spelling, s'.octets = l.flatMap Modifier.octets ++ s.octets := by
  induction l with
  | nil => exact ⟨s, rfl⟩
  | cons m l ih =>
    obtain ⟨s', hs'⟩ := ih
    exact ⟨.modified m s', by rw [Spelling.octets, hs', List.flatMap_cons, List.append_assoc]⟩

section

variable {item : Reader Form} {c c' : Cursor} {t : Form}

/-- what follows the code of a generic type is a type known by reference and its arguments -/
theorem generic_sound (hitem : Passes item Spelling.octets) (h : elementOf item 0x15 c = .ok t c') :
    ∃ s : Spelling, 0x15 :: c.rest = s.octets ++ c'.rest := by
  obtain ⟨code, c1, hcode, h⟩ := exists_of_bind_ok h
  dsimp only at h
  split_ifs at h with hbad
  · cases h
  have hkind : ∃ kind : ReferenceKind, code = kind.code := by
    by_contra hno
    exact hbad ⟨fun heq => hno ⟨.valueType, heq⟩, fun heq => hno ⟨.classType, heq⟩⟩
  obtain ⟨kind, rfl⟩ := hkind
  obtain ⟨target, c2, htarget, h⟩ := exists_of_bind_ok h
  obtain ⟨count, c3, hcount, h⟩ := exists_of_bind_ok h
  obtain ⟨arguments, c4, harguments, h⟩ := exists_of_bind_ok h
  obtain ⟨-, rfl⟩ := eq_of_pure_ok h
  obtain ⟨r, hr⟩ := passes_typeReference _ _ _ htarget
  obtain ⟨n, hn, rfl⟩ := number_sound hcount
  obtain ⟨items, hitems⟩ := hitem.many n.value _ _ _ harguments
  refine ⟨.generic kind r n items, ?_⟩
  rw [rest_of_byte hcode, hr, hn, hitems]
  simp [Spelling.octets]

theorem elementOf_sound (hitem : Passes item Spelling.octets) {element : UInt8} (h : elementOf item element c = .ok t c') :
    ∃ s : Spelling, element :: c.rest = s.octets ++ c'.rest := by
  have marked (mark : Mark) (h : (do return Form.derived (← item) mark.suffix : Reader Form) c = .ok t c') :
      ∃ s : Spelling, mark.code :: c.rest = s.octets ++ c'.rest := by
    obtain ⟨inner, c1, hinner, h⟩ := exists_of_bind_ok h
    obtain ⟨-, rfl⟩ := eq_of_pure_ok h
    obtain ⟨s, hs⟩ := hitem _ _ _ hinner
    exact ⟨.derived mark s, by rw [hs]; rfl⟩
  have referred (kind : ReferenceKind) (h : (do return Form.reference (← typeReference) : Reader Form) c = .ok t c') :
      ∃ s : Spelling, kind.code :: c.rest = s.octets ++ c'.rest := by
    obtain ⟨target, c1, htarget, h⟩ := exists_of_bind_ok h
    obtain ⟨-, rfl⟩ := eq_of_pure_ok h
    obtain ⟨r, hr⟩ := passes_typeReference _ _ _ htarget
    exact ⟨.reference kind r, by rw [hr]; rfl⟩
  have numbered (ofMethod : Bool) (h : (do return Form.param (← number) ofMethod : Reader Form) c = .ok t c') :
      ∃ s : Spelling, (if ofMethod then 0x1E else 0x13) :: c.rest = s.octets ++ c'.rest := by
    obtain ⟨value, c1, hvalue, h⟩ := exists_of_bind_ok h
    obtain ⟨-, rfl⟩ := eq_of_pure_ok h
    obtain ⟨n, hn⟩ := passes_number _ _ _ hvalue
    exact ⟨.param n ofMethod, by rw [hn]; rfl⟩
  unfold elementOf at h
  split at h
  · exact marked .pointer h
  · exact marked .byReference h
  · exact referred .valueType h
  · exact referred .classType h
  · exact numbered false h
  · obtain ⟨inner, c1, hinner, h⟩ := exists_of_bind_ok h
    obtain ⟨s, hs⟩ := hitem _ _ _ hinner
    obtain ⟨a, ha⟩ := passes_shape inner _ _ _ h
    exact ⟨.array s a, by rw [hs, ha, Spelling.octets, List.cons_append, List.append_assoc]⟩
  · exact generic_sound hitem h
  · obtain ⟨m, c1, hm, h⟩ := exists_of_bind_ok h
    obtain ⟨-, rfl⟩ := eq_of_pure_ok h
    obtain ⟨x, hx⟩ := passes_methodOf hitem _ _ _ hm
    exact ⟨.function x.head x.returns x.gaps x.parameters, by rw [hx]; rfl⟩
  · exact marked .vector h
  · exact numbered true h
  · obtain ⟨s, hs⟩ := hitem _ _ _ h
    exact ⟨.pinned s, by rw [hs]; rfl⟩
  · cases h

end

theorem passes_typeWithin (depth : Nat) : Passes (typeWithin depth) Spelling.octets := by
  induction depth with
  | zero =>
    intro c t c' h
    cases h
  | succ depth ih =>
    intro c t c' h
    obtain ⟨_, c1, hmodifiers, h⟩ := exists_of_bind_ok h
    obtain ⟨element, c2, helement, h⟩ := exists_of_bind_ok h
    obtain ⟨l, hl⟩ := passes_modifiers _ _ _ hmodifiers
    have hback : ∃ s : Spelling, element :: c2.rest = s.octets ++ c'.rest := by
      cases hcore : coreName? element with
      | some name =>
        simp only [hcore] at h
        obtain ⟨-, rfl⟩ := eq_of_pure_ok h
        exact ⟨.core element name hcore, rfl⟩
      | none =>
        simp only [hcore] at h
        exact elementOf_sound ih h
    obtain ⟨s, hs⟩ := hback
    obtain ⟨s', hs'⟩ := exists_modified l s
    exact ⟨s', by rw [hs', hl, rest_of_byte helement, hs, List.append_assoc]⟩

theorem passes_type : Passes type Spelling.octets := fun c t c' h => passes_typeWithin c.rest.length c t c' h

/-- a reader that takes what it passes gives what it takes -/
theorem eq_of_takes {ι α : Type} {x : Reader α} {octets : ι → Bytes} {references : ι → List CodedType} {value : ι → α}
    (htakes : ∀ i, Takes x (octets i) (references i) (value i)) (hpasses : Passes x octets) {c c' : Cursor} {a : α}
    (h : x c = .ok a c') : ∃ i, c.rest = octets i ++ c'.rest ∧ a = value i := by
  obtain ⟨i, hi⟩ := hpasses c a c' h
  obtain ⟨rest, position, met⟩ := c
  refine ⟨i, hi, ?_⟩
  simp only at hi
  rw [hi, htakes i] at h
  exact (EStateM.Result.ok.inj h).1.symm

/-- reading undoes writing, and nothing else is read; references are looked up in `answer` -/
structure InverseToWriting (answer : CodedType → Option TypeSig) : Prop where
  /-- a type is read from its octets, whatever stands behind them, and the reader stops right behind the octets -/
  type_octets : ∀ (s : Spelling) (rest : Bytes) (position : Nat) (met : List CodedType), ∃ t,
    type ⟨s.octets ++ rest, position, met⟩ =
      .ok t ⟨rest, position + s.octets.length, s.references.reverse ++ met⟩ ∧ t.resolve answer = s.type answer
  /-- so is a method signature, with its return type, its parameters and what its first octet tells -/
  method_octets : ∀ (x : MethodSpelling) (rest : Bytes) (position : Nat) (met : List CodedType), ∃ m,
    method ⟨x.octets ++ rest, position, met⟩ =
      .ok m ⟨rest, position + x.octets.length, x.references.reverse ++ met⟩ ∧
    m.returns.resolve answer = x.returns.type answer ∧
    m.parameters.map (·.resolve answer) = (List.finRange x.head.count.value).map (fun i => (x.parameters i).type answer) ∧
    m.hasThis = x.head.hasThis ∧ m.genericCount = if x.head.isGeneric then x.head.genericCount.value else 0
  /-- where a type is read its octets stand -/
  octets_of_type : ∀ c t c', type c = .ok t c' → ∃ s : Spelling, c.rest = s.octets ++ c'.rest ∧ t = s.form
  /-- where a method signature is read its octets stand -/
  octets_of_method : ∀ c m c', method c = .ok m c' → ∃ x : MethodSpelling, c.rest = x.octets ++ c'.rest ∧ m = x.form

/-- **Reading a signature is inverse to writing it.** A type is read from its octets, whatever stands behind them: the reader
gives the type, its references looked up, and stands right behind the octets. So does the reader of method signatures. Nothing is
read that is not written this way. -/
theorem read_inverse_octets (answer : CodedType → Option TypeSig) : InverseToWriting answer where
  type_octets s rest position met := ⟨s.form, takes_type s rest position met, s.resolve_form answer⟩
  method_octets x rest position met := by
    refine ⟨x.form, takes_method x rest position met, x.returns.resolve_form answer, ?_, rfl, rfl⟩
    simp [MethodSpelling.form, Spelling.resolve_form]
  octets_of_type _ _ _ h := eq_of_takes takes_type passes_type h
  octets_of_method _ _ _ h := eq_of_takes takes_method (passes_methodOf passes_type) h

end Unbundle.Signature
