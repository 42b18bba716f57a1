import Unbundle.Proofs.Circle
import Unbundle.Proofs.Module.Sound
import Unbundle.Proofs.Module.Specifications
import Unbundle.Proofs.Outcome
/-
Which references are answered, and which are followed without end.

A reference to a type specification enters a circle if the specification is one that leads back to itself, or mentions, at any
distance, one that does. `ComesTo failure x P` says of a computation that reads specifications what it comes to from any store
that was filled by reading: an answer with the property `P`, or a failure at a row with the property `failure`. With
`p = .ok ·` for `P` it says that the computation follows `p`, which reads everything afresh.

Results:
- `specificationAfreshWithin_ok_iff`: reading afresh fails exactly if the references of a row lead through as many rows as the
  bound allows.
- `specificationAfresh_ok_iff`: a row is read afresh exactly if it leads to no circle.
- `comesTo_specificationWithin`, `comesTo_specification`: with the store each row is read as it is read afresh, unless it leads
  to a circle.
-/
namespace Unbundle

open Relation

/-! ## Forms of whole types -/

namespace Signature

variable {answer : CodedType → Option TypeSig}

theorem isWhole_getD (hanswer : ∀ c t, answer c = some t → t.isWhole) (c : CodedType) :
    ((answer c).getD c.unresolved).isWhole := by
  cases hc : answer c with
  | none => rfl
  | some t => exact hanswer c t hc

mutual

/-- no type is missing in the type that a form describes, if none is missing in the answers to its references -/
theorem Form.isWhole_resolve (hanswer : ∀ c t, answer c = some t → t.isWhole) :
    (form : Form) → (form.resolve answer).isWhole
  | .core name => rfl
  | .reference c => isWhole_getD hanswer c
  | .generic c arguments => by
    rw [Form.resolve, TypeSig.isWhole, Bool.and_eq_true]
    exact ⟨isWhole_getD hanswer c, Form.areWhole_resolveAll hanswer arguments⟩
  | .derived element suffix => by
    rw [Form.resolve, TypeSig.isWhole]
    exact Form.isWhole_resolve hanswer element
  | .param number ofMethod => rfl
  | .function => rfl

/-- so it is with the types that some forms describe -/
theorem Form.areWhole_resolveAll (hanswer : ∀ c t, answer c = some t → t.isWhole) :
    (forms : List Form) → TypeSig.areWhole (Form.resolveAll answer forms)
  | [] => rfl
  | form :: rest => by
    rw [Form.resolveAll, TypeSig.areWhole, Bool.and_eq_true]
    exact ⟨Form.isWhole_resolve hanswer form, Form.areWhole_resolveAll hanswer rest⟩

end

end Signature

namespace Metadata

open Signature

variable {rows : Metadata} {row depth : Nat} {c : CodedType} {blob : Bytes}

/-! ## Circles of specifications -/

/-- a reference that is followed into a circle of specifications -/
def EntersCircle (rows : Metadata) (c : CodedType) : Prop := c.tag = 2 ∧ LeadsToCircle rows.Refers c.row

/-- from a row that leads to a circle references lead through any number of rows -/
theorem descends_of_leadsToCircle (h : LeadsToCircle rows.Refers row) (depth : Nat) : Descends rows depth row := by
  induction depth generalizing row with
  | zero => exact .here row
  | succ depth ih =>
    obtain ⟨b, hab, hb⟩ := h.exists_step
    exact .step hab (ih hb)

/-- references that lead through more rows than there are lead to a circle -/
theorem leadsToCircle_of_descends (h : Descends rows (rows.typeSpecs.length + 1) row) : LeadsToCircle rows.Refers row := by
  obtain ⟨l, hlength, hpairwise, hreach, hrange⟩ := h.exists_chain
  refine leadsToCircle_of_pairwise hpairwise hreach fun hnodup => ?_
  have hsub : l ⊆ List.range' 1 rows.typeSpecs.length := fun a ha => by
    have hr := hrange a ha
    exact List.mem_range'_1.2 ⟨hr.1, by omega⟩
  have hle := (hnodup.subperm hsub).length_le
  rw [hlength, List.length_range'] at hle
  omega

theorem refers_iff (hblob : rowAt? rows.typeSpecs row = some blob) (b : Nat) :
    rows.Refers row b ↔ ⟨2, b⟩ ∈ (Signature.read Reader.type blob).2 := by
  constructor
  · rintro ⟨blob', hblob', hb⟩
    rw [hblob] at hblob'
    cases hblob'
    exact hb
  · intro hb
    exact ⟨blob, hblob, hb⟩

/-! ## Reading afresh -/

section

variable {s s' : Nat → Except TypeFault (Option TypeSig)} {α : Type} {reader : Reader α}

theorem typeOf_ok (h : c.tag = 2 → ∃ found, s c.row = .ok found) : ∃ found, typeOf rows s c = .ok found := by
  unfold typeOf
  split
  · exact ⟨_, rfl⟩
  · exact ⟨_, rfl⟩
  · next htag => exact h htag
  · exact ⟨_, rfl⟩

theorem typeOf_congr (h : c.tag = 2 → s c.row = s' c.row) : typeOf rows s c = typeOf rows s' c := by
  unfold typeOf
  split
  · rfl
  · rfl
  · next htag => exact h htag
  · rfl

/-- no type is missing in what a reference stands for, if none is missing in the specification that it may mean -/
theorem isWhole_of_typeOf {t : TypeSig} (h : c.tag = 2 → s c.row = .ok (some t) → t.isWhole)
    (ht : typeOf rows s c = .ok (some t)) : t.isWhole := by
  unfold typeOf at ht
  split at ht
  · obtain ⟨row, -, rfl⟩ := Option.map_eq_some_iff.1 (Except.ok.inj ht)
    rfl
  · obtain ⟨row, -, rfl⟩ := Option.map_eq_some_iff.1 (Except.ok.inj ht)
    rfl
  · next htag => exact h htag ht
  · cases ht

theorem mem_of_tag {l : List CodedType} (hc : c ∈ l) (htag : c.tag = 2) : ⟨2, c.row⟩ ∈ l := by
  obtain ⟨tag, b⟩ := c
  obtain rfl : tag = 2 := htag
  exact hc

/-- what has an answer in a blob that was read is one of its references -/
theorem typeOf_of_answer {r : Except ReadError α × (CodedType → Option TypeSig)} {t : TypeSig}
    (h : readWith rows s reader blob = .ok r) (ht : r.2 c = some t) :
    c ∈ (Signature.read reader blob).2 ∧ typeOf rows s c = .ok (some t) := by
  obtain ⟨answers, hanswers, hr⟩ := bind_eq_ok_iff.1 h
  cases hr
  obtain ⟨front, back, heq, -⟩ := List.lookup_eq_some_iff.1 (Option.join_eq_some_iff.1 ht)
  obtain ⟨c', hc', ha⟩ := (of_mapM hanswers).2 (c, some t) (by simp [heq])
  obtain ⟨found, hfound, ha⟩ := bind_eq_ok_iff.1 ha
  cases ha
  exact ⟨hc', hfound⟩

theorem isWhole_of_answer {r : Except ReadError α × (CodedType → Option TypeSig)} {t : TypeSig}
    (hs : ∀ b t, ⟨2, b⟩ ∈ (Signature.read reader blob).2 → s b = .ok (some t) → t.isWhole)
    (h : readWith rows s reader blob = .ok r) (ht : r.2 c = some t) : t.isWhole := by
  obtain ⟨hc, htype⟩ := typeOf_of_answer h ht
  exact isWhole_of_typeOf (fun htag => hs c.row t (mem_of_tag hc htag)) htype

/-- a blob is read only if each specification that it mentions is -/
theorem ok_of_readWith {r : Except ReadError α × (CodedType → Option TypeSig)} (h : readWith rows s reader blob = .ok r)
    {b : Nat} (hb : ⟨2, b⟩ ∈ (Signature.read reader blob).2) : ∃ found, s b = .ok found := by
  obtain ⟨answers, hanswers, -⟩ := bind_eq_ok_iff.1 h
  obtain ⟨a, ha⟩ := (of_mapM hanswers).1 _ hb
  obtain ⟨found, hfound, -⟩ := bind_eq_ok_iff.1 ha
  exact ⟨found, hfound⟩

theorem readWith_ok (h : ∀ b, ⟨2, b⟩ ∈ (Signature.read reader blob).2 → ∃ found, s b = .ok found) :
    ∃ r, readWith rows s reader blob = .ok r := by
  have hall : ∀ c ∈ (Signature.read reader blob).2, ∃ a : CodedType × Option TypeSig,
      (do return (c, ← typeOf rows s c)) = Except.ok a := by
    intro c hc
    obtain ⟨found, hfound⟩ : ∃ found, typeOf rows s c = .ok found := typeOf_ok fun htag => h c.row (mem_of_tag hc htag)
    exact ⟨(c, found), by rw [hfound]; rfl⟩
  obtain ⟨answers, hanswers⟩ := mapM_ok hall
  exact ⟨_, bind_eq_ok_iff.2 ⟨answers, hanswers, rfl⟩⟩

/-- two ways to answer specifications read a blob alike if they agree on the rows that it mentions -/
theorem readWith_congr (h : ∀ b, ⟨2, b⟩ ∈ (Signature.read reader blob).2 → s b = s' b) :
    readWith rows s reader blob = readWith rows s' reader blob := by
  have hsame : ∀ c ∈ (Signature.read reader blob).2,
      (do return (c, ← typeOf rows s c) : Except TypeFault (CodedType × Option TypeSig)) =
        do return (c, ← typeOf rows s' c) := by
    intro c hc
    rw [typeOf_congr fun htag => h c.row (mem_of_tag hc htag)]
  exact congrArg (· >>= _) (mapM_congr hsame)

theorem describe_congr (h : ∀ b, ⟨2, b⟩ ∈ (Signature.read Reader.type blob).2 → s b = s' b) :
    describe rows s blob = describe rows s' blob := by
  unfold describe
  rw [readWith_congr h]

theorem describe_ok (h : ∀ b, ⟨2, b⟩ ∈ (Signature.read Reader.type blob).2 → ∃ found, s b = .ok found) :
    ∃ found, describe rows s blob = .ok found := by
  obtain ⟨⟨result, answer⟩, hr⟩ : ∃ r, readWith rows s Reader.type blob = .ok r := readWith_ok h
  cases result with
  | ok form => exact ⟨some (form.resolve answer), bind_eq_ok_iff.2 ⟨_, hr, rfl⟩⟩
  | error cause => exact ⟨none, bind_eq_ok_iff.2 ⟨_, hr, rfl⟩⟩

theorem ok_of_describe {found : Option TypeSig} (h : describe rows s blob = .ok found) {b : Nat}
    (hb : ⟨2, b⟩ ∈ (Signature.read Reader.type blob).2) : ∃ found, s b = .ok found := by
  obtain ⟨r, hr, -⟩ := bind_eq_ok_iff.1 h
  exact ok_of_readWith hr hb

theorem isWhole_of_describe {t : TypeSig}
    (hs : ∀ b t, ⟨2, b⟩ ∈ (Signature.read Reader.type blob).2 → s b = .ok (some t) → t.isWhole)
    (ht : describe rows s blob = .ok (some t)) : t.isWhole := by
  obtain ⟨⟨result, answer⟩, hr, ht⟩ := bind_eq_ok_iff.1 ht
  cases result with
  | error cause => cases ht
  | ok form =>
    cases ht
    exact form.isWhole_resolve fun c t hc => isWhole_of_answer hs hr hc

end

theorem isWhole_of_specificationAfreshWithin {t : TypeSig} (h : specificationAfreshWithin rows depth row = .ok (some t)) :
    t.isWhole := by
  induction depth generalizing row t with
  | zero => cases h
  | succ depth ih =>
    rw [specificationAfreshWithin] at h
    split at h
    · cases h
    · exact isWhole_of_describe (fun b t _ hb => ih hb) h

/-- reading a row afresh fails if references lead from it through as many rows as the bound allows, and only then -/
theorem specificationAfreshWithin_ok_iff : (∃ found, specificationAfreshWithin rows depth row = .ok found) ↔
    ¬ Descends rows depth row := by
  induction depth generalizing row with
  | zero =>
    constructor
    · rintro ⟨found, h⟩
      cases h
    · intro h
      exact absurd (.here row) h
  | succ depth ih =>
    rw [specificationAfreshWithin]
    cases hblob : rowAt? rows.typeSpecs row with
    | none =>
      constructor
      · rintro - (- | @⟨_, _, b, hab, -⟩)
        obtain ⟨blob, hblob', -⟩ := hab
        rw [hblob] at hblob'
        cases hblob'
      · intro
        exact ⟨none, rfl⟩
    | some blob =>
      constructor
      · rintro ⟨found, hfound⟩ (- | @⟨_, _, b, hab, hb⟩)
        exact ih.1 (ok_of_describe hfound ((refers_iff hblob b).1 hab)) hb
      · intro h
        refine describe_ok fun b hb => ih.2 fun hd => ?_
        exact h (.step ((refers_iff hblob b).2 hb) hd)

/-- a bound that is enough to read a row gives what every larger bound gives -/
theorem specificationAfreshWithin_add (h : ¬ Descends rows depth row) (more : Nat) :
    specificationAfreshWithin rows (depth + more) row = specificationAfreshWithin rows depth row := by
  induction depth generalizing row with
  | zero => exact absurd (.here row) h
  | succ depth ih =>
    rw [Nat.add_right_comm, specificationAfreshWithin, specificationAfreshWithin]
    split
    · rfl
    · next blob hblob =>
      refine describe_congr fun b hb => ih fun hd => ?_
      exact h (.step ((refers_iff hblob b).2 hb) hd)

/-- a row is read afresh unless it leads to a circle -/
theorem specificationAfresh_ok_iff :
    (∃ found, specificationAfresh rows row = .ok found) ↔ ¬ LeadsToCircle rows.Refers row := by
  rw [specificationAfresh, specificationAfreshWithin_ok_iff, not_iff_not]
  exact ⟨leadsToCircle_of_descends, fun h => descends_of_leadsToCircle h _⟩

/-- a row is read as its blob is, with the specifications in it read in the same way -/
theorem specificationAfresh_eq {found : Option TypeSig} (hblob : rowAt? rows.typeSpecs row = some blob)
    (h : describe rows (specificationAfresh rows) blob = .ok found) : specificationAfresh rows row = .ok found := by
  rw [← h, specificationAfresh, specificationAfreshWithin, hblob]
  refine describe_congr fun b hb => ?_
  -- no reference of a row that leads to no circle leads through all rows
  have hno : ¬ LeadsToCircle rows.Refers row := by
    intro hrow
    obtain ⟨b, hab, hcircle⟩ := hrow.exists_step
    exact specificationAfresh_ok_iff.1 (ok_of_describe h ((refers_iff hblob b).1 hab)) hcircle
  refine (specificationAfreshWithin_add (fun hd => hno ?_) 1).symm
  exact leadsToCircle_of_descends (.step ((refers_iff hblob b).2 hb) hd)

/-- a reference that is read afresh has an answer unless it enters a circle, and no type is missing in it -/
theorem typeOf_specificationAfresh_ok_iff :
    (∃ found, typeOf rows (specificationAfresh rows) c = .ok found) ↔ ¬ rows.EntersCircle c := by
  constructor
  · rintro ⟨found, h⟩ ⟨htag, hcircle⟩
    rw [typeOf, htag] at h
    exact specificationAfresh_ok_iff.1 ⟨found, h⟩ hcircle
  · intro h
    exact typeOf_ok fun htag => specificationAfresh_ok_iff.2 fun hcircle => h ⟨htag, hcircle⟩

/-! ## Computations with a store -/

/-- what is in a store was read as it is read afresh -/
def Known (rows : Metadata) (store : Store) : Prop := ∀ entry ∈ store, specificationAfresh rows entry.1 = .ok (some entry.2)

/-- whatever was read before it, a computation has an answer with the property `P` or fails at a row with the property
`failure` -/
def ComesTo (rows : Metadata) (failure : Nat → Prop) {α : Type} (x : Resolving α) (P : α → Prop) : Prop :=
  ∀ store, Known rows store → (∃ a store', x store = .ok (a, store') ∧ Known rows store' ∧ P a) ∨
    ∃ row, x store = .error (.typeSpec row) ∧ failure row

namespace ComesTo

variable {failure : Nat → Prop} {α β : Type} {x : Resolving α} {P : α → Prop} {Q : β → Prop}

theorem pure {a : α} (h : P a) : ComesTo rows failure (Pure.pure a) P :=
  fun store hstore => .inl ⟨a, store, rfl, hstore, h⟩

theorem throw (h : failure row) : ComesTo rows failure (MonadExcept.throw (TypeFault.typeSpec row) : Resolving α) P :=
  fun _ _ => .inr ⟨row, rfl, h⟩

theorem imp {failure' : Nat → Prop} {P' : α → Prop} (h : ComesTo rows failure x P) (hf : ∀ row, failure row → failure' row)
    (hp : ∀ a, P a → P' a) : ComesTo rows failure' x P' := by
  intro store hstore
  rcases h store hstore with ⟨a, store', hx, hstore', ha⟩ | ⟨row, hx, hrow⟩
  · exact .inl ⟨a, store', hx, hstore', hp a ha⟩
  · exact .inr ⟨row, hx, hf row hrow⟩

theorem bind {f : α → Resolving β} (h : ComesTo rows failure x P) (hf : ∀ a, P a → ComesTo rows failure (f a) Q) :
    ComesTo rows failure (x >>= f) Q := by
  intro store hstore
  have hrun : (x >>= f) store = (x store >>= fun r => f r.1 r.2) := rfl
  rw [hrun]
  rcases h store hstore with ⟨a, store', hx, hstore', ha⟩ | ⟨row, hx, hrow⟩
  · rw [hx]
    exact hf a ha store' hstore'
  · rw [hx]
    exact .inr ⟨row, rfl, hrow⟩

theorem get : ComesTo rows failure (MonadState.get : Resolving Store) (Known rows) :=
  fun store hstore => .inl ⟨store, store, rfl, hstore, hstore⟩

theorem remember {t : TypeSig} (h : specificationAfresh rows row = .ok (some t)) :
    ComesTo rows failure (modify ((row, t) :: ·) : Resolving Unit) fun _ => True :=
  fun store hstore => .inl ⟨(), (row, t) :: store, rfl, List.forall_mem_cons.2 ⟨h, hstore⟩, trivial⟩

/-- what every step of a fold keeps the whole fold keeps, and what the step for an entry gives holds of each entry -/
theorem foldlM {f : α → β → Resolving α} {l : List β} {a : α}
    (hf : ∀ a, P a → ∀ b ∈ l, ComesTo rows failure (f a b) fun a' => P a' ∧ Q b) (ha : P a) :
    ComesTo rows failure (l.foldlM f a) fun a' => P a' ∧ ∀ b ∈ l, Q b := by
  induction l generalizing a with
  | nil => exact pure ⟨ha, by simp⟩
  | cons b rest ih =>
    rw [List.foldlM_cons]
    refine (hf a ha b List.mem_cons_self).bind fun a' ha' => ?_
    refine (ih (fun a ha c hc => hf a ha c (List.mem_cons_of_mem b hc)) ha'.1).imp (fun _ h => h) fun a' hall => ?_
    exact ⟨hall.1, List.forall_mem_cons.2 ⟨ha'.2, hall.2⟩⟩

/-- a computation that follows another one step by step follows it as a whole -/
theorem bind_ok {p : Except TypeFault α} {f : α → Resolving β} {g : α → Except TypeFault β}
    (h : ComesTo rows failure x (p = .ok ·)) (hf : ∀ a, p = .ok a → ComesTo rows failure (f a) (g a = .ok ·)) :
    ComesTo rows failure (x >>= f) (p >>= g = .ok ·) := by
  refine h.bind fun a ha => (hf a ha).imp (fun _ h => h) fun b hb => ?_
  rw [ha]
  exact hb

theorem mapM_ok {f : α → Resolving β} {g : α → Except TypeFault β} {l : List α}
    (h : ∀ a ∈ l, ComesTo rows failure (f a) (g a = .ok ·)) : ComesTo rows failure (l.mapM f) (l.mapM g = .ok ·) := by
  induction l with
  | nil => exact pure rfl
  | cons a rest ih =>
    rw [List.mapM_cons, List.mapM_cons]
    refine (h a List.mem_cons_self).bind_ok fun b _ => ?_
    refine (ih fun c hc => h c (List.mem_cons_of_mem a hc)).bind_ok fun bs _ => ?_
    exact pure rfl

end ComesTo

section

variable {failure : Nat → Prop} {spec : Nat → Resolving (Option TypeSig)} {α : Type} {reader : Reader α}

theorem comesTo_typeOf (h : c.tag = 2 → ComesTo rows failure (spec c.row) (specificationAfresh rows c.row = .ok ·)) :
    ComesTo rows failure (typeOf rows spec c) (typeOf rows (specificationAfresh rows) c = .ok ·) := by
  unfold typeOf
  split
  · exact ComesTo.pure rfl
  · exact ComesTo.pure rfl
  · next htag => exact h htag
  · exact ComesTo.pure rfl

/-- a blob is read as it is read afresh if that is so of the specifications that it mentions -/
theorem comesTo_readWith (h : ∀ b, ⟨2, b⟩ ∈ (Signature.read reader blob).2 →
    ComesTo rows failure (spec b) (specificationAfresh rows b = .ok ·)) :
    ComesTo rows failure (readWith rows spec reader blob) (readWith rows (specificationAfresh rows) reader blob = .ok ·) := by
  refine ComesTo.bind_ok (ComesTo.mapM_ok fun c hc => ?_) fun answers _ => ComesTo.pure rfl
  refine (comesTo_typeOf fun htag => ?_).bind_ok fun found _ => ComesTo.pure rfl
  exact h c.row (mem_of_tag hc htag)

theorem comesTo_describe (h : ∀ b, ⟨2, b⟩ ∈ (Signature.read Reader.type blob).2 →
    ComesTo rows failure (spec b) (specificationAfresh rows b = .ok ·)) :
    ComesTo rows failure (describe rows spec blob) (describe rows (specificationAfresh rows) blob = .ok ·) := by
  unfold describe
  refine (comesTo_readWith h).bind_ok fun r _ => ?_
  obtain ⟨result, answer⟩ := r
  cases result with
  | ok form => exact ComesTo.pure rfl
  | error cause => exact ComesTo.pure rfl

/-- reading the blob of a row and keeping what it describes -/
theorem comesTo_kept (hblob : rowAt? rows.typeSpecs row = some blob) (h : ∀ b, rows.Refers row b →
    ComesTo rows failure (spec b) (specificationAfresh rows b = .ok ·)) :
    ComesTo rows failure (do
      match ← describe rows spec blob with
      | none => return none
      | some t =>
        modify ((row, t) :: ·)
        return some t) (specificationAfresh rows row = .ok ·) := by
  refine (comesTo_describe fun b hb => h b ((refers_iff hblob b).2 hb)).bind fun found hfound => ?_
  have hrow := specificationAfresh_eq hblob hfound
  cases found with
  | none => exact ComesTo.pure hrow
  | some t => exact (ComesTo.remember hrow).bind fun _ _ => ComesTo.pure hrow

end

theorem Known.lookup {store : Store} {t : TypeSig} (h : Known rows store) (ht : store.lookup row = some t) :
    specificationAfresh rows row = .ok (some t) := by
  obtain ⟨front, back, heq, -⟩ := List.lookup_eq_some_iff.1 ht
  exact h (row, t) (by simp [heq])

theorem specificationAfresh_of_none (h : rowAt? rows.typeSpecs row = none) : specificationAfresh rows row = .ok none := by
  rw [specificationAfresh, specificationAfreshWithin, h]

/-- with a store a row is read as it is read afresh, if its references do not exhaust the bound -/
theorem comesTo_specificationWithin (rows : Metadata) (depth row : Nat) :
    ComesTo rows (fun _ => Descends rows depth row) (specificationWithin rows depth row)
      (specificationAfresh rows row = .ok ·) := by
  induction depth generalizing row with
  | zero => exact ComesTo.throw (.here row)
  | succ depth ih =>
    rw [specificationWithin]
    refine ComesTo.get.bind fun store hstore => ?_
    split
    · next t ht => exact ComesTo.pure (hstore.lookup ht)
    split
    · next hnone => exact ComesTo.pure (specificationAfresh_of_none hnone)
    next blob hblob =>
    refine comesTo_kept hblob fun b hab => (ih b).imp (fun _ hd => ?_) fun _ h => h
    exact .step hab hd

/-- with a store a row is read as it is read afresh, unless it leads to a circle -/
theorem comesTo_specification (rows : Metadata) (row : Nat) :
    ComesTo rows (fun _ => LeadsToCircle rows.Refers row) (specification rows row) (specificationAfresh rows row = .ok ·) :=
  (comesTo_specificationWithin rows _ row).imp (fun _ => leadsToCircle_of_descends) fun _ h => h

end Metadata

end Unbundle
