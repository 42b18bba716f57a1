import Unbundle.Proofs.Module.Requests
/-
What reading a specification keeps, and named members without a store.

What the store holds for a row is known by its number in the order in which entries were made. A row is read only if there is no
entry for it, so that every entry stays.

The member that a row names is told with any way to answer specifications: with the store it is what building a module makes
of the row, and with `specificationAfresh` it is what the row alone says.

Results:
- `keepsObjects_specification`, `keepsObjects_memberWith`: reading leaves the entries as they are.
- `comesTo_memberWith`: a member is named with a store as it is without.
- `comesTo_specification_of_acyclic`: without circles every specification has an answer.
-/
namespace Unbundle

/-! ## Entries -/

/-- the number of a row's entry in the order in which entries were made; the latest stands first -/
def numberOf {α : Type} : (kept : List (Nat × α)) → (row : Nat) → Option Nat
  | [], _ => none
  | (r, _) :: older, row => if r = row then some older.length else numberOf older row

section

variable {α : Type} {kept : List (Nat × α)} {row row' : Nat}

theorem numberOf_cons_self (a : α) : numberOf ((row, a) :: kept) row = some kept.length := if_pos rfl

theorem numberOf_cons_of_ne (a : α) (h : row' ≠ row) : numberOf ((row', a) :: kept) row = numberOf kept row := if_neg h

theorem numberOf_eq_none : numberOf kept row = none ↔ kept.lookup row = none := by
  induction kept with
  | nil => simp [numberOf]
  | cons entry older ih =>
    obtain ⟨r, a⟩ := entry
    by_cases h : r = row
    · subst h
      simp [numberOf]
    · rw [numberOf_cons_of_ne a h, ih, List.lookup_cons, beq_false_of_ne (Ne.symm h)]

end

namespace Metadata

open Signature Relation

variable {rows : Metadata} {row : Nat} {blob : Bytes} {store store' : Store}

/-- the entries before a computation are entries of the same rows after it -/
def KeepsObjects {α : Type} (x : Resolving α) : Prop :=
  ∀ store a store', x store = .ok (a, store') → ∀ row n, numberOf store row = some n → numberOf store' row = some n

namespace KeepsObjects

variable {α β : Type} {x : Resolving α}

theorem pure (a : α) : KeepsObjects (Pure.pure a) := by
  intro store b store' hx row n hrow
  cases hx
  exact hrow

theorem bind {f : α → Resolving β} (h : KeepsObjects x) (hf : ∀ a, KeepsObjects (f a)) : KeepsObjects (x >>= f) := by
  intro store b store' hx row n hrow
  obtain ⟨⟨a, store₁⟩, ha, hb⟩ := bind_eq_ok_iff.1 (show (x store >>= fun r => f r.1 r.2) = _ from hx)
  exact hf a _ _ _ hb _ _ (h _ _ _ ha _ _ hrow)

theorem mapM {f : α → Resolving β} {l : List α} (hf : ∀ a ∈ l, KeepsObjects (f a)) : KeepsObjects (l.mapM f) := by
  induction l with
  | nil => exact pure []
  | cons a rest ih =>
    rw [List.mapM_cons]
    refine (hf a List.mem_cons_self).bind fun b => ?_
    exact (ih fun c hc => hf c (List.mem_cons_of_mem a hc)).bind fun bs => pure _

end KeepsObjects

section

variable {spec : Nat → Resolving (Option TypeSig)} {α : Type} {reader : Reader α}

theorem keepsObjects_typeOf {c : CodedType} (h : c.tag = 2 → KeepsObjects (spec c.row)) : KeepsObjects (typeOf rows spec c) := by
  unfold typeOf
  split
  · exact KeepsObjects.pure _
  · exact KeepsObjects.pure _
  · next htag => exact h htag
  · exact KeepsObjects.pure _

theorem keepsObjects_readWith (h : ∀ b, ⟨2, b⟩ ∈ (Signature.read reader blob).2 → KeepsObjects (spec b)) :
    KeepsObjects (readWith rows spec reader blob) := by
  refine KeepsObjects.bind (KeepsObjects.mapM fun c hc => ?_) fun answers => KeepsObjects.pure _
  exact (keepsObjects_typeOf fun htag => h c.row (mem_of_tag hc htag)).bind fun found => KeepsObjects.pure _

theorem keepsObjects_describe (h : ∀ b, ⟨2, b⟩ ∈ (Signature.read Reader.type blob).2 → KeepsObjects (spec b)) :
    KeepsObjects (describe rows spec blob) := by
  unfold describe
  refine (keepsObjects_readWith h).bind fun ⟨result, answer⟩ => ?_
  cases result with
  | ok form => exact KeepsObjects.pure _
  | error cause => exact KeepsObjects.pure _

end

/-- a store with what was found for a row -/
def keeping (row : Nat) : (found : Option TypeSig) → Store → Store
  | none, store => store
  | some t, store => (row, t) :: store

section

variable {depth : Nat} {t : TypeSig}

theorem specificationWithin_of_lookup (h : store.lookup row = some t) :
    specificationWithin rows (depth + 1) row store = .ok (some t, store) := by
  rw [specificationWithin]
  simp only [bind, StateT.bind, get, getThe, MonadStateOf.get, StateT.get, pure, Except.pure, Except.bind, h]
  rfl

theorem specificationWithin_of_none (h : store.lookup row = none) (hrow : rowAt? rows.typeSpecs row = none) :
    specificationWithin rows (depth + 1) row store = .ok (none, store) := by
  rw [specificationWithin]
  simp only [bind, StateT.bind, get, getThe, MonadStateOf.get, StateT.get, pure, Except.pure, Except.bind, h, hrow]
  rfl

/-- a row that is not kept is read, and what it describes is kept -/
theorem specificationWithin_of_row (h : store.lookup row = none) (hrow : rowAt? rows.typeSpecs row = some blob) :
    specificationWithin rows (depth + 1) row store =
      (describe rows (specificationWithin rows depth) blob store).map fun r => (r.1, keeping row r.1 r.2) := by
  rw [specificationWithin]
  simp only [bind, StateT.bind, get, getThe, MonadStateOf.get, StateT.get, pure, Except.pure, Except.bind, h, hrow]
  cases describe rows (specificationWithin rows depth) blob store with
  | error cause => rfl
  | ok r =>
    obtain ⟨found, store'⟩ := r
    cases found <;> rfl

end

/-- the three ways to read a row: it is kept, it is not there, or its blob is read and what it describes is kept -/
theorem specificationWithin_cases {depth : Nat} {found : Option TypeSig}
    (h : specificationWithin rows (depth + 1) row store = .ok (found, store')) :
    (∃ t, store.lookup row = some t ∧ found = some t ∧ store' = store) ∨
      (store.lookup row = none ∧ found = none ∧ store' = store) ∨
      (store.lookup row = none ∧ ∃ blob, rowAt? rows.typeSpecs row = some blob ∧ ∃ store₁,
        describe rows (specificationWithin rows depth) blob store = .ok (found, store₁) ∧
          store' = keeping row found store₁) := by
  cases hlookup : store.lookup row with
  | some t =>
    rw [specificationWithin_of_lookup hlookup] at h
    cases h
    exact .inl ⟨t, rfl, rfl, rfl⟩
  | none =>
    cases hrow : rowAt? rows.typeSpecs row with
    | none =>
      rw [specificationWithin_of_none hlookup hrow] at h
      cases h
      exact .inr (.inl ⟨rfl, rfl, rfl⟩)
    | some blob =>
      rw [specificationWithin_of_row hlookup hrow] at h
      cases hdescribe : describe rows (specificationWithin rows depth) blob store with
      | error cause =>
        rw [hdescribe] at h
        cases h
      | ok r =>
        rw [hdescribe] at h
        cases h
        exact .inr (.inr ⟨rfl, blob, rfl, r.2, hdescribe, rfl⟩)

/-- reading a specification keeps what was kept: a row is read only if it was not -/
theorem keepsObjects_specificationWithin (rows : Metadata) (depth row : Nat) :
    KeepsObjects (specificationWithin rows depth row) := by
  induction depth generalizing row with
  | zero =>
    intro store a store' hx
    cases hx
  | succ depth ih =>
    intro store found store' hx key n hkey
    obtain ⟨t, -, -, rfl⟩ | ⟨-, -, rfl⟩ | ⟨hnone, blob, hblob, store₁, hrun, rfl⟩ := specificationWithin_cases hx
    · exact hkey
    · exact hkey
    have hkey₁ := keepsObjects_describe (fun b _ => ih b) _ _ _ hrun key n hkey
    cases found with
    | none => exact hkey₁
    | some t =>
      have hne : row ≠ key := by
        rintro rfl
        rw [numberOf_eq_none.2 hnone] at hkey
        cases hkey
      exact (numberOf_cons_of_ne t hne).trans hkey₁

theorem keepsObjects_specification (rows : Metadata) (row : Nat) : KeepsObjects (specification rows row) :=
  keepsObjects_specificationWithin rows _ row

/-- a specification that was read is kept -/
theorem lookup_of_specification {t : TypeSig} (h : specification rows row store = .ok (some t, store')) :
    store'.lookup row = some t := by
  obtain ⟨t', ht', hfound, rfl⟩ | ⟨-, hfound, -⟩ | ⟨-, blob, -, store₁, -, rfl⟩ := specificationWithin_cases h
  · cases hfound
    exact ht'
  · cases hfound
  · exact List.lookup_cons_self

/-! ## Named members -/

section

variable {μ : Type → Type} [Monad μ]

/-- what a reference in a table stands for, when `spec` answers the rows of the specification table -/
def referencedWith (rows : Metadata) (spec : Nat → μ (Option TypeSig)) (r : Option Reference) : μ (Option TypeSig) :=
  match r with
  | none => return none
  | some r =>
    match tagOf? r.table with
    | none => return none
    | some tag => typeOf rows spec ⟨tag, r.row⟩

/-- the return type and the parameters of a method signature, when `spec` answers the rows of the specification table -/
def signatureWith (rows : Metadata) (spec : Nat → μ (Option TypeSig)) (signature : Bytes) :
    μ (Option (TypeSig × List TypeSig)) := do
  let (result, answer) ← readWith rows spec Reader.method signature
  match result with
  | .ok form => return some (form.returns.resolve answer, form.parameters.map (·.resolve answer))
  | .error _ => return none

/-- the member that a row names, when `spec` answers the rows of the specification table -/
def memberWith (rows : Metadata) (spec : Nat → μ (Option TypeSig)) (number : Nat) (row : MemberRefRow) : μ MemberRef := do
  let parent ← referencedWith rows spec row.parent
  let bare : MemberRef := { name := row.name, parent, returns := none, parameters := [],
                            token := Table.token Table.memberRef number }
  match row.signature with
  | [] => return bare
  | first :: _ =>
    if first.toNat % 16 = 6 then return bare
    match ← signatureWith rows spec row.signature with
    | some (returns, parameters) => return { bare with returns := some returns, parameters }
    | none => return bare

end

theorem buildMemberRef_eq (rows : Metadata) (number : Nat) (row : MemberRefRow) :
    Module.buildMemberRef rows number row = memberWith rows (specification rows) number row := rfl

section

variable {failure : Nat → Prop} {spec : Nat → Resolving (Option TypeSig)}
  (hspec : ∀ b, ComesTo rows failure (spec b) (specificationAfresh rows b = .ok ·)) (hkeeps : ∀ b, KeepsObjects (spec b))

include hspec in
theorem comesTo_referencedWith (r : Option Reference) :
    ComesTo rows failure (referencedWith rows spec r) (referencedWith rows (specificationAfresh rows) r = .ok ·) := by
  unfold referencedWith
  split
  · exact ComesTo.pure rfl
  split
  · exact ComesTo.pure rfl
  · exact comesTo_typeOf fun _ => hspec _

include hspec in
theorem comesTo_signatureWith (signature : Bytes) :
    ComesTo rows failure (signatureWith rows spec signature)
      (signatureWith rows (specificationAfresh rows) signature = .ok ·) := by
  unfold signatureWith
  refine (comesTo_readWith fun b _ => hspec b).bind_ok fun ⟨result, answer⟩ _ => ?_
  cases result with
  | ok form => exact ComesTo.pure rfl
  | error cause => exact ComesTo.pure rfl

include hspec in
/-- a member is named with a store as it is without -/
theorem comesTo_memberWith (number : Nat) (row : MemberRefRow) :
    ComesTo rows failure (memberWith rows spec number row) (memberWith rows (specificationAfresh rows) number row = .ok ·) := by
  unfold memberWith
  refine (comesTo_referencedWith hspec row.parent).bind_ok fun parent _ => ?_
  dsimp only
  split
  · exact ComesTo.pure rfl
  split_ifs
  · exact ComesTo.pure rfl
  refine (comesTo_signatureWith hspec row.signature).bind_ok fun found _ => ?_
  split
  · exact ComesTo.pure rfl
  · exact ComesTo.pure rfl

include hkeeps in
theorem keepsObjects_referencedWith (r : Option Reference) : KeepsObjects (referencedWith rows spec r) := by
  unfold referencedWith
  split
  · exact KeepsObjects.pure _
  split
  · exact KeepsObjects.pure _
  · exact keepsObjects_typeOf fun _ => hkeeps _

include hkeeps in
theorem keepsObjects_signatureWith (signature : Bytes) : KeepsObjects (signatureWith rows spec signature) := by
  unfold signatureWith
  refine (keepsObjects_readWith fun b _ => hkeeps b).bind fun ⟨result, answer⟩ => ?_
  cases result with
  | ok form => exact KeepsObjects.pure _
  | error cause => exact KeepsObjects.pure _

include hkeeps in
theorem keepsObjects_memberWith (number : Nat) (row : MemberRefRow) : KeepsObjects (memberWith rows spec number row) := by
  unfold memberWith
  refine (keepsObjects_referencedWith hkeeps row.parent).bind fun parent => ?_
  dsimp only
  split
  · exact KeepsObjects.pure _
  split_ifs
  · exact KeepsObjects.pure _
  refine (keepsObjects_signatureWith hkeeps row.signature).bind fun found => ?_
  split
  · exact KeepsObjects.pure _
  · exact KeepsObjects.pure _

end

/-! ## Rows without circles -/

/-- without circles every specification is read as it is read afresh -/
theorem comesTo_specification_of_acyclic (h : rows.Acyclic) (row : Nat) :
    ComesTo rows (fun _ => False) (specification rows row) (specificationAfresh rows row = .ok ·) :=
  (comesTo_specification rows row).imp (fun _ ⟨b, _, hb⟩ => h b hb) fun _ h => h

theorem ComesTo.exists_ok {α : Type} {x : Resolving α} {P : α → Prop} {store : Store} (h : ComesTo rows (fun _ => False) x P)
    (hstore : Known rows store) : ∃ a store', x store = .ok (a, store') ∧ Known rows store' ∧ P a :=
  (h store hstore).resolve_right fun ⟨_, _, hfalse⟩ => hfalse

end Metadata

end Unbundle
