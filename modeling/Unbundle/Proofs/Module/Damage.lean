import Unbundle.Proofs.Module.Consistent
import Unbundle.Proofs.Module.Remembering
/-
A damaged member spoils only itself.

Damage puts another signature into the row of a field or a method, one that cannot be read, or another address into the row of a
method, where no body can be read. Two modules are built, from the rows without the damage and from those with it. The runs go
through the same steps, but what they read and keep differs: a signature that cannot be read is read up to where it fails.

`Mirrors rows x y R` says of two computations that from any two stores that were filled by reading both have an answer, and that
the answers are related by `R`. Since a store holds nothing but what the rows say, and the damage is to no row that a store is
filled from, it does not matter that the stores are different ones.

Results:
- `mirrors_read`: what two blobs are read as, and that one blob is read as the same both times.
- `mirrors_addMembers`, `mirrors_buildTypes`: the types of both modules, by one lemma for each step of building.
- `build_damaged`: both modules are built, and they are the same up to the members of the damaged row, which have an invalid
  type, or no body.
- `ofOpened_damaged`: the same of an image, which is loaded with the damage exactly if it is loaded without.
-/
namespace Unbundle

namespace Metadata

open Signature

variable {rows rows' : Metadata} {row : Nat} {blob blob' : Bytes} {α β γ δ : Type}

/-! ## Rows that types are read from -/

/-- the tables that references are looked up in are the same -/
structure SameTypes (rows rows' : Metadata) : Prop where
  typeDefs : rows'.typeDefs = rows.typeDefs
  typeRefs : rows'.typeRefs = rows.typeRefs
  typeSpecs : rows'.typeSpecs = rows.typeSpecs

namespace SameTypes

section

variable {μ : Type → Type} [Monad μ] (h : SameTypes rows rows') (spec : Nat → μ (Option TypeSig))

include h

theorem typeOf_eq (c : CodedType) : typeOf rows' spec c = typeOf rows spec c := by
  rw [typeOf, typeOf, h.typeDefs, h.typeRefs]

theorem readWith_eq (reader : Reader α) (blob : Bytes) : readWith rows' spec reader blob = readWith rows spec reader blob := by
  simp only [readWith, h.typeOf_eq]

theorem describe_eq (blob : Bytes) : describe rows' spec blob = describe rows spec blob := by
  simp only [describe, h.readWith_eq]

end

theorem specification_eq (h : SameTypes rows rows') : specification rows' = specification rows := by
  have hwithin : ∀ depth, specificationWithin rows' depth = specificationWithin rows depth := fun depth => by
    induction depth with
    | zero => rfl
    | succ depth ih =>
      funext row
      simp only [specificationWithin, h.typeSpecs, ih, h.describe_eq]
  funext row
  rw [specification, specification, h.typeSpecs, hwithin]

theorem referenced_eq (h : SameTypes rows rows') (r : Option Reference) : referenced rows' r = referenced rows r := by
  simp only [referenced, h.specification_eq, h.typeOf_eq]

theorem buildSignature_eq (h : SameTypes rows rows') (signature : Bytes) :
    Module.buildSignature rows' signature = Module.buildSignature rows signature := by
  simp only [Module.buildSignature, h.specification_eq, h.readWith_eq]

theorem buildMemberRef_eq (h : SameTypes rows rows') (number : Nat) (row : MemberRefRow) :
    Module.buildMemberRef rows' number row = Module.buildMemberRef rows number row := by
  simp only [Module.buildMemberRef, h.referenced_eq, h.buildSignature_eq]

end SameTypes

/-! ## Two runs -/

/-- two computations from stores that hold what the rows say both have an answer, and the answers are related -/
def Mirrors (rows : Metadata) (x : Resolving α) (y : Resolving β) (R : α → β → Prop) : Prop :=
  ∀ store store', Known rows store → Known rows store' → ∃ a s b s', x store = .ok (a, s) ∧ y store' = .ok (b, s') ∧
    Known rows s ∧ Known rows s' ∧ R a b

namespace Mirrors

variable {x : Resolving α} {y : Resolving β} {R : α → β → Prop} {S : γ → δ → Prop}

theorem pure {a : α} {b : β} (h : R a b) : Mirrors rows (Pure.pure a) (Pure.pure b) R :=
  fun store store' hstore hstore' => ⟨a, store, b, store', rfl, rfl, hstore, hstore', h⟩

theorem bind {f : α → Resolving γ} {g : β → Resolving δ} (h : Mirrors rows x y R)
    (hf : ∀ a b, R a b → Mirrors rows (f a) (g b) S) : Mirrors rows (x >>= f) (y >>= g) S := by
  intro store store' hstore hstore'
  obtain ⟨a, s, b, s', hx, hy, hs, hs', hab⟩ := h store store' hstore hstore'
  obtain ⟨c, t, d, t', hc, hd, ht, ht', hcd⟩ := hf a b hab s s' hs hs'
  refine ⟨c, t, d, t', ?_, ?_, ht, ht', hcd⟩
  · show (x store >>= fun r => f r.1 r.2) = _
    rw [hx]
    exact hc
  · show (y store' >>= fun r => g r.1 r.2) = _
    rw [hy]
    exact hd

/-- folds over one list whose steps keep two results related -/
theorem foldlM {f : α → γ → Resolving α} {g : β → γ → Resolving β} {l : List γ} {a : α} {b : β}
    (hf : ∀ a b, R a b → ∀ c, Mirrors rows (f a c) (g b c) R) (hab : R a b) :
    Mirrors rows (l.foldlM f a) (l.foldlM g b) R := by
  induction l generalizing a b with
  | nil => exact pure hab
  | cons c rest ih =>
    rw [List.foldlM_cons, List.foldlM_cons]
    exact (hf a b hab c).bind fun a' b' hab' => ih hab'

/-- computations that come to answers with two properties have related answers if these properties relate them -/
theorem of_comesTo {P : α → Prop} {Q : β → Prop} (hx : ComesTo rows (fun _ => False) x P)
    (hy : ComesTo rows (fun _ => False) y Q) (hrelated : ∀ a b, P a → Q b → R a b) : Mirrors rows x y R := by
  intro store store' hstore hstore'
  obtain ⟨a, s, hrun, hs, ha⟩ := hx.exists_ok hstore
  obtain ⟨b, s', hrun', hs', hb⟩ := hy.exists_ok hstore'
  exact ⟨a, s, b, s', hrun, hrun', hs, hs', hrelated a b ha hb⟩

/-- a computation that follows one without a store has the same answer both times -/
theorem of_afresh {p : Except TypeFault α} (h : ComesTo rows (fun _ => False) x (p = .ok ·)) : Mirrors rows x x Eq :=
  of_comesTo h h fun _ _ ha hb => Except.ok.inj (ha.symm.trans hb)

end Mirrors

variable (h : rows.Acyclic)

include h

/-- a blob is read as the same both times; what two blobs are read as is in each run what the blob is -/
theorem mirrors_read (reader : Reader α) (blob blob' : Bytes) :
    Mirrors rows (readWith rows (specification rows) reader blob) (readWith rows (specification rows) reader blob')
      fun r r' => r'.1 = (Signature.read reader blob').1 ∧ (blob = blob' → r = r') := by
  have hread (blob : Bytes) : ComesTo rows (fun _ => False) (readWith rows (specification rows) reader blob)
      (readWith rows (specificationAfresh rows) reader blob = .ok ·) :=
    comesTo_readWith fun b _ => comesTo_specification_of_acyclic h b
  refine .of_comesTo (hread blob) (hread blob') fun r r' hr hr' => ⟨?_, ?_⟩
  · obtain ⟨answers, -, hr'⟩ := bind_eq_ok_iff.1 hr'
    cases hr'
    rfl
  · rintro rfl
    exact Except.ok.inj (hr.symm.trans hr')

/-- a method signature that cannot be read gives no types -/
theorem mirrors_buildSignature (signature signature' : Bytes) :
    Mirrors rows (Module.buildSignature rows signature) (Module.buildSignature rows signature') fun found found' =>
      (∀ cause, (Signature.read Reader.method signature').1 = .error cause → found' = none) ∧
        (signature = signature' → found = found') := by
  refine (mirrors_read h Reader.method signature signature').bind fun ⟨result, answer⟩ ⟨result', answer'⟩ ⟨hresult, hsame⟩ => ?_
  cases result' with
  | error cause' =>
    cases result with
    | error cause => exact .pure ⟨fun _ _ => rfl, fun _ => rfl⟩
    | ok form => exact .pure ⟨fun _ _ => rfl, fun heq => (nomatch hsame heq)⟩
  | ok form' =>
    have hreads (cause : ReadError) (hcause : (Signature.read Reader.method signature').1 = .error cause) : False :=
      nomatch hresult.trans hcause
    cases result with
    | error cause => exact .pure ⟨fun cause hcause => (hreads cause hcause).elim, fun heq => (nomatch hsame heq)⟩
    | ok form =>
      refine .pure ⟨fun cause hcause => (hreads cause hcause).elim, fun heq => ?_⟩
      cases hsame heq
      rfl

theorem mirrors_referenced (r : Option Reference) : Mirrors rows (referenced rows r) (referenced rows r) Eq :=
  .of_afresh (comesTo_referencedWith (comesTo_specification_of_acyclic h) r)

theorem mirrors_buildMemberRef (number : Nat) (row : MemberRefRow) :
    Mirrors rows (Module.buildMemberRef rows number row) (Module.buildMemberRef rows number row) Eq :=
  .of_afresh (comesTo_memberWith (comesTo_specification_of_acyclic h) number row)

theorem mirrors_specification (row : Nat) : Mirrors rows (specification rows row) (specification rows row) Eq :=
  .of_afresh (comesTo_specification_of_acyclic h row)

end Metadata

namespace Module

open Metadata Signature

/-! ## Rows and places -/

theorem rowAt?_mapIdx {α : Type} (g : Nat → α → α) (l : List α) (number : Nat) :
    rowAt? (l.mapIdx fun place a => g (place + 1) a) number = (rowAt? l number).map (g number) := by
  rw [rowAt?, rowAt?]
  split_ifs with hzero
  · rfl
  · rw [List.getElem?_mapIdx, Nat.sub_add_cancel (Nat.pos_of_ne_zero hzero)]

theorem lastPlace?_map {α : Type} {p : α → Bool} {g : α → α} (hg : ∀ a, p (g a) = p a) (pool : Array α) :
    lastPlace? p (pool.map g) = lastPlace? p pool := by
  simp only [lastPlace?, Array.size_map, Array.getElem?_map, Option.any_map, hg]

theorem token_inj {table number number' : Nat} (heq : Table.token table number = Table.token table number') : number = number' :=
  Nat.add_left_cancel heq

/-! ## Damage -/

/-- what is damaged: the signature of a field, or the signature or the body address of a method; rows count from 1 -/
inductive Damage where
  | fieldSignature (row : Nat) (signature : Bytes)
  | methodSignature (row : Nat) (signature : Bytes)
  | methodBody (row : Nat) (address : Nat)

namespace Damage

/-- a row of the field table with the damage -/
def fieldRow (d : Damage) (number : Nat) (f : FieldRow) : FieldRow :=
  match d with
  | .fieldSignature row signature => if number = row then { f with signature } else f
  | _ => f

/-- a row of the method table with the damage -/
def methodRow (d : Damage) (number : Nat) (x : MethodRow) : MethodRow :=
  match d with
  | .methodSignature row signature => if number = row then { x with signature } else x
  | .methodBody row address => if number = row then { x with address } else x
  | _ => x

/-- rows with the damage -/
def apply (d : Damage) (rows : Metadata) : Metadata :=
  { rows with
    fields := rows.fields.mapIdx fun place f => d.fieldRow (place + 1) f
    methods := rows.methods.mapIdx fun place x => d.methodRow (place + 1) x }

/-- the signature cannot be read, or no body can be read at the address -/
def Spoils (contents : Contents) : Damage → Prop
  | .fieldSignature _ signature => ∃ cause, (Signature.read Reader.field signature).1 = .error cause
  | .methodSignature _ signature => ∃ cause, (Signature.read Reader.method signature).1 = .error cause
  | .methodBody _ address => address = 0 ∨ contents.body address = none

/-- what is left of a field -/
def field (d : Damage) (f : Field) : Field :=
  match d with
  | .fieldSignature row _ => if f.token = Table.token Table.field row then { f with type := invalidType } else f
  | _ => f

/-- what is left of a method -/
def method (d : Damage) (x : Method) : Method :=
  match d with
  | .methodSignature row _ =>
    if x.token = Table.token Table.method row then { x with returns := invalidType, parameters := [] } else x
  | .methodBody row _ => if x.token = Table.token Table.method row then { x with code := none } else x
  | _ => x

/-- what is left of a module: the members of the damaged row are spoiled, and nothing else -/
def spoil (d : Damage) (m : Module) : Module := { m with fields := m.fields.map d.field, methods := m.methods.map d.method }

variable {rows : Metadata} {contents : Contents} {m : Module} (d : Damage)

theorem sameTypes_apply (rows : Metadata) : SameTypes rows (d.apply rows) := ⟨rfl, rfl, rfl⟩

theorem token_field (f : Field) : (d.field f).token = f.token := by
  unfold field
  split
  · split_ifs <;> rfl
  · rfl

theorem token_method (x : Method) : (d.method x).token = x.token := by
  unfold method
  split
  · split_ifs <;> rfl
  · split_ifs <;> rfl
  · rfl

theorem field_owner (f : Field) (owner : Option TypeId) : d.field { f with owner } = { d.field f with owner } := by
  unfold field
  split
  · split_ifs <;> rfl
  · rfl

theorem method_owner (x : Method) (owner : Option TypeId) : d.method { x with owner } = { d.method x with owner } := by
  unfold method
  split
  · split_ifs <;> rfl
  · split_ifs <;> rfl
  · rfl

theorem spoil_addField (m : Module) (id : TypeId) (f : Field) :
    d.spoil (m.addField id f) = (d.spoil m).addField id (d.field f) := by
  simp only [spoil, addField, modifyType, Array.map_push, Array.size_map, field_owner]

theorem spoil_addMethod (m : Module) (id : TypeId) (x : Method) :
    d.spoil (m.addMethod id x) = (d.spoil m).addMethod id (d.method x) := by
  simp only [spoil, addMethod, modifyType, Array.map_push, Array.size_map, method_owner]

theorem spoil_addNesting (m : Module) (row : NestingRow) :
    d.spoil (addNesting rows m row) = addNesting (d.apply rows) (d.spoil m) row := by
  simp only [addNesting, (d.sameTypes_apply rows).typeDefs]
  split <;> rfl

theorem spoil_foldl_addNesting (nestings : List NestingRow) (m : Module) :
    d.spoil (nestings.foldl (addNesting rows) m) = nestings.foldl (addNesting (d.apply rows)) (d.spoil m) := by
  induction nestings generalizing m with
  | nil => rfl
  | cons row rest ih => rw [List.foldl_cons, List.foldl_cons, ih, spoil_addNesting]

/-- every token stands for what it stood for -/
theorem entity?_spoil (m : Module) (token : Nat) : (d.spoil m).entity? token = m.entity? token := by
  have hfields : lastPlace? (·.token = token) (m.fields.map d.field) = lastPlace? (·.token = token) m.fields :=
    lastPlace?_map (fun f => by rw [token_field]) _
  have hmethods : lastPlace? (·.token = token) (m.methods.map d.method) = lastPlace? (·.token = token) m.methods :=
    lastPlace?_map (fun x => by rw [token_method]) _
  simp only [entity?, spoil, hfields, hmethods]
  rfl

/-! ## The steps of building, with and without damage -/

variable {d} (h : rows.Acyclic) (hd : d.Spoils contents)

include h hd

theorem mirrors_buildField (number : Nat) (f : FieldRow) :
    Mirrors rows (buildField rows number f) (buildField (d.apply rows) number (d.fieldRow number f))
      fun a b => b = d.field a := by
  simp only [buildField, (d.sameTypes_apply rows).readWith_eq, (d.sameTypes_apply rows).specification_eq]
  refine (mirrors_read h Reader.field f.signature _).bind fun r r' hr => .pure ?_
  cases d with
  | fieldSignature row signature =>
    by_cases hnumber : number = row
    · subst hnumber
      obtain ⟨cause, hcause⟩ := hd
      have hresult : r'.1 = .error cause := by
        rw [hr.1, fieldRow, if_pos rfl]
        exact hcause
      rw [hresult, field, if_pos rfl, fieldRow, if_pos rfl]
    · have hrow : fieldRow (.fieldSignature row signature) number f = f := if_neg hnumber
      rw [hrow] at hr ⊢
      rw [hr.2 rfl, field, if_neg fun heq => hnumber (token_inj heq)]
  | methodSignature row signature => rw [hr.2 rfl]; rfl
  | methodBody row address => rw [hr.2 rfl]; rfl

theorem mirrors_buildMethod (number : Nat) (x : MethodRow) :
    Mirrors rows (buildMethod rows contents number x) (buildMethod (d.apply rows) contents number (d.methodRow number x))
      fun a b => b = d.method a := by
  simp only [buildMethod, (d.sameTypes_apply rows).buildSignature_eq]
  refine (mirrors_buildSignature h x.signature _).bind fun found found' hfound => .pure ?_
  cases d with
  | fieldSignature row signature =>
    rw [hfound.2 rfl]
    rfl
  | methodSignature row signature =>
    by_cases hnumber : number = row
    · subst hnumber
      obtain ⟨cause, hcause⟩ := hd
      have hrow : methodRow (.methodSignature number signature) number x = { x with signature } := if_pos rfl
      rw [hrow] at hfound ⊢
      rw [hfound.1 cause hcause, method, if_pos rfl]
      rfl
    · have hrow : methodRow (.methodSignature row signature) number x = x := if_neg hnumber
      rw [hrow] at hfound ⊢
      rw [hfound.2 rfl, method, if_neg fun heq => hnumber (token_inj heq)]
  | methodBody row address =>
    by_cases hnumber : number = row
    · subst hnumber
      have hrow : methodRow (.methodBody number address) number x = { x with address } := if_pos rfl
      have hnone : (if address = 0 then none else contents.body address) = none := by
        rcases hd with hzero | hbody
        · exact if_pos hzero
        · rw [hbody, ite_self]
      rw [hrow] at hfound ⊢
      rw [hfound.2 rfl, method, if_pos rfl, hnone]
    · have hrow : methodRow (.methodBody row address) number x = x := if_neg hnumber
      rw [hrow] at hfound ⊢
      rw [hfound.2 rfl, method, if_neg fun heq => hnumber (token_inj heq)]

theorem mirrors_addMembers (m : Module) (id : TypeId) (row : TypeDefRow) :
    Mirrors rows (addMembers rows contents m id row) (addMembers (d.apply rows) contents (d.spoil m) id row)
      fun a b => b = d.spoil a := by
  unfold addMembers
  refine Mirrors.bind (R := fun a b => b = d.spoil a) (.foldlM (fun a b hab number => ?_) rfl)
    fun a b hab => .foldlM (fun a b hab number => ?_) hab
  · subst hab
    have hrow := rowAt?_mapIdx d.fieldRow rows.fields number
    cases hfield : rowAt? rows.fields number with
    | none =>
      rw [hfield] at hrow
      simp only [apply, hrow]
      exact .pure rfl
    | some f =>
      rw [hfield] at hrow
      simp only [apply, hrow]
      refine (mirrors_buildField h hd number f).bind fun g g' hg => .pure ?_
      rw [hg, spoil_addField]
  · subst hab
    have hrow := rowAt?_mapIdx d.methodRow rows.methods number
    cases hmethod : rowAt? rows.methods number with
    | none =>
      rw [hmethod] at hrow
      simp only [apply, hrow]
      exact .pure rfl
    | some x =>
      rw [hmethod] at hrow
      simp only [apply, hrow]
      refine (mirrors_buildMethod h hd number x).bind fun y y' hy => .pure ?_
      rw [hy, spoil_addMethod]

omit hd in
theorem mirrors_addInterface (m : Module) (row : InterfaceRow) :
    Mirrors rows (addInterface rows m row) (addInterface (d.apply rows) (d.spoil m) row) fun a b => b = d.spoil a := by
  simp only [addInterface, (d.sameTypes_apply rows).typeDefs, (d.sameTypes_apply rows).referenced_eq]
  split
  · exact .pure rfl
  · refine (mirrors_referenced h row.interface).bind fun found found' hfound => ?_
    subst hfound
    cases found with
    | some face => exact .pure rfl
    | none => exact .pure rfl

omit hd in
theorem mirrors_setBase (m : Module) (id : TypeId) (row : TypeDefRow) :
    Mirrors rows (setBase rows m id row) (setBase (d.apply rows) (d.spoil m) id row) fun a b => b = d.spoil a := by
  simp only [setBase, (d.sameTypes_apply rows).referenced_eq]
  refine (mirrors_referenced h row.base).bind fun base base' hbase => ?_
  subst hbase
  exact .pure rfl

theorem mirrors_buildTypes (name : String) :
    Mirrors rows (buildTypes rows contents { Module.empty with name })
      (buildTypes (d.apply rows) contents { Module.empty with name }) fun a b => b = d.spoil a := by
  unfold buildTypes
  refine Mirrors.bind (R := fun a b => b = d.spoil a) (.foldlM (fun a b hab entry => ?_) ?_) fun a b hab =>
    Mirrors.bind (R := fun a b => b = d.spoil a) (.foldlM (fun a b hab row => ?_) hab) fun a b hab =>
      .foldlM (fun a b hab entry => ?_) ?_
  · subst hab
    exact mirrors_addMembers h hd a entry.2 entry.1
  · simp [spoil, Module.empty, apply]
  · subst hab
    exact mirrors_addInterface h a row
  · subst hab
    exact mirrors_setBase h a entry.2 entry.1
  · subst hab
    exact (d.spoil_foldl_addNesting rows.nestings a).symm

omit h hd in
theorem build_eq {name : String} {store : Store} (hm : buildTypes rows contents { Module.empty with name } [] = .ok (m, store)) :
    build name rows contents = .ok {
      m.listTypes with
      resources := rows.resources.map (buildResource contents)
      typeReferences := (rows.typeRefs.map fun r => TypeSig.named r.space r.name).toArray
      typeSpecs := outcomes store ((List.range rows.typeSpecs.length).map fun place => specification rows (place + 1))
      memberReferences :=
        outcomes store (rows.memberRefs.zipIdx.map fun (row, place) => buildMemberRef rows (place + 1) row) } := by
  rw [build, hm]
  rfl

omit h hd in
/-- what is looked up once the types are built does not depend on what was kept meanwhile -/
theorem outcomes_eq {α : Type} {store store' : Store} (hstore : Known rows store) (hstore' : Known rows store')
    {items : List (Resolving α)} (hitems : ∀ item ∈ items, Mirrors rows item item Eq) :
    outcomes store' items = outcomes store items := by
  unfold outcomes
  congr 1
  refine List.map_congr_left fun item hitem => ?_
  obtain ⟨a, s, b, s', hrun, hrun', -, -, hab⟩ := hitems item hitem store store' hstore hstore'
  rw [hrun, hrun', hab]
  rfl

/-- both modules are built, and they differ only in the members of the damaged row -/
theorem build_damaged (name : String) : ∃ m, build name rows contents = .ok m ∧
    build name (d.apply rows) contents = .ok (d.spoil m) := by
  have hempty : Known rows [] := by simp [Known]
  obtain ⟨a, store, b, store', hrun, hrun', hstore, hstore', rfl⟩ :=
    mirrors_buildTypes h hd name [] [] hempty hempty
  have htypeSpecs : outcomes store' ((List.range rows.typeSpecs.length).map fun place => specification rows (place + 1)) =
      outcomes store ((List.range rows.typeSpecs.length).map fun place => specification rows (place + 1)) :=
    outcomes_eq hstore hstore' fun item hitem => by
      obtain ⟨place, -, rfl⟩ := List.mem_map.1 hitem
      exact mirrors_specification h (place + 1)
  have hmemberRefs : outcomes store' (rows.memberRefs.zipIdx.map fun (row, place) => buildMemberRef rows (place + 1) row) =
      outcomes store (rows.memberRefs.zipIdx.map fun (row, place) => buildMemberRef rows (place + 1) row) :=
    outcomes_eq hstore hstore' fun item hitem => by
      obtain ⟨entry, -, rfl⟩ := List.mem_map.1 hitem
      exact mirrors_buildMemberRef h (entry.2 + 1) entry.1
  have hmemberRows : (d.apply rows).memberRefs = rows.memberRefs := rfl
  refine ⟨_, build_eq hrun, ?_⟩
  rw [build_eq hrun', (d.sameTypes_apply rows).specification_eq, (d.sameTypes_apply rows).typeSpecs, hmemberRows]
  simp only [(d.sameTypes_apply rows).buildMemberRef_eq]
  rw [htypeSpecs, hmemberRefs]
  rfl

end Damage

/-! ## Images -/

/-- what the rows of an image point to -/
def contentsOf (o : Opened) : Contents := { body := bodyAt o.image, resource := fun offset => o.resourceAt offset }

/-- an image with the damage in its rows -/
def Damage.inImage (d : Damage) (o : Opened) : Opened := { o with metadata := d.apply o.metadata }

theorem ofOpened_of_build {name : String} {o : Opened} {m : Module} (hdefect : o.metadata.typeDefect? = none)
    (hm : build name o.metadata (contentsOf o) = .ok m) : ofOpened name o = .ok m := by
  rw [contentsOf] at hm
  simp only [ofOpened, hdefect, hm]

/-- damage makes no row hollow -/
theorem Damage.typeDefect?_apply (d : Damage) (rows : Metadata) : (d.apply rows).typeDefect? = rows.typeDefect? := by
  have hmember : (d.apply rows).memberDefect? = rows.memberDefect? := by
    funext t
    simp only [memberDefect?, Damage.apply, List.length_mapIdx]
  simp only [typeDefect?, hmember]
  rfl

/-- an image with a body at address 4, and rows whose method has it -/
def chainedImage : Opened where
  image := ⟨[0, 0, 0, 0, 0x06, 0x2A], [], [], ⟨0, 0⟩, 0, 0, 0, 0⟩
  metadata := { chainedRows with methods := [⟨4, 0x16, "Run", [0x00, 0x01, 0x01, 0x12, 0x0A]⟩] }
  resources := 0

end Module

end Unbundle
