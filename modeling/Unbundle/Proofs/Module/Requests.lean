import Unbundle.Module.Build
import Unbundle.Proofs.Module.Lookups
import Unbundle.Proofs.Module.Nesting
/-
What building a module looks up, and what comes of it.

The references that building follows stand in the rows: `rows.Asks c` says that one of them is `c`. `Shaped rows done m` is what
each step of the building keeps when the nesting rows `done` have been applied: there is a definition for each row of the type
table, each is nested where the last of `done` says that nests it in a definition, and no type is missing in a member.

Results:
- `comesTo_buildTypes`: the types are built in that shape unless one of the references enters a circle.
- `build_outcome`: a module is built exactly if none of them does, and it is `Built` then: it has that shape, and the tokens
  that stand for nothing in it name specifications.
-/
namespace Unbundle

namespace Metadata

open Signature

/-! ## The references that are looked up -/

/-- the signature of a field mentions a reference -/
def FieldAsks (rows : Metadata) (number : Nat) (c : CodedType) : Prop :=
  ∃ f, rowAt? rows.fields number = some f ∧ c ∈ (Signature.read Reader.field f.signature).2

/-- the signature of a method mentions a reference -/
def MethodAsks (rows : Metadata) (number : Nat) (c : CodedType) : Prop :=
  ∃ x, rowAt? rows.methods number = some x ∧ c ∈ (Signature.read Reader.method x.signature).2

/-- a reference in a table, as signatures would write it -/
def ReferenceAsks (r : Option Reference) (c : CodedType) : Prop := ∃ r' ∈ r, tagOf? r'.table = some c.tag ∧ r'.row = c.row

/-- the references that are looked up when the types of a module are built -/
inductive Asks (rows : Metadata) (c : CodedType) : Prop
  | field {row : TypeDefRow} {number : Nat} (hrow : row ∈ rows.typeDefs) (hnumber : number ∈ row.fields)
    (hc : rows.FieldAsks number c)
  | method {row : TypeDefRow} {number : Nat} (hrow : row ∈ rows.typeDefs) (hnumber : number ∈ row.methods)
    (hc : rows.MethodAsks number c)
  | interface {row : InterfaceRow} {t : TypeDefRow} (hrow : row ∈ rows.interfaces) (ht : rowAt? rows.typeDefs row.type = some t)
    (hc : ReferenceAsks row.interface c)
  | base {row : TypeDefRow} (hrow : row ∈ rows.typeDefs) (hc : ReferenceAsks row.base c)

/-- building the types of a module follows some reference into a circle -/
def AsksForCircle (rows : Metadata) : Prop := ∃ c, rows.Asks c ∧ rows.EntersCircle c

/-- the row of the nesting table nests a definition in a definition -/
def Nests (rows : Metadata) (id : TypeId) (row : NestingRow) : Prop :=
  row.inner = id + 1 ∧ row.inner ≤ rows.typeDefs.length ∧ 0 < row.outer ∧ row.outer ≤ rows.typeDefs.length

instance (rows : Metadata) (id : TypeId) (row : NestingRow) : Decidable (rows.Nests id row) :=
  inferInstanceAs (Decidable (_ ∧ _ ∧ _ ∧ _))

/-- the definition that the last of some nesting rows nests a definition in -/
def outerAmong (rows : Metadata) (nestings : List NestingRow) (id : TypeId) : Option TypeId :=
  (nestings.filter fun row => decide (rows.Nests id row)).getLast?.map (·.outer - 1)

variable {rows : Metadata} {c : CodedType} {blob : Bytes} {row : NestingRow} {id : TypeId} {done : List NestingRow}

theorem rowAt?_isSome_iff {α : Type} {l : List α} {number : Nat} :
    (∃ a, rowAt? l number = some a) ↔ 0 < number ∧ number ≤ l.length := by
  constructor
  · rintro ⟨a, ha⟩
    exact le_of_rowAt? ha
  · rintro ⟨hpos, hle⟩
    exact ⟨_, by rw [rowAt?, if_neg (Nat.ne_of_gt hpos), List.getElem?_eq_getElem (by omega)]⟩

theorem outerAmong_append_of_nests (h : rows.Nests id row) :
    rows.outerAmong (done ++ [row]) id = some (row.outer - 1) := by
  rw [outerAmong, List.filter_append, List.filter_cons_of_pos (by simpa using h), List.filter_nil, List.getLast?_concat]
  rfl

theorem outerAmong_append_of_not_nests (h : ¬ rows.Nests id row) :
    rows.outerAmong (done ++ [row]) id = rows.outerAmong done id := by
  rw [outerAmong, List.filter_append, List.filter_cons_of_neg (by simpa using h), List.filter_nil, List.append_nil]
  rfl

/-! ## Looking up -/

theorem not_entersCircle_of_readWith {α : Type} {reader : Reader α} {r : Except ReadError α × (CodedType → Option TypeSig)}
    (h : readWith rows (specificationAfresh rows) reader blob = .ok r) (hc : c ∈ (Signature.read reader blob).2) :
    ¬ rows.EntersCircle c := by
  rintro ⟨htag, hcircle⟩
  exact specificationAfresh_ok_iff.1 (ok_of_readWith h (mem_of_tag hc htag)) hcircle

variable {fails : Prop}

/-- no type is missing in the answers that a blob is read with, and none of its references enters a circle -/
theorem comesTo_read {α : Type} (reader : Reader α)
    (h : ∀ c ∈ (Signature.read reader blob).2, rows.EntersCircle c → fails) :
    ComesTo rows (fun _ => fails) (readWith rows (specification rows) reader blob) fun r =>
      (∀ c t, r.2 c = some t → t.isWhole) ∧ ∀ c ∈ (Signature.read reader blob).2, ¬ rows.EntersCircle c := by
  refine (comesTo_readWith fun b hb => (comesTo_specification rows b).imp (fun _ hcircle => ?_) fun _ h => h).imp
    (fun _ h => h) fun r hr => ⟨fun c t ht => ?_, fun c hc => not_entersCircle_of_readWith hr hc⟩
  · exact h _ hb ⟨rfl, hcircle⟩
  · exact isWhole_of_answer (fun b t _ hb => isWhole_of_specificationAfreshWithin hb) hr ht

theorem comesTo_referenced {r : Option Reference} (h : ∀ c, ReferenceAsks r c → rows.EntersCircle c → fails) :
    ComesTo rows (fun _ => fails) (referenced rows r) fun _ => ∀ c, ReferenceAsks r c → ¬ rows.EntersCircle c := by
  unfold referenced
  split
  · refine ComesTo.pure ?_
    rintro c ⟨r', hr', -⟩
    cases hr'
  next r =>
  split
  · next hnone =>
    refine ComesTo.pure ?_
    rintro c ⟨r', hr', htag, -⟩
    cases hr'
    rw [hnone] at htag
    cases htag
  next tag htag =>
  have hasks : ReferenceAsks (some r) ⟨tag, r.row⟩ := ⟨r, rfl, htag, rfl⟩
  refine (comesTo_typeOf fun hspec => (comesTo_specification rows r.row).imp (fun _ hcircle => ?_) fun _ h => h).imp
    (fun _ h => h) ?_
  · exact h _ hasks ⟨hspec, hcircle⟩
  · rintro found hfound c ⟨r', hr', hctag, hcrow⟩
    cases hr'
    rw [htag] at hctag
    obtain ⟨tag', row'⟩ := c
    cases hctag
    cases hcrow
    exact typeOf_specificationAfresh_ok_iff.1 ⟨found, hfound⟩

end Metadata

namespace Module

open Metadata Signature

/-! ## The shape of a module -/

/-- no type is missing in the signature of a method -/
def SignatureWhole (x : Method) : Prop := x.returns.isWhole ∧ ∀ t ∈ x.parameters, t.isWhole

/-- the definitions of a module, the types that they are nested in, and the types of its members, once the nesting rows `done`
have been applied -/
structure Shaped (rows : Metadata) (done : List NestingRow) (m : Module) : Prop where
  size_eq : m.definitions.size = rows.typeDefs.length
  outer_eq : ∀ id, m.outer? id = rows.outerAmong done id
  fields : ∀ f ∈ m.fields, f.type.isWhole
  methods : ∀ x ∈ m.methods, SignatureWhole x

variable {rows : Metadata} {done : List NestingRow} {m : Module} {id : TypeId} {contents : Contents}

theorem outer?_modifyType (m : Module) (id : TypeId) (change : TypeDef → TypeDef) (i : TypeId) :
    (m.modifyType id change).outer? i =
      if id = i then (m.definitions[i]?).bind (fun t => (change t).outer) else m.outer? i := by
  rw [outer?, modifyType, Array.getElem?_modify]
  split_ifs
  · rw [Option.bind_map]
    rfl
  · rfl

namespace Shaped

/-- changing a definition without nesting it elsewhere -/
theorem modifyType (h : Shaped rows done m) {change : TypeDef → TypeDef} (hchange : ∀ t, (change t).outer = t.outer) :
    Shaped rows done (m.modifyType id change) where
  size_eq := by rw [Module.modifyType, Array.size_modify, h.size_eq]
  outer_eq i := by
    rw [outer?_modifyType, ← h.outer_eq i]
    simp only [hchange]
    exact ite_id _
  fields := h.fields
  methods := h.methods

theorem addField (h : Shaped rows done m) {f : Field} (hf : f.type.isWhole) : Shaped rows done (m.addField id f) := by
  have hpushed : Shaped rows done { m with fields := m.fields.push { f with owner := some id } } := by
    refine ⟨h.size_eq, h.outer_eq, fun g hg => ?_, h.methods⟩
    rcases Array.mem_push.1 hg with hold | rfl
    · exact h.fields g hold
    · exact hf
  exact hpushed.modifyType fun _ => rfl

theorem addMethod (h : Shaped rows done m) {x : Method} (hx : SignatureWhole x) :
    Shaped rows done (m.addMethod id x) := by
  have hpushed : Shaped rows done { m with methods := m.methods.push { x with owner := some id } } := by
    refine ⟨h.size_eq, h.outer_eq, h.fields, fun y hy => ?_⟩
    rcases Array.mem_push.1 hy with hold | rfl
    · exact h.methods y hold
    · exact hx
  exact hpushed.modifyType fun _ => rfl

/-- a row of the nesting table says where a definition is nested, whatever the rows before it said -/
theorem addNesting (h : Shaped rows done m) (row : NestingRow) : Shaped rows (done ++ [row]) (addNesting rows m row) := by
  by_cases hrow : ∃ i, rows.Nests i row
  · obtain ⟨i, hi⟩ := hrow
    obtain ⟨hinner, hle, hpos, houter⟩ := id hi
    obtain ⟨t, ht⟩ := rowAt?_isSome_iff.2 ⟨by omega, hle⟩
    obtain ⟨o, ho⟩ := rowAt?_isSome_iff.2 ⟨hpos, houter⟩
    have hadd : Module.addNesting rows m row =
        m.modifyType i fun t => { t with outer := some (row.outer - 1) } := by
      simp only [Module.addNesting, ht, ho]
      rw [hinner, Nat.add_sub_cancel]
    rw [hadd]
    refine ⟨by rw [Module.modifyType, Array.size_modify, h.size_eq], fun j => ?_, h.fields, h.methods⟩
    rw [outer?_modifyType]
    split_ifs with hij
    · subst hij
      rw [outerAmong_append_of_nests hi, Array.getElem?_eq_getElem (by rw [h.size_eq]; omega)]
      rfl
    · rw [outerAmong_append_of_not_nests fun hj => hij (Nat.succ.inj (hinner.symm.trans hj.1))]
      exact h.outer_eq j
  · have hadd : Module.addNesting rows m row = m := by
      unfold Module.addNesting
      split
      · next t o ht ho =>
        obtain ⟨hinner, hle⟩ := le_of_rowAt? ht
        exact absurd ⟨row.inner - 1, by omega, hle, le_of_rowAt? ho⟩ hrow
      · rfl
    rw [hadd]
    refine ⟨h.size_eq, fun j => ?_, h.fields, h.methods⟩
    rw [outerAmong_append_of_not_nests fun hj => hrow ⟨j, hj⟩]
    exact h.outer_eq j

theorem foldl_addNesting (h : Shaped rows done m) (nestings : List NestingRow) :
    Shaped rows (done ++ nestings) (nestings.foldl (Module.addNesting rows) m) := by
  induction nestings generalizing done m with
  | nil => rwa [List.append_nil]
  | cons row rest ih =>
    rw [List.append_cons]
    exact ih (h.addNesting row)

/-- the definitions of the rows without members -/
theorem definitions (rows : Metadata) (name : String) :
    Shaped rows [] { Module.empty with
      name, definitions := (rows.typeDefs.zipIdx.map fun (row, id) => buildDefinition (id + 1) row).toArray } where
  size_eq := by simp
  outer_eq id := by
    simp only [outer?, List.getElem?_toArray, List.getElem?_map, Option.bind_map]
    cases rows.typeDefs.zipIdx[id]? with
    | none => rfl
    | some entry => rfl
  fields := by simp [Module.empty]
  methods := by simp [Module.empty]

end Shaped

/-! ## The steps of building -/

variable {fails : Prop}

theorem comesTo_buildField (number : Nat) (row : FieldRow)
    (h : ∀ c ∈ (Signature.read Reader.field row.signature).2, rows.EntersCircle c → fails) :
    ComesTo rows (fun _ => fails) (buildField rows number row) fun f =>
      f.type.isWhole ∧ ∀ c ∈ (Signature.read Reader.field row.signature).2, ¬ rows.EntersCircle c := by
  unfold buildField
  refine (comesTo_read Reader.field h).bind fun r hr => ?_
  obtain ⟨result, answer⟩ := r
  cases result with
  | error cause => exact ComesTo.pure ⟨rfl, hr.2⟩
  | ok form => exact ComesTo.pure ⟨form.isWhole_resolve hr.1, hr.2⟩

theorem comesTo_buildSignature (blob : Bytes)
    (h : ∀ c ∈ (Signature.read Reader.method blob).2, rows.EntersCircle c → fails) :
    ComesTo rows (fun _ => fails) (buildSignature rows blob) fun found =>
      (∀ s ∈ found, s.1.isWhole ∧ ∀ t ∈ s.2, t.isWhole) ∧
      ∀ c ∈ (Signature.read Reader.method blob).2, ¬ rows.EntersCircle c := by
  unfold buildSignature
  refine (comesTo_read Reader.method h).bind fun r hr => ?_
  obtain ⟨result, answer⟩ := r
  cases result with
  | error cause => exact ComesTo.pure ⟨by simp, hr.2⟩
  | ok form =>
    refine ComesTo.pure ⟨fun s hs => ?_, hr.2⟩
    cases hs
    refine ⟨form.returns.isWhole_resolve hr.1, fun t ht => ?_⟩
    obtain ⟨parameter, -, rfl⟩ := List.mem_map.1 ht
    exact parameter.isWhole_resolve hr.1

theorem comesTo_buildMethod (number : Nat) (row : MethodRow)
    (h : ∀ c ∈ (Signature.read Reader.method row.signature).2, rows.EntersCircle c → fails) :
    ComesTo rows (fun _ => fails) (buildMethod rows contents number row) fun x =>
      SignatureWhole x ∧ ∀ c ∈ (Signature.read Reader.method row.signature).2, ¬ rows.EntersCircle c := by
  unfold buildMethod
  refine (comesTo_buildSignature row.signature h).bind fun found hfound => ComesTo.pure ⟨?_, hfound.2⟩
  cases found with
  | none => exact ⟨rfl, by simp⟩
  | some s => exact hfound.1 s rfl

/-- adding the member of a row, if the row is there, follows the references that it mentions -/
theorem comesTo_member {α : Type} {table : List α} {number : Nat} {mentioned : α → List CodedType} {x : Resolving Module}
    (hm : Shaped rows done m) (hnone : rowAt? table number = none → x = pure m)
    (hrow : ∀ row, rowAt? table number = some row → ComesTo rows (fun _ => fails) x fun m' =>
      Shaped rows done m' ∧ ∀ c ∈ mentioned row, ¬ rows.EntersCircle c) :
    ComesTo rows (fun _ => fails) x fun m' => Shaped rows done m' ∧
      ∀ c, (∃ row, rowAt? table number = some row ∧ c ∈ mentioned row) → ¬ rows.EntersCircle c := by
  cases h : rowAt? table number with
  | none =>
    rw [hnone h]
    exact ComesTo.pure ⟨hm, by simp⟩
  | some row => exact (hrow row h).imp (fun _ h => h) fun m' hm' => ⟨hm'.1, by simpa using hm'.2⟩

theorem comesTo_addMembers (hm : Shaped rows done m) (id : TypeId) {row : TypeDefRow} (hrow : row ∈ rows.typeDefs) :
    ComesTo rows (fun _ => rows.AsksForCircle) (addMembers rows contents m id row) fun m' => Shaped rows done m' ∧
      (∀ number ∈ row.fields, ∀ c, rows.FieldAsks number c → ¬ rows.EntersCircle c) ∧
      ∀ number ∈ row.methods, ∀ c, rows.MethodAsks number c → ¬ rows.EntersCircle c := by
  unfold addMembers
  refine ComesTo.bind (ComesTo.foldlM (P := Shaped rows done) (fun m hm number hnumber => ?_) hm) fun m hm =>
    (ComesTo.foldlM (P := Shaped rows done) (fun m hm number hnumber => ?_) hm.1).imp (fun _ h => h) fun m' hm' =>
      ⟨hm'.1, hm.2, hm'.2⟩
  · refine comesTo_member hm (fun hnone => by rw [hnone]) fun f hf => ?_
    have hasks (c) (hc : c ∈ (Signature.read Reader.field f.signature).2) : rows.Asks c := .field hrow hnumber ⟨f, hf, hc⟩
    rw [hf]
    refine (comesTo_buildField number f fun c hc hcircle => ⟨c, hasks c hc, hcircle⟩).bind fun g hg => ?_
    exact ComesTo.pure ⟨hm.addField hg.1, hg.2⟩
  · refine comesTo_member hm (fun hnone => by rw [hnone]) fun x hx => ?_
    have hasks (c) (hc : c ∈ (Signature.read Reader.method x.signature).2) : rows.Asks c := .method hrow hnumber ⟨x, hx, hc⟩
    rw [hx]
    refine (comesTo_buildMethod number x fun c hc hcircle => ⟨c, hasks c hc, hcircle⟩).bind fun y hy => ?_
    exact ComesTo.pure ⟨hm.addMethod hy.1, hy.2⟩

theorem comesTo_addInterface (hm : Shaped rows done m) {row : InterfaceRow} (hrow : row ∈ rows.interfaces) :
    ComesTo rows (fun _ => rows.AsksForCircle) (addInterface rows m row) fun m' => Shaped rows done m' ∧
      ∀ t c, rowAt? rows.typeDefs row.type = some t → ReferenceAsks row.interface c → ¬ rows.EntersCircle c := by
  unfold addInterface
  split
  · next hnone =>
    refine ComesTo.pure ⟨hm, fun t c ht => ?_⟩
    rw [hnone] at ht
    cases ht
  next t ht =>
  refine (comesTo_referenced fun c hc hcircle => ⟨c, .interface hrow ht hc, hcircle⟩).bind fun found hfound => ?_
  split
  · next face => exact ComesTo.pure ⟨hm.modifyType fun _ => rfl, fun _ c _ hc => hfound c hc⟩
  · exact ComesTo.pure ⟨hm, fun _ c _ hc => hfound c hc⟩

theorem comesTo_setBase (hm : Shaped rows done m) (id : TypeId) {row : TypeDefRow} (hrow : row ∈ rows.typeDefs) :
    ComesTo rows (fun _ => rows.AsksForCircle) (setBase rows m id row) fun m' => Shaped rows done m' ∧
      ∀ c, ReferenceAsks row.base c → ¬ rows.EntersCircle c := by
  unfold setBase
  refine (comesTo_referenced fun c hc hcircle => ⟨c, .base hrow hc, hcircle⟩).bind fun found hfound => ?_
  exact ComesTo.pure ⟨hm.modifyType fun _ => rfl, hfound⟩

theorem exists_mem_zipIdx {α : Type} {l : List α} {a : α} (h : a ∈ l) : ∃ i, (a, i) ∈ l.zipIdx := by
  obtain ⟨i, hi⟩ := List.getElem?_of_mem h
  exact ⟨i, List.mem_zipIdx_iff_getElem?.2 hi⟩

/-- the types of a module are built from its rows unless one of the references to look up enters a circle -/
theorem comesTo_buildTypes (name : String) (rows : Metadata) (contents : Contents) :
    ComesTo rows (fun _ => rows.AsksForCircle) (buildTypes rows contents { Module.empty with name }) fun m =>
      Shaped rows rows.nestings m ∧ ¬ rows.AsksForCircle := by
  unfold buildTypes
  refine ComesTo.bind (ComesTo.foldlM (P := Shaped rows []) (fun m hm entry hentry =>
    comesTo_addMembers hm entry.2 (List.fst_mem_of_mem_zipIdx hentry)) (Shaped.definitions rows name)) fun m hmembers => ?_
  refine ComesTo.bind (ComesTo.foldlM (P := Shaped rows []) (fun m hm row hrow =>
    comesTo_addInterface hm hrow) hmembers.1) fun m hinterfaces => ?_
  refine ComesTo.imp (ComesTo.foldlM (P := Shaped rows rows.nestings) (fun m hm entry hentry =>
    comesTo_setBase hm entry.2 (List.fst_mem_of_mem_zipIdx hentry)) (hinterfaces.1.foldl_addNesting rows.nestings))
    (fun _ h => h) fun m hbases => ⟨hbases.1, ?_⟩
  -- each stage has looked at the references of all its rows, so that none of them is left to enter a circle
  rintro ⟨c, hasks, hcircle⟩
  cases hasks with
  | field hrow hnumber hc =>
    obtain ⟨i, hi⟩ := exists_mem_zipIdx hrow
    exact (hmembers.2 _ hi).1 _ hnumber c hc hcircle
  | method hrow hnumber hc =>
    obtain ⟨i, hi⟩ := exists_mem_zipIdx hrow
    exact (hmembers.2 _ hi).2 _ hnumber c hc hcircle
  | interface hrow ht hc => exact hinterfaces.2 _ hrow _ c ht hc hcircle
  | base hrow hc =>
    obtain ⟨i, hi⟩ := exists_mem_zipIdx hrow
    exact hbases.2 _ hi c hc hcircle

/-- the member that a row names has an answer, or a specification that it mentions stands for itself -/
theorem comesTo_buildMemberRef (number : Nat) (row : MemberRefRow) :
    ComesTo rows (fun _ => True) (buildMemberRef rows number row) fun _ => True := by
  unfold buildMemberRef
  refine (comesTo_referenced fun _ _ _ => trivial).bind fun parent _ => ?_
  dsimp only
  split
  · exact ComesTo.pure trivial
  split_ifs
  · exact ComesTo.pure trivial
  refine (comesTo_buildSignature row.signature fun _ _ _ => trivial).bind fun found _ => ?_
  split
  · exact ComesTo.pure trivial
  · exact ComesTo.pure trivial

/-- computations that fail for circles only have such failures among their outcomes -/
theorem typeSpec_of_outcomes {α : Type} {store : Store} {items : List (Resolving α)} {cause : TypeFault}
    (hstore : Known rows store) (hitems : ∀ item ∈ items, ∃ P, ComesTo rows (fun _ => True) item P)
    (h : .error cause ∈ outcomes store items) : ∃ row, cause = .typeSpec row := by
  rw [outcomes, List.mem_toArray] at h
  obtain ⟨item, hitem, heq⟩ := List.mem_map.1 h
  obtain ⟨P, hP⟩ := hitems item hitem
  rcases hP store hstore with ⟨a, store', hrun, -⟩ | ⟨row, hrun, -⟩
  · rw [hrun] at heq
    cases heq
  · rw [hrun] at heq
    cases heq
    exact ⟨row, rfl⟩

/-- a module that is built from rows: its shape, and why tokens may have no answer -/
structure Built (rows : Metadata) (m : Module) : Prop where
  shaped : Shaped rows rows.nestings m
  typeSpecs : ∀ cause, .error cause ∈ m.typeSpecs → ∃ row, cause = .typeSpec row
  memberReferences : ∀ cause, .error cause ∈ m.memberReferences → ∃ row, cause = .typeSpec row

/-- a module is built unless one of the references to look up enters a circle -/
theorem build_outcome (name : String) (rows : Metadata) (contents : Contents) :
    (rows.AsksForCircle ∧ ∃ row, build name rows contents = .error (.typeSpec row)) ∨
      ¬ rows.AsksForCircle ∧ ∃ m, build name rows contents = .ok m ∧ Built rows m := by
  have hempty : Known rows [] := by simp [Known]
  unfold build
  rcases comesTo_buildTypes name rows contents [] hempty with ⟨m, store, hm, hstore, hshaped, hno⟩ | ⟨row, hrow, hcircle⟩
  · refine .inr ⟨hno, _, by rw [hm]; rfl, ?_, fun cause hcause => ?_, fun cause hcause => ?_⟩
    · -- listing the definitions and filling in the tables that tokens lead to changes no definition and no member
      exact ⟨hshaped.size_eq, hshaped.outer_eq, hshaped.fields, hshaped.methods⟩
    · refine typeSpec_of_outcomes hstore (fun item hitem => ?_) hcause
      obtain ⟨place, -, rfl⟩ := List.mem_map.1 hitem
      exact ⟨_, (comesTo_specification rows (place + 1)).imp (fun _ _ => trivial) fun _ h => h⟩
    · refine typeSpec_of_outcomes hstore (fun item hitem => ?_) hcause
      obtain ⟨entry, -, rfl⟩ := List.mem_map.1 hitem
      exact ⟨_, comesTo_buildMemberRef (entry.2 + 1) entry.1⟩
  · exact .inl ⟨hcircle, row, by rw [hrow]; rfl⟩

end Module

end Unbundle
