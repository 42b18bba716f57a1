import Unbundle.Module.Build
import Unbundle.Proofs.Module.Specifications
/-
What every step of building a module keeps.

`Linked rows m` is the invariant: the definitions of `m` are those of the rows, as far as a row says what a definition is; every
member that a definition lists is there and knows the definition, and every member that is there is listed by the definition
that it knows; no type in a member, an interface or a base mentions a definition that is not there.

Results:
- `Owned.push`, `Owned.modify`: what adding a member and changing a definition keep.
- `Linked.addField`, `Linked.addMethod`, `Linked.modifyType`: the three ways in which building changes a module.
- `answers_buildTypes`: without circles of specifications the types of a module are built, and the module is linked.
-/
namespace Unbundle.Module

open Metadata Signature

/-! ## Adding members -/

section

variable (m : Module) (id : TypeId) (f : Field) (x : Method)

theorem definitions_addField : (m.addField id f).definitions =
    m.definitions.modify id fun t => { t with fields := t.fields ++ [m.fields.size] } := rfl

theorem fields_addField : (m.addField id f).fields = m.fields.push { f with owner := some id } := rfl

theorem methods_addField : (m.addField id f).methods = m.methods := rfl

theorem definitions_addMethod : (m.addMethod id x).definitions =
    m.definitions.modify id fun t => { t with methods := t.methods ++ [m.methods.size] } := rfl

theorem methods_addMethod : (m.addMethod id x).methods = m.methods.push { x with owner := some id } := rfl

theorem fields_addMethod : (m.addMethod id x).fields = m.fields := rfl

end

/-! ## Members and their definitions -/

/-- members and the definitions that list them know each other -/
structure Owned {α : Type} (definitions : Array TypeDef) (listed : TypeDef → List Nat) (pool : Array α)
    (owner : α → Option TypeId) : Prop where
  owner_eq : ∀ id t, definitions[id]? = some t → ∀ place ∈ listed t, ∃ x, pool[place]? = some x ∧ owner x = some id
  exists_lister : ∀ place x, pool[place]? = some x →
    ∃ id t, owner x = some id ∧ definitions[id]? = some t ∧ place ∈ listed t

namespace Owned

variable {α : Type} {definitions : Array TypeDef} {listed : TypeDef → List Nat} {pool : Array α}
  {owner : α → Option TypeId} {id : TypeId} {change : TypeDef → TypeDef}

/-- a definition that lists one more member, the one that is added -/
theorem push (h : Owned definitions listed pool owner) (hid : id < definitions.size) {x : α} (hx : owner x = some id)
    (hchange : ∀ t, listed (change t) = listed t ++ [pool.size]) :
    Owned (definitions.modify id change) listed (pool.push x) owner where
  owner_eq i t ht place hplace := by
    rw [Array.getElem?_modify] at ht
    -- the members that were there before keep their places
    have hold : ∀ t', definitions[i]? = some t' → place ∈ listed t' →
        ∃ y, (pool.push x)[place]? = some y ∧ owner y = some i := fun t' ht' hmem => by
      obtain ⟨y, hy, howner⟩ := h.owner_eq i t' ht' place hmem
      have hlt := (Array.getElem?_eq_some_iff.1 hy).1
      exact ⟨y, by rw [Array.getElem?_push, if_neg (Nat.ne_of_lt hlt), hy], howner⟩
    split_ifs at ht with hi
    · obtain ⟨t', ht', rfl⟩ := Option.map_eq_some_iff.1 ht
      rw [hchange] at hplace
      rcases List.mem_append.1 hplace with hmem | hnew
      · exact hold t' ht' hmem
      · rw [List.mem_singleton.1 hnew, ← hi]
        exact ⟨x, by rw [Array.getElem?_push, if_pos rfl], hx⟩
    · exact hold t ht hplace
  exists_lister place y hy := by
    rw [Array.getElem?_push] at hy
    split_ifs at hy with hplace
    · cases hy
      obtain ⟨t, ht⟩ : ∃ t, definitions[id]? = some t := ⟨_, Array.getElem?_eq_getElem hid⟩
      refine ⟨id, change t, hx, by rw [Array.getElem?_modify, if_pos rfl, ht]; rfl, ?_⟩
      rw [hchange, hplace]
      exact List.mem_append_right _ (List.mem_singleton_self _)
    · obtain ⟨i, t, howner, ht, hmem⟩ := h.exists_lister place y hy
      by_cases hi : id = i
      · refine ⟨i, change t, howner, by rw [Array.getElem?_modify, if_pos hi, ht]; rfl, ?_⟩
        rw [hchange]
        exact List.mem_append_left _ hmem
      · exact ⟨i, t, howner, by rw [Array.getElem?_modify, if_neg hi, ht], hmem⟩

/-- a definition that lists the same members as before -/
theorem modify (h : Owned definitions listed pool owner) (hchange : ∀ t, listed (change t) = listed t) :
    Owned (definitions.modify id change) listed pool owner where
  owner_eq i t ht place hplace := by
    rw [Array.getElem?_modify] at ht
    split_ifs at ht
    · obtain ⟨t', ht', rfl⟩ := Option.map_eq_some_iff.1 ht
      rw [hchange] at hplace
      exact h.owner_eq i t' ht' place hplace
    · exact h.owner_eq i t ht place hplace
  exists_lister place y hy := by
    obtain ⟨i, t, howner, ht, hmem⟩ := h.exists_lister place y hy
    by_cases hi : id = i
    · refine ⟨i, change t, howner, by rw [Array.getElem?_modify, if_pos hi, ht]; rfl, ?_⟩
      rwa [hchange]
    · exact ⟨i, t, howner, by rw [Array.getElem?_modify, if_neg hi, ht], hmem⟩

end Owned

/-! ## The invariant -/

variable {rows : Metadata}

/-- a definition is what its row says, and the types around it mention only definitions of the table -/
structure Describes (rows : Metadata) (id : TypeId) (t : TypeDef) : Prop where
  row : ∃ row, rows.typeDefs[id]? = some row ∧ t.space = row.space ∧ t.name = row.name ∧ t.flags = row.flags
  token : t.token = Table.token Table.typeDef (id + 1)
  interfaces : ∀ face ∈ t.interfaces, face.Within rows.typeDefs.length
  base : ∀ base ∈ t.base, base.Within rows.typeDefs.length
  outer : ∀ outer ∈ t.outer, outer < rows.typeDefs.length

/-- the types of a method mention only definitions below `n` -/
def SignatureWithin (n : Nat) (x : Method) : Prop := x.returns.Within n ∧ ∀ t ∈ x.parameters, t.Within n

/-- the definitions and members of a module, as far as it is built from rows -/
structure Linked (rows : Metadata) (m : Module) : Prop where
  size_eq : m.definitions.size = rows.typeDefs.length
  describes : ∀ id t, m.definitions[id]? = some t → Describes rows id t
  fields : Owned m.definitions TypeDef.fields m.fields Field.owner
  methods : Owned m.definitions TypeDef.methods m.methods Method.owner
  fieldTypes : ∀ f ∈ m.fields, f.type.Within rows.typeDefs.length
  methodTypes : ∀ x ∈ m.methods, SignatureWithin rows.typeDefs.length x

namespace Linked

variable {m : Module} {id : TypeId}

theorem describes_modify (h : Linked rows m) {change : TypeDef → TypeDef}
    (hchange : ∀ t, Describes rows id t → Describes rows id (change t)) (i : TypeId) (t : TypeDef)
    (ht : (m.definitions.modify id change)[i]? = some t) : Describes rows i t := by
  rw [Array.getElem?_modify] at ht
  split_ifs at ht with hi
  · obtain ⟨t', ht', rfl⟩ := Option.map_eq_some_iff.1 ht
    subst hi
    exact hchange t' (h.describes _ t' ht')
  · exact h.describes i t ht

theorem modifyType (h : Linked rows m) {change : TypeDef → TypeDef}
    (hchange : ∀ t, Describes rows id t → Describes rows id (change t)) (hfields : ∀ t, (change t).fields = t.fields)
    (hmethods : ∀ t, (change t).methods = t.methods) : Linked rows (m.modifyType id change) where
  size_eq := by rw [Module.modifyType, Array.size_modify, h.size_eq]
  describes := h.describes_modify hchange
  fields := h.fields.modify hfields
  methods := h.methods.modify hmethods
  fieldTypes := h.fieldTypes
  methodTypes := h.methodTypes

theorem addField (h : Linked rows m) (hid : id < rows.typeDefs.length) {f : Field}
    (hf : f.type.Within rows.typeDefs.length) : Linked rows (m.addField id f) where
  size_eq := by rw [definitions_addField, Array.size_modify, h.size_eq]
  describes := h.describes_modify fun t ht => ⟨ht.row, ht.token, ht.interfaces, ht.base, ht.outer⟩
  fields := by
    rw [definitions_addField, fields_addField]
    exact h.fields.push (by rwa [h.size_eq]) rfl fun _ => rfl
  methods := by
    rw [definitions_addField, methods_addField]
    exact h.methods.modify fun _ => rfl
  fieldTypes g hg := by
    rcases Array.mem_push.1 hg with hold | rfl
    · exact h.fieldTypes g hold
    · exact hf
  methodTypes := h.methodTypes

theorem addMethod (h : Linked rows m) (hid : id < rows.typeDefs.length) {x : Method}
    (hx : SignatureWithin rows.typeDefs.length x) : Linked rows (m.addMethod id x) where
  size_eq := by rw [definitions_addMethod, Array.size_modify, h.size_eq]
  describes := h.describes_modify fun t ht => ⟨ht.row, ht.token, ht.interfaces, ht.base, ht.outer⟩
  fields := by
    rw [definitions_addMethod, fields_addMethod]
    exact h.fields.modify fun _ => rfl
  methods := by
    rw [definitions_addMethod, methods_addMethod]
    exact h.methods.push (by rwa [h.size_eq]) rfl fun _ => rfl
  fieldTypes := h.fieldTypes
  methodTypes y hy := by
    rcases Array.mem_push.1 hy with hold | rfl
    · exact h.methodTypes y hold
    · exact hx

end Linked

/-! ## The steps of building -/

variable {contents : Contents} {m : Module} {id : TypeId}

theorem answers_buildField (h : rows.Acyclic) (number : Nat) (row : FieldRow) :
    Answers rows.typeDefs.length (buildField rows number row) fun f => f.type.Within rows.typeDefs.length := by
  unfold buildField
  refine (answers_readWith Reader.field fun b _ => answers_specification h b).bind fun ⟨result, answer⟩ hr => ?_
  refine Answers.pure ?_
  cases result with
  | ok form => exact Form.within_resolve hr.2 form
  | error cause => exact TypeSig.within_named _ _ _

theorem answers_buildSignature (h : rows.Acyclic) (signature : Bytes) :
    Answers rows.typeDefs.length (buildSignature rows signature) fun found => ∀ s ∈ found,
      s.1.Within rows.typeDefs.length ∧ ∀ t ∈ s.2, t.Within rows.typeDefs.length := by
  unfold buildSignature
  refine (answers_readWith Reader.method fun b _ => answers_specification h b).bind fun ⟨result, answer⟩ hr => ?_
  cases result with
  | ok form =>
    refine Answers.pure fun s hs => ?_
    cases hs
    refine ⟨Form.within_resolve hr.2 form.returns, fun t ht => ?_⟩
    obtain ⟨parameter, -, rfl⟩ := List.mem_map.1 ht
    exact Form.within_resolve hr.2 parameter
  | error cause => exact Answers.pure (by simp)

theorem answers_buildMethod (h : rows.Acyclic) (contents : Contents) (number : Nat) (row : MethodRow) :
    Answers rows.typeDefs.length (buildMethod rows contents number row) (SignatureWithin rows.typeDefs.length) := by
  unfold buildMethod
  refine (answers_buildSignature h row.signature).bind fun found hfound => Answers.pure ?_
  cases found with
  | none => exact ⟨TypeSig.within_named _ _ _, by simp⟩
  | some s => exact hfound s rfl

theorem answers_addMembers (h : rows.Acyclic) (hm : Linked rows m) (hid : id < rows.typeDefs.length) (row : TypeDefRow) :
    Answers rows.typeDefs.length (addMembers rows contents m id row) (Linked rows) := by
  unfold addMembers
  refine Answers.bind (P := Linked rows) (Answers.foldlM (fun m hm number _ => ?_) hm) fun m hm =>
    Answers.foldlM (fun m hm number _ => ?_) hm
  · split
    · next f _ => exact (answers_buildField h number f).bind fun f hf => Answers.pure (hm.addField hid hf)
    · exact Answers.pure hm
  · split
    · next x _ => exact (answers_buildMethod h contents number x).bind fun x hx => Answers.pure (hm.addMethod hid hx)
    · exact Answers.pure hm

theorem answers_addInterface (h : rows.Acyclic) (hm : Linked rows m) (row : InterfaceRow) :
    Answers rows.typeDefs.length (addInterface rows m row) (Linked rows) := by
  unfold addInterface
  split
  · exact Answers.pure hm
  refine (answers_referenced h row.interface).bind fun found hfound => ?_
  split
  · next face =>
    refine Answers.pure (hm.modifyType (fun t ht => ⟨ht.row, ht.token, fun other hother => ?_, ht.base, ht.outer⟩)
      (fun _ => rfl) fun _ => rfl)
    rcases List.mem_append.1 hother with hold | hnew
    · exact ht.interfaces other hold
    · rw [List.mem_singleton.1 hnew]
      exact hfound face rfl
  · exact Answers.pure hm

theorem linked_addNesting (hm : Linked rows m) (row : NestingRow) : Linked rows (addNesting rows m row) := by
  unfold addNesting
  split
  · next houter =>
    refine hm.modifyType (fun t ht => ⟨ht.row, ht.token, ht.interfaces, ht.base, fun outer h => ?_⟩)
      (fun _ => rfl) fun _ => rfl
    cases h
    obtain ⟨hpos, hle⟩ := le_of_rowAt? houter
    exact Nat.sub_one_lt_of_le hpos hle
  · exact hm

theorem answers_setBase (h : rows.Acyclic) (hm : Linked rows m) (row : TypeDefRow) :
    Answers rows.typeDefs.length (setBase rows m id row) (Linked rows) := by
  unfold setBase
  refine (answers_referenced h row.base).bind fun base hbase => Answers.pure ?_
  exact hm.modifyType (fun t ht => ⟨ht.row, ht.token, ht.interfaces, hbase, ht.outer⟩) (fun _ => rfl) fun _ => rfl

/-- the definitions of the rows without members are linked -/
theorem linked_definitions (rows : Metadata) (name : String) :
    Linked rows { Module.empty with
      name, definitions := (rows.typeDefs.zipIdx.map fun (row, id) => buildDefinition (id + 1) row).toArray } where
  size_eq := by simp
  describes id t ht := by
    simp only [List.getElem?_toArray, List.getElem?_map, List.getElem?_zipIdx, Option.map_map] at ht
    obtain ⟨row, hrow, rfl⟩ := Option.map_eq_some_iff.1 ht
    refine ⟨⟨row, hrow, rfl, rfl, rfl⟩, ?_, by simp [buildDefinition], by simp [buildDefinition], by simp [buildDefinition]⟩
    simp [buildDefinition]
  fields := {
    owner_eq := fun id t ht place hplace => by
      simp only [List.getElem?_toArray, List.getElem?_map, Option.map_eq_some_iff] at ht
      obtain ⟨row, -, rfl⟩ := ht
      simp [buildDefinition] at hplace
    exists_lister := fun place x hx => by simp [Module.empty] at hx }
  methods := {
    owner_eq := fun id t ht place hplace => by
      simp only [List.getElem?_toArray, List.getElem?_map, Option.map_eq_some_iff] at ht
      obtain ⟨row, -, rfl⟩ := ht
      simp [buildDefinition] at hplace
    exists_lister := fun place x hx => by simp [Module.empty] at hx }
  fieldTypes := by simp [Module.empty]
  methodTypes := by simp [Module.empty]

theorem lt_of_mem_zipIdx {α : Type} {l : List α} {a : α} {i : Nat} (h : (a, i) ∈ l.zipIdx) : i < l.length := by
  have := List.mem_zipIdx h
  omega

/-- without circles of specifications the types of a module are built, and the module is linked -/
theorem answers_buildTypes (h : rows.Acyclic) (contents : Contents) (name : String) :
    Answers rows.typeDefs.length (buildTypes rows contents { Module.empty with name }) (Linked rows) := by
  unfold buildTypes
  refine Answers.bind (P := Linked rows) (Answers.foldlM (fun m hm entry hentry => ?_) (linked_definitions rows name))
    fun m hm => Answers.bind (P := Linked rows) (Answers.foldlM (fun m hm row _ => ?_) hm) fun m hm =>
    Answers.foldlM (fun m hm entry _ => ?_) ?_
  · exact answers_addMembers h hm (lt_of_mem_zipIdx hentry) entry.1
  · exact answers_addInterface h hm row
  · exact answers_setBase h hm entry.1
  · induction rows.nestings generalizing m with
    | nil => exact hm
    | cons row rest ih => exact ih _ (linked_addNesting hm row)

end Unbundle.Module
