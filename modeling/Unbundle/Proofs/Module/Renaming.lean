import Unbundle.Module.Tokens
import Unbundle.Proofs.Module.Familiar
import Unbundle.Proofs.Search
import Unbundle.Proofs.Signature.RoundTrip
/-
Modules that differ in names only.

A renaming gives every type definition, field and method of a module a new name of its own. What no name takes part in is the
same afterwards: members keep their types, and tokens keep what they stand for. Full names change, and with them the names of
generic, derived and nested types; but a comparison with a familiar text comes to the same, as long as the definitions have
ordinary names before and after.

Results:
- `Signature.hasSuffixes_of_type`: the types that signatures give have no other suffixes than those of pointers, references and
  arrays.
- `forall₂_fieldsOf`, `forall₂_methodsOf`, `definition?_rename`, `operandEntity?_rename`: what stays where it is.
- `agree_typeName`, `agree_typeNames`: no familiar text tells the names before from those after.
- `isMethod_rename`: a method has a familiar signature before exactly when it has it after.
-/
namespace Unbundle

/-! ## Types with suffixes as they are read -/

/-- the suffixes of the types that are built from another one -/
inductive IsSuffix : String → Prop
  | pointer : IsSuffix "*"
  | reference : IsSuffix "&"
  | array (rank : Nat) : IsSuffix (TypeSig.arraySuffix rank)

mutual

/-- the suffixes in a type are those of pointers, references and arrays -/
def TypeSig.HasSuffixes : TypeSig → Prop
  | .defined _ | .named _ _ | .param _ _ | .absent => True
  | .generic element arguments => element.HasSuffixes ∧ TypeSig.HaveSuffixes arguments
  | .derived element suffix => element.HasSuffixes ∧ IsSuffix suffix

/-- so they are in some types -/
def TypeSig.HaveSuffixes : List TypeSig → Prop
  | [] => True
  | t :: rest => t.HasSuffixes ∧ TypeSig.HaveSuffixes rest

end

theorem TypeSig.haveSuffixes_iff (ts : List TypeSig) : TypeSig.HaveSuffixes ts ↔ ∀ t ∈ ts, t.HasSuffixes := by
  induction ts with
  | nil => simp [TypeSig.HaveSuffixes]
  | cons t rest ih => simp [TypeSig.HaveSuffixes, ih]

theorem IsSuffix.exists_mark {suffix : String} (h : IsSuffix suffix) : ∃ c ∈ suffix.toList, c ∈ markChars := by
  cases h with
  | pointer => exact ⟨'*', by decide, by decide⟩
  | reference => exact ⟨'&', by decide, by decide⟩
  | array rank => exact ⟨'[', by rw [TypeSig.arraySuffix, String.toList_ofList]; exact List.mem_cons_self, by decide⟩

namespace Signature

theorem Mark.isSuffix (mark : Mark) : IsSuffix mark.suffix := by
  cases mark with
  | pointer => exact .pointer
  | byReference => exact .reference
  | vector => exact .array 1

theorem Spelling.hasSuffixes_type {answer : CodedType → Option TypeSig}
    (hanswer : ∀ target, ((answer target).getD target.unresolved).HasSuffixes) (s : Spelling) :
    (s.type answer).HasSuffixes := by
  induction s with
  | core | param | function => trivial
  | reference kind target => exact hanswer target.target
  | derived mark inner ih => exact ⟨ih, mark.isSuffix⟩
  | array inner shape ih => exact ⟨ih, .array shape.rank.value⟩
  | generic kind target count arguments ih =>
    refine ⟨hanswer target.target, (TypeSig.haveSuffixes_iff _).2 fun t ht => ?_⟩
    obtain ⟨i, -, rfl⟩ := List.mem_map.1 ht
    exact ih i
  | pinned inner ih => exact ih
  | modified modifier inner ih => exact ih

/-- a type that is read from a signature has no other suffixes, unless a type that it refers to has -/
theorem hasSuffixes_of_type {answer : CodedType → Option TypeSig} {form : Form} {c c' : Cursor}
    (hanswer : ∀ target t, answer target = some t → t.HasSuffixes) (h : Reader.type c = .ok form c') :
    (form.resolve answer).HasSuffixes := by
  obtain ⟨s, -, rfl⟩ := eq_of_takes takes_type passes_type h
  rw [s.resolve_form]
  refine s.hasSuffixes_type fun target => ?_
  cases htarget : answer target with
  | none => trivial
  | some t => exact hanswer target t htarget

end Signature

/-! ## Members under new names -/

/-- a definition under its old and its new name -/
def TypeDef.Twin (t t' : TypeDef) : Prop := ∃ name, t' = { t with name }

/-- a field under its old and its new name -/
def Field.Twin (f f' : Field) : Prop := f.type.HasSuffixes ∧ ∃ name, f' = { f with name }

/-- a method under its old and its new name, of which both or none are those of a constructor -/
def Method.Twin (x x' : Method) : Prop :=
  x.returns.HasSuffixes ∧ TypeSig.HaveSuffixes x.parameters ∧
    ∃ name, x' = { x with name } ∧ (name = ".ctor" ↔ x.name = ".ctor")

/-! ## Modules under new names -/

/-- new names for the definitions, fields and methods of a module -/
structure Renaming where
  type : TypeId → String
  field : FieldId → String
  method : MethodId → String

namespace Module

/-- the module under new names -/
def rename (m : Module) (ρ : Renaming) : Module :=
  { m with
    definitions := m.definitions.mapIdx fun id t => { t with name := ρ.type id }
    fields := m.fields.mapIdx fun id f => { f with name := ρ.field id }
    methods := m.methods.mapIdx fun id x => { x with name := ρ.method id } }

/-- no type that a member mentions has a suffix other than those of pointers, references and arrays -/
structure HasSuffixes (m : Module) : Prop where
  fields : ∀ f ∈ m.fields, f.type.HasSuffixes
  returns : ∀ x ∈ m.methods, x.returns.HasSuffixes
  parameters : ∀ x ∈ m.methods, TypeSig.HaveSuffixes x.parameters

/-- every definition that has a full name has an ordinary one -/
def HasOrdinaryNames (m : Module) : Prop :=
  ∀ id < m.definitions.size, ∀ name, m.definitionName id = .ok name → Ordinary name

end Module

/-- a renaming keeps the constructors, and definitions have ordinary names before and after it -/
structure Renaming.Neutral (ρ : Renaming) (m : Module) : Prop where
  constructors : ∀ id x, m.methods[id]? = some x → (ρ.method id = ".ctor" ↔ x.name = ".ctor")
  before : m.HasOrdinaryNames
  after : (m.rename ρ).HasOrdinaryNames

namespace Module

variable {m : Module} {ρ : Renaming}

theorem getElem?_definitions_rename (m : Module) (ρ : Renaming) (id : TypeId) :
    (m.rename ρ).definitions[id]? = (m.definitions[id]?).map fun t => { t with name := ρ.type id } := by
  rw [rename, Array.getElem?_mapIdx]

theorem rel_fields (hm : m.HasSuffixes) (ρ : Renaming) (id : FieldId) :
    Option.Rel Field.Twin m.fields[id]? (m.rename ρ).fields[id]? := by
  rw [rename, Array.getElem?_mapIdx]
  cases hf : m.fields[id]? with
  | none => exact .none
  | some f => exact .some ⟨hm.fields f (Array.mem_of_getElem? hf), ρ.field id, rfl⟩

theorem rel_methods (hm : m.HasSuffixes) (hρ : ρ.Neutral m) (id : MethodId) :
    Option.Rel Method.Twin m.methods[id]? (m.rename ρ).methods[id]? := by
  rw [rename, Array.getElem?_mapIdx]
  cases hx : m.methods[id]? with
  | none => exact .none
  | some x =>
    have hmem := Array.mem_of_getElem? hx
    exact .some ⟨hm.returns x hmem, hm.parameters x hmem, ρ.method id, rfl, hρ.constructors id x hx⟩

/-! ## Members of a definition -/

section

variable {t t' : TypeDef}

theorem forall₂_fieldsOf (hm : m.HasSuffixes) (ρ : Renaming) (ht : t.Twin t') :
    List.Forall₂ Field.Twin (m.fieldsOf t) ((m.rename ρ).fieldsOf t') := by
  obtain ⟨name, rfl⟩ := ht
  refine List.rel_filterMap (R := Eq) ?_ (List.forall₂_eq_eq_eq ▸ rfl)
  rintro id _ rfl
  exact rel_fields hm ρ id

theorem forall₂_methodsOf (hm : m.HasSuffixes) (hρ : ρ.Neutral m) (ht : t.Twin t') :
    List.Forall₂ Method.Twin (m.methodsOf t) ((m.rename ρ).methodsOf t') := by
  obtain ⟨name, rfl⟩ := ht
  refine List.rel_filterMap (R := Eq) ?_ (List.forall₂_eq_eq_eq ▸ rfl)
  rintro id _ rfl
  exact rel_methods hm hρ id

theorem rel_constructor? (hm : m.HasSuffixes) (hρ : ρ.Neutral m) (ht : t.Twin t') :
    Option.Rel Method.Twin (m.constructor? t) ((m.rename ρ).constructor? t') := by
  refine rel_find? (forall₂_methodsOf hm hρ ht) fun x x' hx => ?_
  obtain ⟨-, -, name, rfl, hname⟩ := hx
  exact decide_eq_decide.2 hname.symm

/-- the definition that a type is, under its new name -/
theorem definition?_rename (m : Module) (ρ : Renaming) (t : TypeSig) :
    (m.rename ρ).definition? t = (m.definition? t).map fun d => (d.1, { d.2 with name := ρ.type d.1 }) := by
  cases t with
  | defined id =>
    simp only [definition?, TypeSig.definition?, Option.bind_eq_bind, Option.bind_some, getElem?_definitions_rename]
    cases m.definitions[id]? <;> rfl
  | _ => rfl

end

/-! ## Tokens -/

theorem lastPlace?_mapIdx {α : Type} {p : α → Bool} {f : Nat → α → α} (hf : ∀ i a, p (f i a) = p a) (pool : Array α) :
    lastPlace? p (pool.mapIdx f) = lastPlace? p pool := by
  simp only [lastPlace?, Array.size_mapIdx, Array.getElem?_mapIdx, Option.any_map, hf]

theorem operandEntity?_rename (m : Module) (ρ : Renaming) (operand : Code.Operand) :
    (m.rename ρ).operandEntity? operand = m.operandEntity? operand := by
  cases operand with
  | token t =>
    have hmethods : lastPlace? (fun x : Method => decide (x.token = t)) (m.rename ρ).methods =
        lastPlace? (fun x => decide (x.token = t)) m.methods := by
      refine lastPlace?_mapIdx ?_ m.methods
      intro id x
      rfl
    have hfields : lastPlace? (fun f : Field => decide (f.token = t)) (m.rename ρ).fields =
        lastPlace? (fun f => decide (f.token = t)) m.fields := by
      refine lastPlace?_mapIdx ?_ m.fields
      intro id f
      rfl
    have hsize : (m.rename ρ).definitions.size = m.definitions.size := Array.size_mapIdx
    simp only [operandEntity?, entity?, hmethods, hfields, hsize]
    rfl
  | _ => rfl

/-! ## Full names -/

/-- the names of a definition before and after fail alike -/
theorem agree_definitionNameWithin (m : Module) (ρ : Renaming) (depth : Nat) (id : TypeId) :
    Agree (fun _ _ => True) (m.definitionNameWithin depth id) ((m.rename ρ).definitionNameWithin depth id) := by
  induction depth generalizing id with
  | zero => exact .error _
  | succ depth ih =>
    rw [definitionNameWithin, definitionNameWithin, getElem?_definitions_rename]
    cases m.definitions[id]? with
    | none => exact .ok trivial
    | some t =>
      simp only [Option.map_some]
      cases t.outer with
      | none => exact .ok trivial
      | some outer => exact (ih outer).bind fun _ _ _ => .ok trivial

theorem definitionName_of_size_le (m : Module) {id : TypeId} (h : m.definitions.size ≤ id) : m.definitionName id = .ok "" := by
  rw [definitionName, definitionNameWithin, Array.getElem?_eq_none h]

theorem agree_definitionName (hρ : ρ.Neutral m) (id : TypeId) :
    Agree Alike (m.definitionName id) ((m.rename ρ).definitionName id) := by
  have hsize : (m.rename ρ).definitions.size = m.definitions.size := Array.size_mapIdx
  rcases Nat.lt_or_ge id m.definitions.size with hid | hid
  · have hagree : Agree (fun _ _ => True) (m.definitionName id) ((m.rename ρ).definitionName id) := by
      rw [definitionName, definitionName, hsize]
      exact agree_definitionNameWithin m ρ _ id
    refine hagree.imp fun a b ha hb _ => ?_
    have hbefore := hρ.before id hid a ha
    have hafter := hρ.after id (hsize.symm ▸ hid) b hb
    exact .inr ⟨.inr hbefore, .inr hafter⟩
  · rw [definitionName_of_size_le m hid, definitionName_of_size_le _ (hsize.symm ▸ hid)]
    exact .ok (.inl rfl)

mutual

/-- no familiar text tells the full name of a type before from the one after -/
theorem agree_typeName (hρ : ρ.Neutral m) : (t : TypeSig) → t.HasSuffixes →
    Agree Alike (m.typeName t) ((m.rename ρ).typeName t)
  | .defined id, _ => by
    rw [typeName, typeName]
    exact agree_definitionName hρ id
  | .named space name, _ => by
    rw [typeName, typeName]
    exact .ok (.inl rfl)
  | .param number ofMethod, _ => by
    rw [typeName, typeName]
    exact .ok (.inl rfl)
  | .absent, _ => by
    rw [typeName, typeName]
    exact .error _
  | .generic element arguments, ht => by
    rw [TypeSig.HasSuffixes] at ht
    rw [typeName, typeName]
    refine (agree_typeNames hρ arguments ht.2).bind fun inner inner' _ => ?_
    refine (agree_typeName hρ element ht.1).bind fun outer outer' _ => .ok (.inr ?_)
    -- the opening bracket is there whatever the names are
    have hmark (a b : String) : Strange (a ++ "<" ++ b ++ ">") := by
      rw [String.append_assoc, String.append_assoc]
      refine strange_append_right ⟨'<', ?_, by decide⟩ a
      rw [String.toList_append]
      exact List.mem_append_left _ (by decide)
    exact ⟨hmark _ _, hmark _ _⟩
  | .derived element suffix, ht => by
    rw [TypeSig.HasSuffixes] at ht
    rw [typeName, typeName]
    refine (agree_typeName hρ element ht.1).bind fun name name' _ => .ok (.inr ?_)
    exact ⟨strange_append_right ht.2.exists_mark name, strange_append_right ht.2.exists_mark name'⟩

/-- nor does one tell the full names of some types -/
theorem agree_typeNames (hρ : ρ.Neutral m) : (ts : List TypeSig) → TypeSig.HaveSuffixes ts →
    Agree (List.Forall₂ Alike) (m.typeNames ts) ((m.rename ρ).typeNames ts)
  | [], _ => by
    rw [typeNames, typeNames]
    exact .ok .nil
  | t :: rest, hts => by
    rw [TypeSig.HaveSuffixes] at hts
    rw [typeNames, typeNames]
    refine (agree_typeName hρ t hts.1).bind fun name name' hname => ?_
    refine (agree_typeNames hρ rest hts.2).bind fun names names' hnames => ?_
    exact .ok (.cons hname hnames)

end

/-! ## Signatures -/

theorem parameterText_eq_iff {as bs : List String} (h : List.Forall₂ Alike as bs) {inner : String} (hinner : Familiar inner) :
    parameterText as = "(" ++ inner ++ ")" ↔ parameterText bs = "(" ++ inner ++ ")" := by
  simp only [parameterText, String.append_left_inj, String.append_right_inj]
  exact intercalate_eq_iff h hinner

/-- a method reads as two familiar texts before exactly when it does after -/
theorem isMethod_rename (hρ : ρ.Neutral m) {x x' : Method} (hx : x.Twin x') {returns inner : String}
    (hreturns : Familiar returns) (hinner : Familiar inner) :
    (m.rename ρ).isMethod x' returns ("(" ++ inner ++ ")") = m.isMethod x returns ("(" ++ inner ++ ")") := by
  obtain ⟨hresult, hparameters, name, rfl, -⟩ := hx
  unfold isMethod matchesSignature
  by_cases hpresent : x.returns.isPresent
  · simp only [Option.filter_some, hpresent, if_true]
    refine ((agree_typeName hρ x.returns hresult).bind_eq fun a b hab => ?_).symm
    simp only [ne_eq, hab.eq_iff hreturns]
    split_ifs
    · refine (agree_typeNames hρ x.parameters hparameters).bind_eq fun as bs habs => ?_
      simp only [parameterText_eq_iff habs hinner]
    · rfl
  · simp only [Option.filter_some, hpresent, Bool.false_eq_true, if_false]

end Module

end Unbundle
