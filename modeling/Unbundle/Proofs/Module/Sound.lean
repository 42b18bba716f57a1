import Unbundle.Proofs.Module.Nesting
/-
Modules in which every name that matching asks for exists.

A sound module is a graph as its own types promise it: chains of declaring types end, a parameter has a type, and no type is
missing inside of another one. A member without any type of its own is sound, for no test looks further into it.

Results:
- `Sound.typeName_ok`: a type without gaps has a full name.
- `Sound.isMethod_ok`: comparing the signature of a method with texts gives an answer.
-/
namespace Unbundle

mutual

/-- no type is missing in a type -/
def TypeSig.isWhole : TypeSig → Bool
  | .defined _ | .named _ _ | .param _ _ => true
  | .generic element arguments => element.isWhole && TypeSig.areWhole arguments
  | .derived element _ => element.isWhole
  | .absent => false

/-- no type is missing in any of some types -/
def TypeSig.areWhole : List TypeSig → Bool
  | [] => true
  | t :: rest => t.isWhole && TypeSig.areWhole rest

end

theorem TypeSig.areWhole_iff (ts : List TypeSig) : TypeSig.areWhole ts ↔ ∀ t ∈ ts, t.isWhole := by
  induction ts with
  | nil => simp [TypeSig.areWhole]
  | cons t rest ih => simp [TypeSig.areWhole, ih]

namespace Module

/-- chains of declaring types end, and no type is missing where a name is asked for -/
structure Sound (m : Module) : Prop where
  nesting : ∀ id, m.NestingEnds id
  fields : ∀ f ∈ m.fields, f.type.isPresent → f.type.isWhole
  returns : ∀ x ∈ m.methods, x.returns.isPresent → x.returns.isWhole
  parameters : ∀ x ∈ m.methods, ∀ t ∈ x.parameters, t.isWhole

variable {m : Module}

theorem mem_of_mem_fieldsOf {t : TypeDef} {f : Field} (h : f ∈ m.fieldsOf t) : f ∈ m.fields := by
  obtain ⟨place, -, hf⟩ := List.mem_filterMap.1 h
  exact Array.mem_of_getElem? hf

theorem mem_of_mem_methodsOf {t : TypeDef} {x : Method} (h : x ∈ m.methodsOf t) : x ∈ m.methods := by
  obtain ⟨place, -, hx⟩ := List.mem_filterMap.1 h
  exact Array.mem_of_getElem? hx

theorem mem_of_constructor? {t : TypeDef} {x : Method} (h : m.constructor? t = some x) : x ∈ m.methods :=
  mem_of_mem_methodsOf (List.mem_of_find?_eq_some h)

namespace Sound

mutual

/-- a type without gaps has a full name -/
theorem typeName_ok (h : m.Sound) : (t : TypeSig) → t.isWhole → ∃ name, m.typeName t = .ok name
  | .defined id, _ => by
    obtain ⟨name, hname⟩ := definitionName_of_nestingEnds (h.nesting id)
    exact ⟨name, by rw [typeName, hname]⟩
  | .named space name, _ => ⟨_, by rw [typeName]⟩
  | .param number ofMethod, _ => ⟨_, by rw [typeName]⟩
  | .generic element arguments, ht => by
    rw [TypeSig.isWhole, Bool.and_eq_true] at ht
    obtain ⟨outer, houter⟩ := typeName_ok h element ht.1
    obtain ⟨inner, hinner⟩ := typeNames_ok h arguments ht.2
    exact ⟨outer ++ "<" ++ ",".intercalate inner ++ ">", by rw [typeName, hinner, houter]; rfl⟩
  | .derived element suffix, ht => by
    rw [TypeSig.isWhole] at ht
    obtain ⟨name, hname⟩ := typeName_ok h element ht
    exact ⟨name ++ suffix, by rw [typeName, hname]; rfl⟩
  | .absent, ht => by simp [TypeSig.isWhole] at ht

/-- types without gaps have full names -/
theorem typeNames_ok (h : m.Sound) : (ts : List TypeSig) → TypeSig.areWhole ts → ∃ names, m.typeNames ts = .ok names
  | [], _ => ⟨[], by rw [typeNames]⟩
  | t :: rest, hts => by
    rw [TypeSig.areWhole, Bool.and_eq_true] at hts
    obtain ⟨name, hname⟩ := typeName_ok h t hts.1
    obtain ⟨names, hnames⟩ := typeNames_ok h rest hts.2
    exact ⟨name :: names, by rw [typeNames, hname, hnames]; rfl⟩

end

/-- comparing the signature of a method with texts gives an answer -/
theorem isMethod_ok (h : m.Sound) {x : Method} (hx : x ∈ m.methods) (returns parameters : String) :
    ∃ b, m.isMethod x returns parameters = .ok b := by
  unfold isMethod matchesSignature
  by_cases hp : x.returns.isPresent
  · obtain ⟨name, hname⟩ := h.typeName_ok x.returns (h.returns x hx hp)
    obtain ⟨names, hnames⟩ := h.typeNames_ok x.parameters ((TypeSig.areWhole_iff _).2 (h.parameters x hx))
    simp only [Option.filter_some, hp, if_true, hname, hnames]
    by_cases hr : name = returns
    · exact ⟨decide (parameterText names = parameters), by simp [hr, bind, Except.bind, pure, Except.pure]⟩
    · exact ⟨false, by simp [hr, bind, Except.bind, pure, Except.pure]⟩
  · exact ⟨false, by simp only [Option.filter_some, hp, Bool.false_eq_true, if_false]⟩

end Sound

end Module

end Unbundle
