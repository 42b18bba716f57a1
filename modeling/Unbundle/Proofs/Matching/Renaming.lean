import Unbundle.Matching.Shape
import Unbundle.Proofs.Module.Renaming
import Unbundle.Proofs.Matching.Reference
/-
Matching under new names.

Two runs of the matching are compared, one on a module and one on the same module under new names. Each test of the matching
comes to the same in both, for a definition, field or method and for the same one under its new name. Full names take part in
the tests only through comparisons with familiar texts.

Results:
- `isController_rename`, `managerAndInterface?_rename`, `parserAndElement?_rename`, `providerMadeBy?_rename`: the tests of one
  candidate.
- `find_rename`: the stages.
- `rolesOf_rename`: a renaming after which definitions still have ordinary names makes no difference to matching.
-/
namespace Unbundle.Matching

variable {m : Module} {ρ : Renaming} {t t' : TypeDef} {f f' : Field} {x x' : Method}

/-! ## Signatures -/

theorem takesAssembly_rename (hρ : ρ.Neutral m) (hx : x.Twin x') :
    takesAssembly (m.rename ρ) x' = takesAssembly m x :=
  Module.isMethod_rename hρ hx (familiar_of_mem (by decide)) (familiar_of_mem (by decide))

theorem mapsText_rename (hρ : ρ.Neutral m) (hx : x.Twin x') : mapsText (m.rename ρ) x' = mapsText m x :=
  Module.isMethod_rename hρ hx (familiar_of_mem (by decide)) (familiar_of_mem (by decide))

theorem takesAssemblyAndText_rename (hρ : ρ.Neutral m) (hx : x.Twin x') :
    takesAssemblyAndText (m.rename ρ) x' = takesAssemblyAndText m x := by
  have htext : "(" ++ assemblyType ++ "," ++ textType ++ ")" = "(" ++ ",".intercalate [assemblyType, textType] ++ ")" := by
    simp only [String.intercalate_cons_cons, String.intercalate_singleton, String.append_assoc]
  rw [takesAssemblyAndText, takesAssemblyAndText, htext]
  exact Module.isMethod_rename hρ hx (familiar_of_mem (by decide)) (familiar_intercalate (by decide))

theorem takesNothing_rename (hρ : ρ.Neutral m) (hx : x.Twin x') : takesNothing (m.rename ρ) x' = takesNothing m x := by
  have htext : "()" = "(" ++ ",".intercalate [] ++ ")" := by decide
  rw [takesNothing, takesNothing, htext]
  exact Module.isMethod_rename hρ hx (familiar_of_mem (by decide)) (familiar_intercalate (by decide))

/-! ## The controller -/

theorem agree_entryPoint? (hm : m.HasSuffixes) (hρ : ρ.Neutral m) (ht : t.Twin t') :
    Agree (Option.Rel Method.Twin) (entryPoint? m t) (entryPoint? (m.rename ρ) t') := by
  refine agree_findM? (Module.forall₂_methodsOf hm hρ ht) fun x x' hx => ?_
  rw [takesAssembly_rename hρ hx]
  obtain ⟨-, -, name, rfl, -⟩ := hx
  rfl

theorem agree_fileNameMethod? (hm : m.HasSuffixes) (hρ : ρ.Neutral m) (ht : t.Twin t') :
    Agree (Option.Rel Method.Twin) (fileNameMethod? m t) (fileNameMethod? (m.rename ρ) t') := by
  refine agree_findM? (Module.forall₂_methodsOf hm hρ ht) fun x x' hx => ?_
  rw [mapsText_rename hρ hx]
  obtain ⟨-, -, name, rfl, -⟩ := hx
  rfl

theorem isSome_eq_of_rel {α β : Type} {R : α → β → Prop} {a : Option α} {b : Option β} (h : Option.Rel R a b) :
    a.isSome = b.isSome := by
  cases h <;> rfl

theorem isController_rename (hm : m.HasSuffixes) (hρ : ρ.Neutral m) (ht : t.Twin t') :
    isController (m.rename ρ) t' = isController m t := by
  have hfields := (Module.forall₂_fieldsOf hm ρ ht).length_eq
  have hspace : t'.space = t.space := by
    obtain ⟨name, rfl⟩ := ht
    rfl
  unfold isController
  rw [hspace, ← hfields]
  split_ifs
  · rfl
  rcases cases_of_rel (Module.rel_constructor? hm hρ ht) with ⟨hnone, hnone'⟩ | ⟨x, x', hx, hx', htwin⟩
  · rw [hnone, hnone']
  have haccess : x'.access = x.access := by
    obtain ⟨-, -, name, rfl, -⟩ := htwin
    rfl
  simp only [hx, hx', haccess, takesAssembly_rename hρ htwin]
  split_ifs
  · rfl
  cases takesAssembly m x with
  | error cause => rfl
  | ok takes =>
    simp only [ok_bind]
    split_ifs
    · rfl
    refine ((agree_entryPoint? hm hρ ht).bind_eq fun entry entry' hentry => ?_).symm
    rw [← Option.not_isSome, ← Option.not_isSome, isSome_eq_of_rel hentry]
    split_ifs
    · rfl
    refine (agree_fileNameMethod? hm hρ ht).bind_eq fun name name' hname => ?_
    rw [isSome_eq_of_rel hname]

theorem controller?_rename (hm : m.HasSuffixes) (hρ : ρ.Neutral m) : controller? (m.rename ρ) = controller? m := by
  have hat (id : TypeId) : isControllerAt (m.rename ρ) id = isControllerAt m id := by
    unfold isControllerAt
    rw [Module.getElem?_definitions_rename]
    cases m.definitions[id]? with
    | none => rfl
    | some t => exact isController_rename hm hρ ⟨_, rfl⟩
  rw [controller?, controller?, funext hat]
  rfl

/-! ## The types after it -/

theorem managerAndInterface?_rename (hm : m.HasSuffixes) (hρ : ρ.Neutral m) (controller : TypeId) (hf : f.Twin f') :
    managerAndInterface? (m.rename ρ) controller f' = managerAndInterface? m controller f := by
  obtain ⟨-, name, rfl⟩ := hf
  unfold managerAndInterface?
  simp only [Option.bind_eq_bind, Module.definition?_rename]
  cases m.definition? f.type with
  | none => rfl
  | some found =>
    obtain ⟨id, t⟩ := found
    have ht : t.Twin { t with name := ρ.type id } := ⟨_, rfl⟩
    simp only [Option.map_some, Option.bind_some, ← (Module.forall₂_fieldsOf hm ρ ht).length_eq]
    rcases cases_of_rel (Module.rel_constructor? hm hρ ht) with ⟨hnone, hnone'⟩ | ⟨x, x', hx, hx', -, -, n, rfl, -⟩
    · simp only [hnone, hnone', Option.bind_none]
    · simp only [hx, hx', Option.bind_some]
      split
      · next second _ => cases m.definition? second <;> rfl
      · rfl

theorem listElement?_rename (hρ : ρ.Neutral m) {t : TypeSig} (ht : t.HasSuffixes) :
    listElement? (m.rename ρ) t = listElement? m t := by
  have same {α : Type} {element : TypeSig} {arguments : List TypeSig} (heq : t = .generic element arguments)
      {g g' : String → Except TypeFault α} (hg : ∀ a b, Alike a b → g a = g' b) :
      ((m.rename ρ).typeName element >>= g') = (m.typeName element >>= g) := by
    subst heq
    rw [TypeSig.HasSuffixes] at ht
    exact ((Module.agree_typeName hρ element ht.1).bind_eq hg).symm
  unfold listElement?
  split
  · next element entry =>
    refine same rfl fun a b hab => ?_
    have hlist : (a = listType) = (b = listType) := propext (hab.eq_iff (familiar_of_mem (by decide)))
    simp only [hlist]
  · exact same rfl fun _ _ _ => rfl
  · rfl

theorem parserAndElement?_rename (hm : m.HasSuffixes) (hρ : ρ.Neutral m) (hf : f.Twin f') :
    parserAndElement? (m.rename ρ) f' = parserAndElement? m f := by
  obtain ⟨-, name, rfl⟩ := hf
  unfold parserAndElement?
  simp only [Module.definition?_rename]
  cases m.definition? f.type with
  | none => rfl
  | some found =>
    obtain ⟨id, t⟩ := found
    have ht : t.Twin { t with name := ρ.type id } := ⟨_, rfl⟩
    have hinterface : TypeDef.isInterface { t with name := ρ.type id } = t.isInterface := rfl
    simp only [Option.map_some, hinterface]
    split_ifs
    · rfl
    rcases cases_of_rel (Module.rel_constructor? hm hρ ht) with ⟨hnone, hnone'⟩ | ⟨x, x', hx, hx', htwin⟩
    · simp only [hnone, hnone']
    simp only [hx, hx', takesNothing_rename hρ htwin]
    cases takesNothing m x with
    | error cause => rfl
    | ok takes =>
      simp only [ok_bind]
      split_ifs
      · rfl
      have hfields := Module.forall₂_fieldsOf hm ρ ht
      revert hfields
      generalize m.fieldsOf t = fields
      generalize (m.rename ρ).fieldsOf { t with name := ρ.type id } = fields'
      intro hfields
      cases hfields with
      | nil => rfl
      | cons hfirst hrest =>
        cases hrest with
        | nil =>
          obtain ⟨hsuffixes, n, rfl⟩ := hfirst
          simp only [listElement?_rename hρ hsuffixes]
        | cons => rfl

theorem provider?_rename (hρ : ρ.Neutral m) (manager face : TypeId) (hx : x.Twin x') :
    provider? (m.rename ρ) manager face x' = provider? m manager face x := by
  have hsame := takesAssemblyAndText_rename hρ hx
  have howner : x'.owner = x.owner := by
    obtain ⟨-, -, name, rfl, -⟩ := hx
    rfl
  unfold provider?
  rw [howner]
  cases x.owner with
  | none => rfl
  | some id =>
    simp only [hsame, Module.getElem?_definitions_rename, Option.map_map]
    rfl

theorem providerMadeBy?_rename (hm : m.HasSuffixes) (hρ : ρ.Neutral m) (manager face : TypeId) (i : Code.Instruction) :
    providerMadeBy? (m.rename ρ) manager face i = providerMadeBy? m manager face i := by
  unfold providerMadeBy?
  rw [Module.operandEntity?_rename]
  cases m.operandEntity? i.operand with
  | error cause => rfl
  | ok entity =>
    simp only [ok_bind]
    split
    · next id =>
      split_ifs
      · rfl
      rcases cases_of_rel (Module.rel_methods hm hρ id) with ⟨hnone, hnone'⟩ | ⟨x, x', hx, hx', htwin⟩
      · simp only [hnone, hnone']
      · simp only [hx, hx', provider?_rename hρ manager face htwin]
    · rfl

/-! ## The stages -/

theorem forall₂_fieldsAt (hm : m.HasSuffixes) (ρ : Renaming) (id : Option TypeId) :
    List.Forall₂ Field.Twin (fieldsAt m id) (fieldsAt (m.rename ρ) id) := by
  cases id with
  | none => exact .nil
  | some id =>
    simp only [fieldsAt, Option.bind_some, Module.getElem?_definitions_rename]
    cases m.definitions[id]? with
    | none => exact .nil
    | some t => exact Module.forall₂_fieldsOf hm ρ ⟨_, rfl⟩

/-- a stage finds the same types -/
theorem find_rename (hm : m.HasSuffixes) (hρ : ρ.Neutral m) (r : Roles) (s : Stage) :
    s.find (m.rename ρ) r = s.find m r := by
  cases s with
  | manager =>
    simp only [Stage.find]
    cases r.controller with
    | none => rfl
    | some c =>
      have hsearch := findSome?_eq (forall₂_fieldsAt hm ρ (some c)) fun f f' hf =>
        (managerAndInterface?_rename hm hρ c hf).symm
      rw [fieldsAt_some, fieldsAt_some] at hsearch
      simp only [hsearch]
  | parser =>
    simp only [Stage.find]
    cases r.manager with
    | none => rfl
    | some g =>
      have hsearch := findSomeM?_eq (forall₂_fieldsAt hm ρ (some g)) fun f f' hf =>
        (parserAndElement?_rename hm hρ hf).symm
      rw [fieldsAt_some, fieldsAt_some] at hsearch
      simp only [hsearch]
  | provider =>
    simp only [Stage.find]
    split
    · next c g face _ _ _ =>
      simp only [Module.getElem?_definitions_rename]
      cases m.definitions[c]? with
      | none => rfl
      | some t =>
        simp only [Option.map_some, Option.bind_some]
        have ht : t.Twin { t with name := ρ.type c } := ⟨_, rfl⟩
        rcases cases_of_rel (Module.rel_constructor? hm hρ ht) with ⟨hnone, hnone'⟩ | ⟨x, x', hx, hx', htwin⟩
        · simp only [hnone, hnone']
        have hcode : x'.code = x.code := by
          obtain ⟨-, -, name, rfl, -⟩ := htwin
          rfl
        have hmade : providerMadeBy? (m.rename ρ) g face = providerMadeBy? m g face :=
          funext fun i => providerMadeBy?_rename hm hρ g face i
        simp only [hx, hx', takesAssembly_rename hρ htwin, hcode, hmade]
    · rfl

theorem runStages_rename (hm : m.HasSuffixes) (hρ : ρ.Neutral m) (r : Roles) :
    runStages (m.rename ρ) r = runStages m r := by
  have hrun : Stage.run (m.rename ρ) = Stage.run m := by
    funext r s
    rw [Stage.run, Stage.run, find_rename hm hρ]
  rw [runStages, runStages, hrun]

/-- **Matching goes by shape and not by names.** New names for definitions, fields and methods make no difference to the roles,
as long as the same methods are constructors and the definitions have ordinary names before and after. -/
theorem rolesOf_rename (m : Module) (ρ : Renaming) (hm : m.HasSuffixes) (hρ : ρ.Neutral m) :
    rolesOf (m.rename ρ) = rolesOf m := by
  rw [rolesOf, rolesOf, controller?_rename hm hρ]
  cases controller? m with
  | error cause => rfl
  | ok found =>
    cases found with
    | none => rfl
    | some id => simp only [runStages_rename hm hρ]

/-- names that are all the same, except that constructors keep theirs -/
def sameNames : Renaming where
  type _ := "T"
  field _ := "f"
  method id := if id ∈ [0, 3, 4, 5] then ".ctor" else "f"

theorem ordinary_letters : ∀ name ∈ ["A", "B", "C", "D", "E", "F", "T"], Ordinary name := by
  have hletters : ∀ name ∈ ["A", "B", "C", "D", "E", "F", "T"],
      name ≠ "" ∧ ',' ∉ name.toList ∧ name ∉ familiarNames := by decide
  intro name hname
  obtain ⟨hnonempty, hcomma, hunfamiliar⟩ := hletters name hname
  exact ⟨hnonempty, hcomma, hunfamiliar⟩

theorem askingRuntime_hasSuffixes : (askingRuntime #[.ok none]).HasSuffixes where
  fields := by simp [askingRuntime, TypeSig.HasSuffixes, TypeSig.HaveSuffixes]
  returns := by simp [askingRuntime, TypeSig.HasSuffixes]
  parameters := by simp [askingRuntime, TypeSig.HasSuffixes, TypeSig.HaveSuffixes]

theorem sameNames_neutral : sameNames.Neutral (askingRuntime #[.ok none]) where
  constructors := by
    have hall : ∀ id < 6, ∀ x ∈ (askingRuntime #[.ok none]).methods[id]?,
        (sameNames.method id = ".ctor" ↔ x.name = ".ctor") := by decide
    intro id x hx
    exact hall id (Array.getElem?_eq_some_iff.1 hx).1 x hx
  before := by
    have hall : ∀ id < 6, ∃ name ∈ ["A", "B", "C", "D", "E", "F", "T"],
        (askingRuntime #[.ok none]).definitionName id = .ok name := by decide
    intro id hid name hname
    obtain ⟨letter, hmem, hletter⟩ := hall id hid
    rw [hletter] at hname
    cases hname
    exact ordinary_letters _ hmem
  after := by
    have hall : ∀ id < 6, ∃ name ∈ ["A", "B", "C", "D", "E", "F", "T"],
        ((askingRuntime #[.ok none]).rename sameNames).definitionName id = .ok name := by decide
    intro id hid name hname
    obtain ⟨letter, hmem, hletter⟩ := hall id hid
    rw [hletter] at hname
    cases hname
    exact ordinary_letters _ hmem

/-- six types that are all called the same are found like those of six names -/
theorem rolesOf_rename_sameNames :
    rolesOf ((askingRuntime #[.ok none]).rename sameNames) = rolesOf (askingRuntime #[.ok none]) ∧
      rolesOf (askingRuntime #[.ok none]) = .ok ⟨some 0, some 1, some 2, some 3, some 4, some 5⟩ :=
  ⟨rolesOf_rename _ _ askingRuntime_hasSuffixes sameNames_neutral, by decide +kernel⟩

end Unbundle.Matching
