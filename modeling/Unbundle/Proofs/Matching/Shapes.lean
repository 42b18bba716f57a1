import Unbundle.Matching.Shape
import Unbundle.Proofs.Module.Sound
import Unbundle.Proofs.Outcome
import Unbundle.Proofs.Search
/-
The shapes of a bundle's runtime types, told by what holds of them.

Each shape is a predicate over the graph. It mentions no search and no order of tests: those belong to the functions that look
for the shape.

Results, for each function that tests one candidate:
- `isController_spec`, `managerAndInterface?_eq_some_iff`, `parserAndElement?_eq_some_iff`, `providerMadeBy?_eq_some_iff`:
  the candidate is taken exactly when it has the shape.
- `isController_spec`, `parserAndElement?_ok`: in a sound module the test gives an answer.
- `providerMadeBy?_eq_error_iff`: in a sound module the test of an instruction fails exactly when the instruction's token has
  no answer. `rowFails_of_operandEntity?`: such a token names a row that was found to have none.
- `exists_instruction_of_find_error`, `rowFails_of_find`: in a sound module a stage fails for such a token only, and that is in
  the code of the controller's constructor.
-/
namespace Unbundle.Matching

variable {m : Module}

/-! ## Signatures -/

/-- the signature of a method reads as the two texts -/
def Reads (m : Module) (x : Method) (returns parameters : String) : Prop := m.isMethod x returns parameters = .ok true

theorem takesAssembly_eq (x : Method) :
    takesAssembly m x = m.isMethod x "System.Void" "(System.Reflection.Assembly)" := rfl

theorem takesNothing_eq (x : Method) : takesNothing m x = m.isMethod x "System.Void" "()" := rfl

theorem takesAssemblyAndText_eq (x : Method) :
    takesAssemblyAndText m x = m.isMethod x "System.Void" "(System.Reflection.Assembly,System.String)" := rfl

theorem definition?_eq_some_iff {t : TypeSig} {id : TypeId} {d : TypeDef} :
    m.definition? t = some (id, d) ↔ t = .defined id ∧ m.definitions[id]? = some d := by
  cases t with
  | defined place =>
    simp only [Module.definition?, TypeSig.definition?, Option.bind_eq_bind, Option.bind_some, TypeSig.defined.injEq]
    cases hd : m.definitions[place]? with
    | none =>
      simp only [Option.bind_none, reduceCtorEq, false_iff, not_and]
      rintro rfl
      simp [hd]
    | some d' =>
      simp only [Option.bind_some, Option.pure_def, Option.some.injEq, Prod.mk.injEq]
      constructor
      · rintro ⟨rfl, rfl⟩
        exact ⟨rfl, hd⟩
      · rintro ⟨rfl, h⟩
        rw [hd] at h
        exact ⟨rfl, Option.some.inj h⟩
  | _ => simp [Module.definition?, TypeSig.definition?]

/-! ## The controller -/

/-- a controller: outside of any namespace, two fields, a private constructor that takes an assembly, an exposed static method
of the same signature, and an exposed method of an object from text to text -/
structure IsController (m : Module) (t : TypeDef) : Prop where
  space : t.space = ""
  fields : (m.fieldsOf t).length = 2
  constructor : ∃ x, m.constructor? t = some x ∧ x.access = .isPrivate ∧
    Reads m x "System.Void" "(System.Reflection.Assembly)"
  entryPoint : ∃ x ∈ m.methodsOf t, x.isStatic ∧ x.isExposed ∧ x.code.isSome ∧
    Reads m x "System.Void" "(System.Reflection.Assembly)"
  fileName : ∃ x ∈ m.methodsOf t, ¬ x.isStatic ∧ x.isExposed ∧ x.code.isSome ∧
    Reads m x "System.String" "(System.String)"

/-- looking among the methods of a definition for one that is admitted and reads as two texts -/
theorem findM?_isMethod (h : m.Sound) (t : TypeDef) (admits : Method → Bool) (returns parameters : String) :
    ∃ found, ((m.methodsOf t).findM? fun x => if admits x then m.isMethod x returns parameters else .ok false) =
        .ok found ∧
      (found.isSome ↔ ∃ x ∈ m.methodsOf t, admits x ∧ Reads m x returns parameters) := by
  obtain ⟨found, hfound⟩ := findM?_ok
    (f := fun x => if admits x then m.isMethod x returns parameters else .ok false) (l := m.methodsOf t) <| by
    intro x hx
    by_cases ha : admits x
    · simpa [ha] using h.isMethod_ok (Module.mem_of_mem_methodsOf hx) returns parameters
    · exact ⟨false, by simp [ha]⟩
  refine ⟨found, hfound, ?_⟩
  have hfinds := finds_of_findM? (p := fun x => admits x ∧ Reads m x returns parameters) (fun x _ => by
    by_cases ha : admits x <;> simp [ha, Reads]) hfound
  cases found with
  | none =>
    simp only [Option.isSome_none, Bool.false_eq_true, false_iff]
    rintro ⟨x, hx, hp⟩
    exact hfinds x hx x ⟨rfl, hp⟩
  | some y =>
    obtain ⟨x, hx, rfl, hp⟩ := hfinds.exists_answer
    exact ⟨fun _ => ⟨y, hx, hp⟩, fun _ => rfl⟩

/-- the two methods that a controller has to have are looked for without failure -/
theorem entryPoint?_ok (h : m.Sound) (t : TypeDef) : ∃ found, entryPoint? m t = .ok found ∧
    (found.isSome ↔ ∃ x ∈ m.methodsOf t, x.isStatic ∧ x.isExposed ∧ x.code.isSome ∧
      Reads m x "System.Void" "(System.Reflection.Assembly)") := by
  obtain ⟨found, hfound, hiff⟩ := findM?_isMethod h t (fun x => x.isStatic && x.code.isSome && x.isExposed)
    "System.Void" "(System.Reflection.Assembly)"
  refine ⟨found, hfound, hiff.trans (exists_congr fun x => and_congr_right fun _ => ?_)⟩
  simp only [Bool.and_eq_true]
  tauto

theorem fileNameMethod?_ok (h : m.Sound) (t : TypeDef) : ∃ found, fileNameMethod? m t = .ok found ∧
    (found.isSome ↔ ∃ x ∈ m.methodsOf t, ¬ x.isStatic ∧ x.isExposed ∧ x.code.isSome ∧
      Reads m x "System.String" "(System.String)") := by
  obtain ⟨found, hfound, hiff⟩ := findM?_isMethod h t (fun x => !x.isStatic && x.code.isSome && x.isExposed)
    "System.String" "(System.String)"
  refine ⟨found, hfound, hiff.trans (exists_congr fun x => and_congr_right fun _ => ?_)⟩
  simp only [Bool.and_eq_true, Bool.not_eq_true', Bool.not_eq_true]
  tauto

/-- a definition with two fields outside of any namespace is tested by its methods -/
theorem isController_of_constructor (h : m.Sound) {t : TypeDef} {x : Method} (hspace : t.space = "")
    (hfields : (m.fieldsOf t).length = 2) (hx : m.constructor? t = some x) (haccess : x.access = .isPrivate) :
    ∃ b, isController m t = .ok b ∧ (b = true ↔ IsController m t) := by
  obtain ⟨takes, htakes⟩ := h.isMethod_ok (Module.mem_of_constructor? hx) "System.Void" "(System.Reflection.Assembly)"
  obtain ⟨entry, hentry, hentryIff⟩ := entryPoint?_ok h t
  obtain ⟨name, hname, hnameIff⟩ := fileNameMethod?_ok h t
  refine ⟨takes && entry.isSome && name.isSome, ?_, ?_⟩
  · simp only [isController, hspace, hfields, hx, haccess, takesAssembly_eq, htakes, hentry, hname, ok_bind]
    cases takes <;> cases entry <;> cases name <;> rfl
  · rw [Bool.and_eq_true, Bool.and_eq_true, hentryIff, hnameIff]
    constructor
    · rintro ⟨⟨rfl, hentry'⟩, hname'⟩
      exact ⟨hspace, hfields, ⟨x, hx, haccess, htakes⟩, hentry', hname'⟩
    · intro hc
      refine ⟨⟨?_, hc.entryPoint⟩, hc.fileName⟩
      obtain ⟨x', hx', -, hreads⟩ := hc.constructor
      rw [hx] at hx'
      cases hx'
      rw [Reads, htakes] at hreads
      exact Except.ok.inj hreads

/-- testing a definition for the shape of a controller gives an answer, and the right one -/
theorem isController_spec (h : m.Sound) (t : TypeDef) :
    ∃ b, isController m t = .ok b ∧ (b = true ↔ IsController m t) := by
  have refused (hb : isController m t = .ok false) (hc : ¬ IsController m t) :
      ∃ b, isController m t = .ok b ∧ (b = true ↔ IsController m t) :=
    ⟨false, hb, by simpa using hc⟩
  by_cases hspace : t.space = ""
  · by_cases hfields : (m.fieldsOf t).length = 2
    · cases hx : m.constructor? t with
      | none =>
        refine refused (by simp [isController, hspace, hfields, hx]) fun hc => ?_
        obtain ⟨x, hx', -⟩ := hc.constructor
        rw [hx] at hx'
        cases hx'
      | some x =>
        by_cases haccess : x.access = .isPrivate
        · exact isController_of_constructor h hspace hfields hx haccess
        · refine refused (by simp [isController, hspace, hfields, hx, haccess]) fun hc => ?_
          obtain ⟨x', hx', haccess', -⟩ := hc.constructor
          rw [hx] at hx'
          cases hx'
          exact haccess haccess'
    · exact refused (by simp [isController, hfields]) fun hc => hfields hc.fields
  · exact refused (by simp [isController, hspace]) fun hc => hspace hc.space

theorem isControllerAt_spec (h : m.Sound) (id : TypeId) :
    ∃ b : Bool, isControllerAt m id = .ok b ∧ (b = true ↔ ∃ t, m.definitions[id]? = some t ∧ IsController m t) := by
  unfold isControllerAt
  cases ht : m.definitions[id]? with
  | none => exact ⟨false, rfl, by simp⟩
  | some t =>
    obtain ⟨b, hb, hiff⟩ := isController_spec h t
    exact ⟨b, hb, by simpa using hiff⟩

/-- the first top-level type with the shape of a controller is looked for without failure -/
theorem controller?_spec (h : m.Sound) : ∃ found, controller? m = .ok found ∧
    Finds (fun id c => c = id ∧ ∃ t, m.definitions[id]? = some t ∧ IsController m t) m.topLevel found := by
  obtain ⟨found, hfound⟩ := findM?_ok (l := m.topLevel) fun id _ => (isControllerAt_spec h id).imp fun b hb => hb.1
  refine ⟨found, hfound, finds_of_findM? (fun id _ => ?_) hfound⟩
  obtain ⟨b, hb, hiff⟩ := isControllerAt_spec h id
  rw [hb, ← hiff, Except.ok.injEq]

/-! ## Manager and interface -/

theorem guard_eq_some_iff {p : Prop} [Decidable p] {u : Unit} : (guard p : Option Unit) = some u ↔ p := by
  by_cases hp : p <;> simp [guard, hp]

/-- the type of a field is a manager other than the given controller, and `found` names it and its interface: it has two
fields, and its constructor takes two parameters, the second an interface of the module -/
def ManagerField (m : Module) (controller : TypeId) (f : Field) (found : TypeId × TypeId) : Prop :=
  f.type = .defined found.1 ∧ found.1 ≠ controller ∧
    ∃ t x first face, m.definitions[found.1]? = some t ∧ (m.fieldsOf t).length = 2 ∧ m.constructor? t = some x ∧
      x.parameters = [first, .defined found.2] ∧ m.definitions[found.2]? = some face ∧ face.isInterface

theorem managerAndInterface?_eq_some_iff {controller : TypeId} {f : Field} {found : TypeId × TypeId} :
    managerAndInterface? m controller f = some found ↔ ManagerField m controller f found := by
  obtain ⟨manager, interface⟩ := found
  simp only [managerAndInterface?, Option.bind_eq_bind, Option.bind_eq_some_iff, Prod.exists, definition?_eq_some_iff,
    guard_eq_some_iff, exists_const]
  constructor
  · rintro ⟨id, t, ⟨htype, ht⟩, hother, hfields, x, hx, h⟩
    split at h
    · next first second hparameters =>
      simp only [Option.bind_eq_some_iff, Prod.exists, definition?_eq_some_iff, guard_eq_some_iff, exists_const,
        Option.pure_def, Option.some.injEq, Prod.mk.injEq] at h
      obtain ⟨face, d, ⟨rfl, hd⟩, hinterface, rfl, rfl⟩ := h
      exact ⟨htype, hother, t, x, first, d, ht, hfields, hx, hparameters, hd, hinterface⟩
    · cases h
  · rintro ⟨htype, hother, t, x, first, d, ht, hfields, hx, hparameters, hd, hinterface⟩
    refine ⟨manager, t, ⟨htype, ht⟩, hother, hfields, x, hx, ?_⟩
    rw [hparameters]
    simp only [Option.bind_eq_some_iff, Prod.exists, definition?_eq_some_iff, guard_eq_some_iff, exists_const,
      Option.pure_def]
    exact ⟨interface, d, ⟨rfl, hd⟩, hinterface, rfl⟩

/-- a field makes one manager and one interface known at most -/
theorem ManagerField.unique {controller : TypeId} {f : Field} {a b : TypeId × TypeId}
    (ha : ManagerField m controller f a) (hb : ManagerField m controller f b) : a = b := by
  rw [← managerAndInterface?_eq_some_iff] at ha hb
  exact Option.some.inj (ha.symm.trans hb)

/-! ## Parser and entry descriptor -/

/-- the type of a field is a parser, and `found` names it and the descriptor of entries: a class with a constructor without
parameters and one field, which is a list of a type of the module -/
def ParserField (m : Module) (f : Field) (found : TypeId × TypeId) : Prop :=
  f.type = .defined found.1 ∧
    ∃ t x only element, m.definitions[found.1]? = some t ∧ ¬ t.isInterface ∧ m.constructor? t = some x ∧
      Reads m x "System.Void" "()" ∧ m.fieldsOf t = [only] ∧ only.type = .generic element [.defined found.2] ∧
      m.typeName element = .ok "System.Collections.Generic.List`1"

theorem listElement?_eq_some_iff {t : TypeSig} {entry : TypeId} :
    listElement? m t = .ok (some entry) ↔
      ∃ element, t = .generic element [.defined entry] ∧ m.typeName element = .ok "System.Collections.Generic.List`1" := by
  unfold listElement?
  split
  · next element id =>
    simp only [bind_eq_ok_iff, pure_eq_ok, Except.ok.injEq, Option.ite_none_right_eq_some, Option.some.injEq]
    constructor
    · rintro ⟨name, hname, rfl, rfl⟩
      exact ⟨element, rfl, hname⟩
    · rintro ⟨element', heq, hname⟩
      cases heq
      exact ⟨_, hname, rfl, rfl⟩
  · next element arguments hno =>
    simp only [bind_eq_ok_iff, pure_eq_ok, Except.ok.injEq, reduceCtorEq, and_false, exists_false, false_iff]
    rintro ⟨element', heq, -⟩
    cases heq
    exact hno entry rfl
  · next hno _ =>
    simp only [Except.ok.injEq, reduceCtorEq, false_iff]
    rintro ⟨element, rfl, -⟩
    exact hno element _ rfl

theorem listElement?_ok (h : m.Sound) {t : TypeSig} (ht : t.isPresent → t.isWhole) :
    ∃ found, listElement? m t = .ok found := by
  have named {element : TypeSig} {arguments : List TypeSig} (heq : t = .generic element arguments) :
      ∃ name, m.typeName element = .ok name := by
    subst heq
    have hwhole := ht rfl
    rw [TypeSig.isWhole, Bool.and_eq_true] at hwhole
    exact h.typeName_ok element hwhole.1
  unfold listElement?
  split
  · next element entry =>
    obtain ⟨name, hname⟩ := named rfl
    exact ⟨if name = listType then some entry else none, by rw [hname]; rfl⟩
  · next element arguments _ =>
    obtain ⟨name, hname⟩ := named rfl
    exact ⟨none, by rw [hname]; rfl⟩
  · exact ⟨none, rfl⟩

theorem parserAndElement?_eq_some_iff {f : Field} {found : TypeId × TypeId} :
    parserAndElement? m f = .ok (some found) ↔ ParserField m f found := by
  obtain ⟨parser, entry⟩ := found
  constructor
  · intro h
    unfold parserAndElement? at h
    split at h
    · cases h
    next id t hd =>
    obtain ⟨htype, ht⟩ := definition?_eq_some_iff.1 hd
    split_ifs at h with hinterface
    · cases h
    split at h
    · cases h
    next x hx =>
    obtain ⟨takes, htakes, h⟩ := bind_eq_ok_iff.1 h
    split_ifs at h with hno
    · cases h
    split at h
    · next only hfields =>
      obtain ⟨found, hfound, h⟩ := bind_eq_ok_iff.1 h
      cases found with
      | none => cases h
      | some id' =>
        cases h
        obtain ⟨element, helement, hname⟩ := listElement?_eq_some_iff.1 hfound
        have hreads : Reads m x "System.Void" "()" := by
          rw [Reads, ← takesNothing_eq, htakes]
          simpa using hno
        exact ⟨htype, t, x, only, element, ht, hinterface, hx, hreads, hfields, helement, hname⟩
    · cases h
  · rintro ⟨htype, t, x, only, element, ht, hinterface, hx, hreads, hfields, helement, hname⟩
    have hd : m.definition? f.type = some (parser, t) := definition?_eq_some_iff.2 ⟨htype, ht⟩
    have hlist : listElement? m only.type = .ok (some entry) := listElement?_eq_some_iff.2 ⟨element, helement, hname⟩
    rw [Reads, ← takesNothing_eq] at hreads
    simp only [parserAndElement?, hd, hinterface, hx, hreads, hfields, hlist, ok_bind]
    rfl

/-- a field makes one parser and one descriptor known at most -/
theorem ParserField.unique {f : Field} {a b : TypeId × TypeId} (ha : ParserField m f a) (hb : ParserField m f b) :
    a = b := by
  rw [← parserAndElement?_eq_some_iff] at ha hb
  exact Option.some.inj (Except.ok.inj (ha.symm.trans hb))

/-- testing the type of a field for the shape of a parser gives an answer -/
theorem parserAndElement?_ok (h : m.Sound) (f : Field) : ∃ found, parserAndElement? m f = .ok found := by
  unfold parserAndElement?
  split
  · exact ⟨none, rfl⟩
  next id t hd =>
  split_ifs with hinterface
  · exact ⟨none, rfl⟩
  split
  · exact ⟨none, rfl⟩
  next x hx =>
  obtain ⟨takes, htakes⟩ := h.isMethod_ok (Module.mem_of_constructor? hx) "System.Void" "()"
  rw [takesNothing_eq, htakes, ok_bind]
  split_ifs with hno
  · exact ⟨none, rfl⟩
  split
  · next only hfields =>
    have honly : only ∈ m.fieldsOf t := by rw [hfields]; exact List.mem_singleton_self only
    obtain ⟨found, hfound⟩ := listElement?_ok h (h.fields only (Module.mem_of_mem_fieldsOf honly))
    exact ⟨found.map (id, ·), by rw [hfound]; rfl⟩
  · exact ⟨none, rfl⟩

/-! ## The stream provider -/

/-- an instruction makes a stream provider: it calls a constructor of the module to make an object whose type is not the
manager, takes an assembly and a text, and implements the given interface and no other -/
def ProviderSite (m : Module) (manager face : TypeId) (i : Code.Instruction) (made : TypeId) : Prop :=
  i.opcode = Code.newObject ∧ made ≠ manager ∧
    ∃ id x t, m.operandEntity? i.operand = .ok (some (.method id)) ∧ m.methods[id]? = some x ∧ x.owner = some made ∧
      Reads m x "System.Void" "(System.Reflection.Assembly,System.String)" ∧ m.definitions[made]? = some t ∧
      t.interfaces = [.defined face]

theorem provider?_eq_some_iff {manager face made : TypeId} {x : Method} :
    provider? m manager face x = .ok (some made) ↔
      x.owner = some made ∧ made ≠ manager ∧ Reads m x "System.Void" "(System.Reflection.Assembly,System.String)" ∧
        ∃ t, m.definitions[made]? = some t ∧ t.interfaces = [.defined face] := by
  constructor
  · intro h
    unfold provider? at h
    split at h
    · cases h
    next id howner =>
    split_ifs at h with hmanager
    · cases h
    obtain ⟨takes, htakes, h⟩ := bind_eq_ok_iff.1 h
    split_ifs at h with hno
    · cases h
    split at h
    · next only hinterfaces =>
      rw [pure_eq_ok, Except.ok.injEq, Option.ite_none_right_eq_some, Option.some.injEq] at h
      obtain ⟨rfl, rfl⟩ := h
      refine ⟨howner, hmanager, ?_, ?_⟩
      · rw [Reads, ← takesAssemblyAndText_eq, htakes]
        simpa using hno
      · cases ht : m.definitions[id]? with
        | none => simp [ht] at hinterfaces
        | some t => exact ⟨t, rfl, by simpa [ht] using hinterfaces⟩
    · cases h
  · rintro ⟨howner, hmanager, hreads, t, ht, hinterfaces⟩
    rw [Reads, ← takesAssemblyAndText_eq] at hreads
    simp only [provider?, howner, hmanager, hreads, ht, hinterfaces, ok_bind, if_false, Option.map_some,
      Option.getD_some, if_true]
    rfl

theorem provider?_ok (h : m.Sound) {x : Method} (hx : x ∈ m.methods) (manager face : TypeId) :
    ∃ found, provider? m manager face x = .ok found := by
  obtain ⟨takes, htakes⟩ := h.isMethod_ok hx "System.Void" "(System.Reflection.Assembly,System.String)"
  unfold provider?
  split
  · exact ⟨none, rfl⟩
  next id howner =>
  split_ifs with hmanager
  · exact ⟨none, rfl⟩
  rw [takesAssemblyAndText_eq, htakes, ok_bind]
  split_ifs with hno
  · exact ⟨none, rfl⟩
  split
  · next only _ => exact ⟨if only = face then some id else none, rfl⟩
  · exact ⟨none, rfl⟩

theorem providerMadeBy?_eq_some_iff {manager face made : TypeId} {i : Code.Instruction} :
    providerMadeBy? m manager face i = .ok (some made) ↔ ProviderSite m manager face i made := by
  constructor
  · intro h
    unfold providerMadeBy? at h
    obtain ⟨entity, hentity, h⟩ := bind_eq_ok_iff.1 h
    split at h
    · next id =>
      split_ifs at h with hopcode
      · cases h
      split at h
      · next x hx =>
        obtain ⟨howner, hmanager, hreads, t, ht, hinterfaces⟩ := provider?_eq_some_iff.1 h
        exact ⟨not_not.1 hopcode, hmanager, id, x, t, hentity, hx, howner, hreads, ht, hinterfaces⟩
      · cases h
    · cases h
  · rintro ⟨hopcode, hmanager, id, x, t, hentity, hx, howner, hreads, ht, hinterfaces⟩
    simp only [providerMadeBy?, hentity, ok_bind, hopcode, hx]
    exact provider?_eq_some_iff.2 ⟨howner, hmanager, hreads, t, ht, hinterfaces⟩

/-- an instruction makes one stream provider at most -/
theorem ProviderSite.unique {manager face a b : TypeId} {i : Code.Instruction} (ha : ProviderSite m manager face i a)
    (hb : ProviderSite m manager face i b) : a = b := by
  rw [← providerMadeBy?_eq_some_iff] at ha hb
  exact Option.some.inj (Except.ok.inj (ha.symm.trans hb))

/-- testing an instruction fails exactly when its token has no answer -/
theorem providerMadeBy?_eq_error_iff (h : m.Sound) {manager face : TypeId} {i : Code.Instruction} {cause : TypeFault} :
    providerMadeBy? m manager face i = .error cause ↔ m.operandEntity? i.operand = .error cause := by
  unfold providerMadeBy?
  rw [bind_eq_error_iff]
  constructor
  · rintro (he | ⟨entity, -, he⟩)
    · exact he
    -- past the token nothing fails any more
    split at he
    · split_ifs at he
      · cases he
      split at he
      · next x hx =>
        obtain ⟨found, hfound⟩ := provider?_ok h (Array.mem_of_getElem? hx) manager face
        rw [hfound] at he
        cases he
      · cases he
    · cases he
  · exact .inl

/-- a row of the type specifications or of the member references has no answer, and why -/
def RowFails (m : Module) (cause : TypeFault) : Prop := .error cause ∈ m.typeSpecs ∨ .error cause ∈ m.memberReferences

theorem mem_of_row? {α : Type} {pool : Array α} {row : Nat} {a : α} (h : Module.row? pool row = some a) : a ∈ pool := by
  unfold Module.row? at h
  split_ifs at h
  exact Array.mem_of_getElem? h

theorem rowFails_of_operandEntity? {operand : Code.Operand} {cause : TypeFault}
    (h : m.operandEntity? operand = .error cause) : RowFails m cause := by
  unfold Module.operandEntity? at h
  split at h
  · next token =>
    unfold Module.entity? at h
    dsimp only at h
    split_ifs at h
    · split at h
      · cases h
      · next hrow =>
        cases h
        exact .inl (mem_of_row? hrow)
      · cases h
    · split at h
      · cases h
      · next hrow =>
        cases h
        exact .inr (mem_of_row? hrow)
      · cases h
  · cases h

/-- the search for the provider fails at an instruction of the controller's constructor -/
theorem exists_instruction_of_find_error (h : m.Sound) {r : Roles} {cause : TypeFault}
    (hfind : Stage.find m r .provider = .error cause) :
    ∃ c x code, r.controller = some c ∧ (m.definitions[c]?).bind m.constructor? = some x ∧ x.code = some code ∧
      ∃ i ∈ (Code.decode code).instructions, m.operandEntity? i.operand = .error cause := by
  simp only [Stage.find] at hfind
  split at hfind
  · next c g face hc hg hface =>
    split at hfind
    · cases hfind
    next x hx =>
    obtain ⟨t, -, ht⟩ := Option.bind_eq_some_iff.1 hx
    obtain ⟨takes, htakes⟩ := h.isMethod_ok (Module.mem_of_constructor? ht) "System.Void" "(System.Reflection.Assembly)"
    rw [takesAssembly_eq, htakes, ok_bind] at hfind
    split_ifs at hfind
    · cases hfind
    split at hfind
    · cases hfind
    next code hcode =>
    rcases bind_eq_error_iff.1 hfind with hsearch | ⟨found, -, hfind⟩
    · obtain ⟨front, i, back, hsplit, hi, -⟩ := findSomeM?_eq_error_iff.1 hsearch
      have hmem : i ∈ (Code.decode code).instructions := by
        rw [hsplit]
        exact List.mem_append_right _ List.mem_cons_self
      exact ⟨c, x, code, hc, hx, hcode, i, hmem, (providerMadeBy?_eq_error_iff h).1 hi⟩
    · cases hfind
  · cases hfind

/-- in a sound module a stage fails only for a token whose row has no answer -/
theorem rowFails_of_find (h : m.Sound) {r : Roles} {s : Stage} {cause : TypeFault} (hfind : s.find m r = .error cause) :
    RowFails m cause := by
  cases s with
  | manager =>
    simp only [Stage.find] at hfind
    split at hfind <;> cases hfind
  | parser =>
    simp only [Stage.find] at hfind
    split at hfind
    · cases hfind
    next g hg =>
    obtain ⟨found, hfound⟩ := findSomeM?_ok (l := ((m.definitions[g]?).map m.fieldsOf).getD []) fun f _ =>
      parserAndElement?_ok h f
    rw [hfound] at hfind
    cases hfind
  | provider =>
    obtain ⟨_, _, _, -, -, -, i, -, hi⟩ := exists_instruction_of_find_error h hfind
    exact rowFails_of_operandEntity? hi

end Unbundle.Matching
