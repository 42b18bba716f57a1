import Unbundle.Proofs.Matching.Shapes
/-
What matching comes to, said without the stages.

`Reference m r` says of each role which type plays it: the one that the first candidate of the right shape makes known, and
none when no candidate has the shape. Candidates are the top-level types for the controller, the fields of the type found
before for manager and parser, and the instructions of the controller's constructor for the stream provider.

Results:
- `Reference.unique`: a module has one reference at most.
- `run_manager_stage`, `run_parser_stage`, `run_provider_stage`: what each stage does to a record in which its own roles are free.
- `rolesOf_reference`: in a sound module matching gives exactly the reference, provided that every token it comes across has
  an answer, and fails otherwise. A token has no answer only when it names a type specification that refers to itself.
-/
namespace Unbundle.Matching

variable {m : Module} {r : Roles}

/-! ## The reference -/

/-- the fields of a definition, none without a definition -/
def fieldsAt (m : Module) (id : Option TypeId) : List Field :=
  match id.bind (m.definitions[·]?) with
  | some t => m.fieldsOf t
  | none => []

/-- the instructions of a definition's constructor up to its end or the first malformed one, none without a body -/
def constructorInstructions (m : Module) (id : Option TypeId) : List Code.Instruction :=
  match ((id.bind (m.definitions[·]?)).bind m.constructor?).bind (·.code) with
  | some code => (Code.decode code).instructions
  | none => []

/-- the types that play the roles -/
structure Reference (m : Module) (r : Roles) : Prop where
  /-- the first controller among the top-level types -/
  controller : Finds (fun id c => c = id ∧ ∃ t, m.definitions[id]? = some t ∧ IsController m t) m.topLevel r.controller
  /-- what the first field of the controller makes known whose type is a manager -/
  manager : ∃ found, Finds (fun f found => ∃ c, r.controller = some c ∧ ManagerField m c f found)
      (fieldsAt m r.controller) found ∧
    r.manager = found.map (·.1) ∧ r.streamProviderInterface = found.map (·.2)
  /-- what the first field of the manager makes known whose type is a parser -/
  parser : ∃ found, Finds (ParserField m) (fieldsAt m r.manager) found ∧
    r.xmlParser = found.map (·.1) ∧ r.entryDescriptor = found.map (·.2)
  /-- what the first instruction makes that makes a stream provider -/
  provider : Finds (fun i made => ∃ manager face, r.manager = some manager ∧ r.streamProviderInterface = some face ∧
      ProviderSite m manager face i made) (constructorInstructions m r.controller) r.streamProvider

/-- every token has an answer that the search for the stream provider comes across, up to the instruction that makes it -/
def TokensAnswer (m : Module) (r : Roles) : Prop :=
  ∀ manager face, r.manager = some manager → r.streamProviderInterface = some face →
    ∀ front i back, constructorInstructions m r.controller = front ++ i :: back →
      (∀ j ∈ front, ∀ made, ¬ ProviderSite m manager face j made) → ∃ entity, m.operandEntity? i.operand = .ok entity

theorem Reference.unique {r' : Roles} (h : Reference m r) (h' : Reference m r') : r = r' := by
  obtain ⟨c, g, face, p, e, s⟩ := r
  obtain ⟨c', g', face', p', e', s'⟩ := r'
  obtain rfl : c = c' := h.controller.unique (fun a b b' hb hb' => hb.1.trans hb'.1.symm) h'.controller
  obtain ⟨managing, hmanaging, hg, hface⟩ := h.manager
  obtain ⟨managing', hmanaging', hg', hface'⟩ := h'.manager
  obtain rfl : managing = managing' := by
    refine hmanaging.unique ?_ hmanaging'
    rintro f a b ⟨k, hk, ha⟩ ⟨k', hk', hb⟩
    rw [hk] at hk'
    cases hk'
    exact ha.unique hb
  simp only at hg hg' hface hface'
  subst hg hg' hface hface'
  obtain ⟨parsing, hparsing, hp, he⟩ := h.parser
  obtain ⟨parsing', hparsing', hp', he'⟩ := h'.parser
  obtain rfl : parsing = parsing' := hparsing.unique (fun f a b ha hb => ha.unique hb) hparsing'
  simp only at hp hp' he he'
  subst hp hp' he he'
  obtain rfl : s = s' := by
    refine h.provider.unique ?_ h'.provider
    rintro i a b ⟨manager, face, hm, hf, ha⟩ ⟨manager', face', hm', hf', hb⟩
    rw [hm] at hm'
    rw [hf] at hf'
    cases hm'
    cases hf'
    exact ha.unique hb
  rfl

/-! ## The stages -/

theorem run_of_find_none {s : Stage} (h : s.find m r = .ok none) : s.run m r = .ok r := by
  rw [Stage.run, h]

theorem run_of_find_some {s : Stage} {ids : List TypeId} {r' : Roles} (h : s.find m r = .ok (some ids))
    (hr : r.fill (s.roles.zip ids) = .ok r') : s.run m r = .ok r' := by
  simp only [Stage.run, h, hr]

theorem run_of_find_error {s : Stage} {cause : TypeFault} (h : s.find m r = .error cause) :
    s.run m r = .error (.fault cause) := by
  rw [Stage.run, h]

theorem fieldsAt_some (id : TypeId) : fieldsAt m (some id) = ((m.definitions[id]?).map m.fieldsOf).getD [] := by
  rw [fieldsAt, Option.bind_some]
  cases m.definitions[id]? <;> rfl

theorem run_manager_stage (hm : r.manager = none) (hi : r.streamProviderInterface = none) :
    ∃ found, Finds (fun f found => ∃ c, r.controller = some c ∧ ManagerField m c f found) (fieldsAt m r.controller)
        found ∧
      Stage.run m r .manager = .ok { r with manager := found.map (·.1), streamProviderInterface := found.map (·.2) } := by
  obtain ⟨c, g, face, p, e, s⟩ := r
  simp only at hm hi
  subst hm hi
  cases c with
  | none => exact ⟨none, Finds.nil, run_of_find_none rfl⟩
  | some c =>
    refine ⟨(fieldsAt m (some c)).findSome? (managerAndInterface? m c),
      finds_findSome? _ fun f found => by simp [managerAndInterface?_eq_some_iff], ?_⟩
    cases hf : (fieldsAt m (some c)).findSome? (managerAndInterface? m c) with
    | none =>
      refine run_of_find_none ?_
      rw [fieldsAt_some] at hf
      simp only [Stage.find, hf, Option.map_none]
    | some found =>
      have hfind : Stage.find m ⟨some c, none, none, p, e, s⟩ .manager = .ok (some [found.1, found.2]) := by
        rw [fieldsAt_some] at hf
        simp only [Stage.find, hf, Option.map_some]
      exact run_of_find_some hfind rfl

theorem run_parser_stage (h : m.Sound) (hp : r.xmlParser = none) (he : r.entryDescriptor = none) :
    ∃ found, Finds (ParserField m) (fieldsAt m r.manager) found ∧
      Stage.run m r .parser = .ok { r with xmlParser := found.map (·.1), entryDescriptor := found.map (·.2) } := by
  obtain ⟨c, g, face, p, e, s⟩ := r
  simp only at hp he
  subst hp he
  cases g with
  | none => exact ⟨none, Finds.nil, run_of_find_none rfl⟩
  | some g =>
    obtain ⟨found, hfound⟩ := findSomeM?_ok (l := fieldsAt m (some g)) fun f _ => parserAndElement?_ok h f
    refine ⟨found, finds_of_findSomeM? (fun f _ found => parserAndElement?_eq_some_iff) hfound, ?_⟩
    rw [fieldsAt_some] at hfound
    cases found with
    | none =>
      refine run_of_find_none ?_
      simp only [Stage.find, hfound, ok_bind]
      rfl
    | some found =>
      have hfind : Stage.find m ⟨c, some g, face, none, none, s⟩ .parser = .ok (some [found.1, found.2]) := by
        simp only [Stage.find, hfound, ok_bind]
        rfl
      exact run_of_find_some hfind rfl

/-- looking for the stream provider starts from three roles and comes to the instructions of the controller's constructor -/
theorem find_provider {c manager face : TypeId} {x : Method} {t : TypeDef} (hc : r.controller = some c)
    (hm : r.manager = some manager) (hf : r.streamProviderInterface = some face) (ht : m.definitions[c]? = some t)
    (hx : m.constructor? t = some x) (hreads : Reads m x "System.Void" "(System.Reflection.Assembly)") :
    Stage.find m r .provider =
      ((constructorInstructions m (some c)).findSomeM? (providerMadeBy? m manager face)).map (Option.map ([·])) := by
  rw [Reads, ← takesAssembly_eq] at hreads
  simp only [Stage.find, constructorInstructions, hc, hm, hf, ht, hx, hreads, Option.bind_some, ok_bind]
  cases x.code with
  | none => rfl
  | some code =>
    simp only
    cases (Code.decode code).instructions.findSomeM? (providerMadeBy? m manager face) <;> rfl

/-- the tokens that the search comes across have answers exactly when the search does not fail -/
theorem tokensAnswer_iff (h : m.Sound) {manager face : TypeId} (hm : r.manager = some manager)
    (hf : r.streamProviderInterface = some face) :
    TokensAnswer m r ↔
      ∃ found, (constructorInstructions m r.controller).findSomeM? (providerMadeBy? m manager face) = .ok found := by
  have answers (i : Code.Instruction) :
      (∃ o, providerMadeBy? m manager face i = .ok o) ↔ ∃ entity, m.operandEntity? i.operand = .ok entity := by
    cases hi : providerMadeBy? m manager face i with
    | error cause => simp [providerMadeBy?_eq_error_iff h |>.1 hi]
    | ok o =>
      cases he : m.operandEntity? i.operand with
      | error cause =>
        rw [(providerMadeBy?_eq_error_iff h).2 he] at hi
        cases hi
      | ok entity => simp
  rw [findSomeM?_eq_ok_iff]
  simp only [answers, ne_eq, providerMadeBy?_eq_some_iff]
  constructor
  · intro ht
    exact ht manager face hm hf
  · rintro ht manager' face' hm' hf'
    rw [hm] at hm'
    rw [hf] at hf'
    cases hm'
    cases hf'
    exact ht

/-- the last stage fills its role with what the first instruction makes that makes a stream provider, unless the search
comes across a token without an answer -/
theorem run_provider_stage (h : m.Sound) (hs : r.streamProvider = none)
    (hc : ∀ c, r.controller = some c → ∃ t, m.definitions[c]? = some t ∧ IsController m t) :
    (TokensAnswer m r → ∃ found,
        Finds (fun i made => ∃ manager face, r.manager = some manager ∧ r.streamProviderInterface = some face ∧
          ProviderSite m manager face i made) (constructorInstructions m r.controller) found ∧
        Stage.run m r .provider = .ok { r with streamProvider := found }) ∧
      (¬ TokensAnswer m r → ∃ cause, RowFails m cause ∧ Stage.run m r .provider = .error (.fault cause)) := by
  obtain ⟨c, g, face, p, e, s⟩ := r
  simp only at hs
  subst hs
  by_cases hall : ∃ c' g' face', c = some c' ∧ g = some g' ∧ face = some face'
  · obtain ⟨c, g, face, rfl, rfl, rfl⟩ := hall
    obtain ⟨t, ht, hshape⟩ := hc c rfl
    obtain ⟨x, hx, -, hreads⟩ := hshape.constructor
    rw [tokensAnswer_iff h rfl rfl]
    have hfind := find_provider (r := ⟨some c, some g, some face, p, e, none⟩) rfl rfl rfl ht hx hreads
    refine ⟨fun ⟨found, hfound⟩ => ⟨found, ?_, ?_⟩, fun hno => ?_⟩
    · exact finds_of_findSomeM? (fun i _ made => by simp [providerMadeBy?_eq_some_iff]) hfound
    · rw [hfound] at hfind
      cases found with
      | none => exact run_of_find_none hfind
      | some made => exact run_of_find_some hfind rfl
    · cases hfound : (constructorInstructions m (some c)).findSomeM? (providerMadeBy? m g face) with
      | ok found => exact absurd ⟨found, hfound⟩ hno
      | error cause =>
        rw [hfound] at hfind
        obtain ⟨-, i, -, -, hi, -⟩ := findSomeM?_eq_error_iff.1 hfound
        exact ⟨cause, rowFails_of_operandEntity? ((providerMadeBy?_eq_error_iff h).1 hi), run_of_find_error hfind⟩
  · -- with one of the three roles free there is nothing to look for, and no token is asked for
    have hfind : Stage.find m ⟨c, g, face, p, e, none⟩ .provider = .ok none := by
      simp only [Stage.find]
      split
      · next c' g' face' => exact absurd ⟨c', g', face', rfl, rfl, rfl⟩ hall
      · rfl
    have hidle : constructorInstructions m c = [] ∨ ∀ g' face', ¬ (g = some g' ∧ face = some face') := by
      cases c with
      | none => exact .inl rfl
      | some c => exact .inr fun g' face' hroles => hall ⟨c, g', face', rfl, hroles⟩
    have hanswer : TokensAnswer m ⟨c, g, face, p, e, none⟩ := by
      rintro g' face' hg' hface' front i back heq -
      rcases hidle with hnil | hno
      · simp [hnil] at heq
      · exact absurd ⟨hg', hface'⟩ (hno g' face')
    refine ⟨fun _ => ⟨none, ?_, run_of_find_none hfind⟩, fun hno => absurd hanswer hno⟩
    rintro i hi made ⟨g', face', hg', hface', -⟩
    rcases hidle with hnil | hno
    · simp [hnil] at hi
    · exact hno g' face' ⟨hg', hface'⟩

/-! ## The whole of matching -/

theorem runStages_ok {r₁ r₂ : Roles} (h₁ : Stage.run m r .manager = .ok r₁) (h₂ : Stage.run m r₁ .parser = .ok r₂) :
    runStages m r = Stage.run m r₂ .provider := by
  simp only [runStages, Stage.all, List.foldlM_cons, List.foldlM_nil, h₁, h₂, ok_bind]
  cases Stage.run m r₂ .provider <;> rfl

/-- **Matching gives the reference.** A sound module has exactly one reference. Matching gives it, unless a token that the
search for the stream provider comes across has no answer: then, and only then, matching fails, and the cause is that of a row
of the module. -/
theorem rolesOf_reference (m : Module) (h : m.Sound) :
    ∃ r, Reference m r ∧ (∀ r', Reference m r' → r' = r) ∧ (TokensAnswer m r → rolesOf m = .ok r) ∧
      (¬ TokensAnswer m r → ∃ cause, RowFails m cause ∧ rolesOf m = .error (.fault cause)) := by
  obtain ⟨controller, hcontroller, hfinds⟩ := controller?_spec h
  cases controller with
  | none =>
    have hreference : Reference m .empty :=
      ⟨hfinds, ⟨none, Finds.nil, rfl, rfl⟩, ⟨none, Finds.nil, rfl, rfl⟩, Finds.nil⟩
    have hanswer : TokensAnswer m .empty := by
      intro manager face hmanager
      cases hmanager
    refine ⟨.empty, hreference, fun r' hr' => hr'.unique hreference, fun _ => ?_, fun hno => absurd hanswer hno⟩
    rw [rolesOf, hcontroller]
  | some c =>
    obtain ⟨managing, hmanaging, hrun₁⟩ := run_manager_stage (m := m) (r := { controller := some c }) rfl rfl
    obtain ⟨parsing, hparsing, hrun₂⟩ := run_parser_stage h
      (r := { controller := some c, manager := managing.map (·.1), streamProviderInterface := managing.map (·.2) }) rfl rfl
    have hshape : ∀ c', some c = some c' → ∃ t, m.definitions[c']? = some t ∧ IsController m t := by
      rintro c' heq
      obtain ⟨id, -, rfl, hid⟩ := hfinds.exists_answer
      cases heq
      exact hid
    let r₂ : Roles := { controller := some c, manager := managing.map (·.1), streamProviderInterface := managing.map (·.2),
                        xmlParser := parsing.map (·.1), entryDescriptor := parsing.map (·.2) }
    have hroles : rolesOf m = Stage.run m r₂ .provider := by
      rw [rolesOf, hcontroller]
      exact runStages_ok hrun₁ hrun₂
    obtain ⟨hanswered, hunanswered⟩ := run_provider_stage (r := r₂) h rfl hshape
    have hreference {made : Option TypeId} (hmade : Finds (fun i made => ∃ manager face, r₂.manager = some manager ∧
        r₂.streamProviderInterface = some face ∧ ProviderSite m manager face i made)
        (constructorInstructions m (some c)) made) : Reference m { r₂ with streamProvider := made } :=
      ⟨hfinds, ⟨managing, hmanaging, rfl, rfl⟩, ⟨parsing, hparsing, rfl, rfl⟩, hmade⟩
    obtain ⟨made, hmade⟩ := Finds.exists_found (fun i made => ∃ manager face, r₂.manager = some manager ∧
      r₂.streamProviderInterface = some face ∧ ProviderSite m manager face i made) (constructorInstructions m (some c))
    refine ⟨{ r₂ with streamProvider := made }, hreference hmade, fun r' hr' => hr'.unique (hreference hmade),
      fun hanswer => ?_, fun hno => ?_⟩
    · obtain ⟨made', hmade', hrun⟩ := hanswered hanswer
      rw [hroles, hrun, (hreference hmade').unique (hreference hmade)]
    · obtain ⟨cause, hcause, hrun⟩ := hunanswered hno
      exact ⟨cause, hcause, by rw [hroles, hrun]⟩

/-- a runtime with all its six types, whose controller's constructor asks for the first type specification before it makes the
stream provider -/
def askingRuntime (typeSpecs : Array (Except TypeFault (Option TypeSig))) : Module :=
  let assembly : TypeSig := .named "System.Reflection" "Assembly"
  let text : TypeSig := .named "System" "String"
  let nothing : TypeSig := .named "System" "Void"
  let ask : Bytes := [0xD0, 0x01, 0x00, 0x00, 0x1B]
  let make : Bytes := [0x73, 0x06, 0x00, 0x00, 0x06]
  { Module.empty with
    definitions := #[
      ⟨"", "A", 0, [0, 1], [0, 1, 2], [], none, none, 0x02000001⟩,
      ⟨"", "B", 0, [2, 3], [3], [], none, none, 0x02000002⟩,
      ⟨"", "C", 0x20, [], [], [], none, none, 0x02000003⟩,
      ⟨"", "D", 0, [4], [4], [], none, none, 0x02000004⟩,
      ⟨"", "E", 0, [], [], [], none, none, 0x02000005⟩,
      ⟨"", "F", 0, [], [5], [.defined 2], none, none, 0x02000006⟩]
    fields := #[
      ⟨"a", .defined 1, 0, some 0, 0x04000001⟩, ⟨"b", text, 0, some 0, 0x04000002⟩,
      ⟨"c", .defined 3, 0, some 1, 0x04000003⟩, ⟨"d", text, 0, some 1, 0x04000004⟩,
      ⟨"e", .generic (.named "System.Collections.Generic" "List`1") [.defined 4], 0, some 3, 0x04000005⟩]
    methods := #[
      ⟨".ctor", nothing, [assembly], 0x1, some (ask ++ make ++ [0x2A]), some 0, 0x06000001⟩,
      ⟨"f", nothing, [assembly], 0x16, some [0x2A], some 0, 0x06000002⟩,
      ⟨"g", text, [text], 0x6, some [0x2A], some 0, 0x06000003⟩,
      ⟨".ctor", nothing, [assembly, .defined 2], 0x6, some [0x2A], some 1, 0x06000004⟩,
      ⟨".ctor", nothing, [], 0x6, some [0x2A], some 3, 0x06000005⟩,
      ⟨".ctor", nothing, [assembly, text], 0x6, some [0x2A], some 5, 0x06000006⟩]
    topLevel := [0, 1, 2, 3, 4, 5]
    typeSpecs }

theorem askingRuntime_sound (typeSpecs : Array (Except TypeFault (Option TypeSig))) : (askingRuntime typeSpecs).Sound where
  nesting id := by
    refine ⟨[id], .outermost ?_⟩
    have houter : ∀ t ∈ (askingRuntime #[]).definitions, t.outer = none := by decide
    rw [Module.outer?, Option.bind_eq_none_iff]
    intro t ht
    exact houter t (Array.mem_of_getElem? ht)
  fields f hf _ := by
    have hwhole : ∀ f ∈ (askingRuntime #[]).fields, f.type.isWhole := by decide
    exact hwhole f hf
  returns x hx _ := by
    have hwhole : ∀ x ∈ (askingRuntime #[]).methods, x.returns.isWhole := by decide
    exact hwhole x hx
  parameters x hx t ht := by
    have hwhole : ∀ x ∈ (askingRuntime #[]).methods, ∀ t ∈ x.parameters, t.isWhole := by decide
    exact hwhole x hx t ht

/-- a specification that refers to itself keeps matching from a reference that it would give otherwise -/
theorem rolesOf_reference_askingRuntime :
    (∃ r, Reference (askingRuntime #[.ok none]) r ∧ r = ⟨some 0, some 1, some 2, some 3, some 4, some 5⟩ ∧
      rolesOf (askingRuntime #[.ok none]) = .ok r) ∧
    (∃ r, Reference (askingRuntime #[.error (.typeSpec 1)]) r ∧ ¬ TokensAnswer (askingRuntime #[.error (.typeSpec 1)]) r ∧
      rolesOf (askingRuntime #[.error (.typeSpec 1)]) = .error (.fault (.typeSpec 1))) := by
  constructor
  · have hruns : rolesOf (askingRuntime #[.ok none]) = .ok ⟨some 0, some 1, some 2, some 3, some 4, some 5⟩ := by
      decide +kernel
    obtain ⟨r, hr, -, hanswered, hunanswered⟩ := rolesOf_reference _ (askingRuntime_sound #[.ok none])
    by_cases hanswer : TokensAnswer (askingRuntime #[.ok none]) r
    · have hok := hanswered hanswer
      rw [hok] at hruns
      exact ⟨r, hr, Except.ok.inj hruns, hok⟩
    · obtain ⟨cause, -, hfails⟩ := hunanswered hanswer
      rw [hfails] at hruns
      cases hruns
  · have hfails : rolesOf (askingRuntime #[.error (.typeSpec 1)]) = .error (.fault (.typeSpec 1)) := by decide +kernel
    obtain ⟨r, hr, -, hanswered, -⟩ := rolesOf_reference _ (askingRuntime_sound #[.error (.typeSpec 1)])
    refine ⟨r, hr, fun hanswer => ?_, hfails⟩
    rw [hanswered hanswer] at hfails
    cases hfails
end Unbundle.Matching
