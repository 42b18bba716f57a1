import Unbundle.Proofs.Code.Prefix
import Unbundle.Proofs.Matching.Reference
import Unbundle.Proofs.Module.Naming
/-
How far the search for the stream provider reads.

The stage takes the controller's constructor apart and looks at one instruction after the other. It passes over an instruction
whose token has an answer and that makes no stream provider, it stops at the first one that makes a provider, and it breaks off
at the first token without an answer. What stands behind, well formed or not, plays no part: the constructor may be given any
other code with the same front.

Results:
- `providerMadeBy?_eq_none_iff`: which instructions are passed over.
- `find_provider_idle`, `find_provider_code`: the stage without code to look through, and with it.
- `providerMadeBy?_withCode`: what an instruction makes does not depend on the code of any method.
- `run_provider_first`: the stage for every constructor and every code.
-/
namespace Unbundle.Matching

open Code

variable {m : Module} {r : Roles} {c manager face made : TypeId} {place : MethodId} {x : Method}

/-! ## Instructions that are passed over -/

/-- the token of an instruction has an answer, and the instruction makes no stream provider -/
def Passes (m : Module) (manager face : TypeId) (i : Instruction) : Prop :=
  (∃ entity, m.operandEntity? i.operand = .ok entity) ∧ ∀ made, ¬ ProviderSite m manager face i made

/-- testing an instruction comes to nothing exactly when the instruction is passed over -/
theorem providerMadeBy?_eq_none_iff (h : m.Sound) {i : Instruction} :
    providerMadeBy? m manager face i = .ok none ↔ Passes m manager face i := by
  constructor
  · intro hnone
    refine ⟨?_, fun made hmade => ?_⟩
    · cases hentity : m.operandEntity? i.operand with
      | error cause =>
        rw [(providerMadeBy?_eq_error_iff h).2 hentity] at hnone
        cases hnone
      | ok entity => exact ⟨entity, rfl⟩
    · rw [providerMadeBy?_eq_some_iff.2 hmade] at hnone
      cases hnone
  · rintro ⟨⟨entity, hentity⟩, hno⟩
    cases hmade : providerMadeBy? m manager face i with
    | error cause =>
      rw [(providerMadeBy?_eq_error_iff h).1 hmade] at hentity
      cases hentity
    | ok found =>
      cases found with
      | none => rfl
      | some made => exact absurd (providerMadeBy?_eq_some_iff.1 hmade) (hno made)

theorem findSomeM?_append {α β ε : Type} {f : α → Except ε (Option β)} {front : List α} (h : ∀ a ∈ front, f a = .ok none)
    (l : List α) : (front ++ l).findSomeM? f = l.findSomeM? f := by
  induction front with
  | nil => rfl
  | cons a front ih =>
    rw [List.cons_append, findSomeM?_cons_none (h a List.mem_cons_self)]
    exact ih fun b hb => h b (List.mem_cons_of_mem a hb)

/-! ## The constructor -/

/-- the first constructor that a definition lists, with its place in the pool -/
def FirstConstructor (m : Module) (c : TypeId) (place : MethodId) (x : Method) : Prop :=
  ∃ t, m.definitions[c]? = some t ∧ (t.methods.find? fun i => (m.methods[i]?).any (·.isConstructor)) = some place ∧
    m.methods[place]? = some x

theorem constructor?_eq (t : TypeDef) : m.constructor? t =
    (t.methods.find? fun i => (m.methods[i]?).any (·.isConstructor)).bind (m.methods[·]?) := by
  rw [Module.constructor?, Module.method?, Module.methodsOf, List.find?_filterMap]
  rfl

theorem FirstConstructor.constructor? (h : FirstConstructor m c place x) :
    ∃ t, m.definitions[c]? = some t ∧ m.constructor? t = some x := by
  obtain ⟨t, ht, hplace, hx⟩ := h
  exact ⟨t, ht, by rw [constructor?_eq, hplace]; exact hx⟩

theorem exists_firstConstructor {t : TypeDef} (ht : m.definitions[c]? = some t) (hx : m.constructor? t = some x) :
    ∃ place, FirstConstructor m c place x := by
  rw [constructor?_eq] at hx
  obtain ⟨place, hplace, hx⟩ := Option.bind_eq_some_iff.1 hx
  exact ⟨place, t, ht, hplace, hx⟩

/-- the module with the code of one method replaced -/
def withCode (m : Module) (place : MethodId) (code : Bytes) : Module :=
  { m with methods := m.methods.modify place fun x => { x with code := some code } }

section

variable (m : Module) (place : MethodId) (code : Bytes)

theorem getElem?_withCode (id : MethodId) : (withCode m place code).methods[id]? =
    (m.methods[id]?).map fun x => if place = id then { x with code := some code } else x := by
  rw [withCode, Array.getElem?_modify]
  split_ifs
  · rfl
  · exact Option.map_id'.symm

/-- a test that does not look at the code of a method -/
theorem any_withCode {p : Method → Bool} (hp : ∀ x, p { x with code := some code } = p x) (id : MethodId) :
    ((withCode m place code).methods[id]?).any p = (m.methods[id]?).any p := by
  rw [getElem?_withCode, Option.any_map]
  congr
  funext x
  show p (if place = id then { x with code := some code } else x) = p x
  split_ifs
  · exact hp x
  · rfl

theorem isMethod_withCode : (withCode m place code).isMethod = m.isMethod := Module.isMethod_congr rfl

theorem entity?_withCode (token : Nat) : (withCode m place code).entity? token = m.entity? token := by
  have hlast : lastPlace? (·.token = token) (withCode m place code).methods = lastPlace? (·.token = token) m.methods := by
    have hsize : (withCode m place code).methods.size = m.methods.size := Array.size_modify
    rw [lastPlace?, lastPlace?, hsize]
    congr
    funext id
    exact any_withCode m place code (fun _ => rfl) id
  unfold Module.entity?
  rw [hlast]
  rfl

theorem operandEntity?_withCode (operand : Operand) :
    (withCode m place code).operandEntity? operand = m.operandEntity? operand := by
  cases operand with
  | token t => exact entity?_withCode m place code t
  | _ => rfl

theorem provider?_withCode (manager face : TypeId) (x : Method) :
    provider? (withCode m place code) manager face { x with code := some code } = provider? m manager face x ∧
      provider? (withCode m place code) manager face x = provider? m manager face x := by
  constructor <;>
  · simp only [provider?, takesAssemblyAndText, isMethod_withCode]
    rfl

/-- what an instruction makes does not depend on the code of any method -/
theorem providerMadeBy?_withCode : providerMadeBy? (withCode m place code) = providerMadeBy? m := by
  funext manager face i
  unfold providerMadeBy?
  rw [operandEntity?_withCode]
  refine bind_congr fun entity => ?_
  split
  · next id =>
    rw [getElem?_withCode]
    cases m.methods[id]? with
    | none => rfl
    | some x =>
      obtain ⟨hchanged, hsame⟩ := provider?_withCode m place code manager face x
      by_cases hid : place = id
      · simp only [Option.map_some, if_pos hid, hchanged]
      · simp only [Option.map_some, if_neg hid, hsame]
  · rfl

variable {m place}

theorem FirstConstructor.withCode (h : FirstConstructor m c place x) :
    FirstConstructor (withCode m place code) c place { x with code := some code } := by
  obtain ⟨t, ht, hplace, hx⟩ := h
  refine ⟨t, ht, ?_, by rw [getElem?_withCode, hx, Option.map_some, if_pos rfl]⟩
  rw [← hplace]
  congr
  funext id
  exact any_withCode m place code (fun _ => rfl) id

end

/-! ## The stage -/

/-- the stage looks at the code of the constructor, if that takes an assembly -/
theorem find_provider_code (hc : r.controller = some c) (hm : r.manager = some manager)
    (hf : r.streamProviderInterface = some face) (hx : FirstConstructor m c place x)
    (hreads : Reads m x "System.Void" "(System.Reflection.Assembly)") {code : Bytes} (hcode : x.code = some code) :
    Stage.find m r .provider =
      ((decode code).instructions.findSomeM? (providerMadeBy? m manager face)).map (Option.map ([·])) := by
  obtain ⟨t, ht, hconstructor⟩ := hx.constructor?
  rw [find_provider hc hm hf ht hconstructor hreads, constructorInstructions, Option.bind_some, ht, Option.bind_some,
    hconstructor, Option.bind_some, hcode]

/-- without a constructor that takes an assembly and has code there is nothing to look through -/
theorem find_provider_idle (h : m.Sound) (hc : r.controller = some c) (hm : r.manager = some manager)
    (hf : r.streamProviderInterface = some face)
    (hidle : ∀ place x, FirstConstructor m c place x → Reads m x "System.Void" "(System.Reflection.Assembly)" →
      x.code = none) : Stage.find m r .provider = .ok none := by
  simp only [Stage.find, hc, hm, hf]
  cases hx : (m.definitions[c]?).bind m.constructor? with
  | none => rfl
  | some x =>
    obtain ⟨t, ht, hconstructor⟩ := Option.bind_eq_some_iff.1 hx
    obtain ⟨place, hfirst⟩ := exists_firstConstructor ht hconstructor
    obtain ⟨takes, htakes⟩ := h.isMethod_ok (Module.mem_of_constructor? hconstructor) "System.Void" "(System.Reflection.Assembly)"
    simp only [takesAssembly_eq, htakes, ok_bind]
    cases takes with
    | false => rfl
    | true =>
      rw [hidle place x hfirst htakes]
      rfl

/-- a stage that finds nothing, finds a type or fails, in terms of the record -/
theorem run_provider_of_find (hs : r.streamProvider = none) {found : Except TypeFault (Option TypeId)}
    (h : Stage.find m r .provider = found.map (Option.map ([·]))) :
    Stage.run m r .provider = match found with
      | .error cause => .error (.fault cause)
      | .ok none => .ok r
      | .ok (some made) => .ok { r with streamProvider := some made } := by
  cases found with
  | error cause => exact run_of_find_error h
  | ok found =>
    cases found with
    | none => exact run_of_find_none h
    | some made =>
      refine run_of_find_some h ?_
      obtain ⟨c, g, f, p, e, s⟩ := r
      simp only at hs
      subst hs
      rfl

/-- **The search for the stream provider reads a front of the constructor and stops at the first hit.** It starts from a record
with controller, manager and interface but no provider. If the controller's first constructor does not take an assembly, or has
no code, the record stays as it is. Otherwise its code comes apart, up to its end or the first malformed instruction: if all
these instructions are passed over, the record stays as it is; at the first one that makes a provider the role is filled with
what it makes, no other role changes, and the same comes of any code with the same front; and at the first token without an
answer matching fails. -/
theorem run_provider_first (m : Module) (r : Roles) (c manager face : TypeId) (h : m.Sound) (hc : r.controller = some c)
    (hm : r.manager = some manager) (hf : r.streamProviderInterface = some face) (hs : r.streamProvider = none) :
    ((∀ place x, FirstConstructor m c place x → Reads m x "System.Void" "(System.Reflection.Assembly)" → x.code = none) →
      Stage.run m r .provider = .ok r) ∧
    ∀ place x code, FirstConstructor m c place x → Reads m x "System.Void" "(System.Reflection.Assembly)" →
      x.code = some code →
      ((∀ i ∈ (decode code).instructions, Passes m manager face i) → Stage.run m r .provider = .ok r) ∧
      ∀ front i back, (decode code).instructions = front ++ i :: back → (∀ j ∈ front, Passes m manager face j) →
        (∀ made, ProviderSite m manager face i made →
          Stage.run m r .provider = .ok { r with streamProvider := some made } ∧
          ∃ rest, code = (front ++ [i]).flatMap Instruction.encode ++ rest ∧ ∀ other,
            Stage.run (withCode m place ((front ++ [i]).flatMap Instruction.encode ++ other)) r .provider =
              .ok { r with streamProvider := some made }) ∧
        ∀ cause, m.operandEntity? i.operand = .error cause →
          RowFails m cause ∧ Stage.run m r .provider = .error (.fault cause) := by
  refine ⟨fun hidle => run_of_find_none (find_provider_idle h hc hm hf hidle), ?_⟩
  intro place x code hx hreads hcode
  have hfind := find_provider_code hc hm hf hx hreads hcode
  constructor
  · intro hall
    have hnothing := findSomeM?_append (fun i hi => (providerMadeBy?_eq_none_iff h).2 (hall i hi)) []
    rw [List.append_nil] at hnothing
    rw [hnothing] at hfind
    exact run_of_find_none hfind
  · intro front i back hsplit hfront
    have hpassed : ∀ j ∈ front, providerMadeBy? m manager face j = .ok none :=
      fun j hj => (providerMadeBy?_eq_none_iff h).2 (hfront j hj)
    refine ⟨fun made hmade => ?_, fun cause hcause => ?_⟩
    · rw [← providerMadeBy?_eq_some_iff] at hmade
      have hhit (later : List Instruction) :
          (front ++ i :: later).findSomeM? (providerMadeBy? m manager face) = .ok (some made) := by
        rw [findSomeM?_append hpassed, findSomeM?_cons_some hmade]
      refine ⟨?_, ?_⟩
      · rw [hsplit, hhit] at hfind
        exact run_provider_of_find hs hfind
      · -- other code with this front comes apart into the same instructions first, and no test of an instruction reads code
        rw [List.append_cons] at hsplit
        obtain ⟨rest, hrest, hother⟩ := decode_front hsplit
        refine ⟨rest, hrest, fun other => ?_⟩
        obtain ⟨later, hlater⟩ := hother other
        have hagain := find_provider_code hc hm hf (hx.withCode ((front ++ [i]).flatMap Instruction.encode ++ other))
          (by rw [Reads, isMethod_withCode]; exact hreads) rfl
        rw [hlater, providerMadeBy?_withCode, ← List.append_cons, hhit] at hagain
        exact run_provider_of_find hs hagain
    · have hstuck : (front ++ i :: back).findSomeM? (providerMadeBy? m manager face) = .error cause := by
        rw [findSomeM?_append hpassed, findSomeM?_cons_error ((providerMadeBy?_eq_error_iff h).2 hcause)]
      rw [hsplit, hstuck] at hfind
      exact ⟨rowFails_of_operandEntity? hcause, run_of_find_error hfind⟩

/-- the roles that are known when the stream provider of `askingRuntime` is looked for -/
def askingRoles : Roles := { controller := some 0, manager := some 1, streamProviderInterface := some 2 }

/-- the code of the constructor of `askingRuntime`: it asks for a specification, makes the provider and returns -/
def askingCode : Bytes := [0xD0, 0x01, 0x00, 0x00, 0x1B, 0x73, 0x06, 0x00, 0x00, 0x06, 0x2A]

theorem decode_askingCode : (decode askingCode).instructions =
    [⟨0, 0xD0, .token 0x1B000001⟩, ⟨5, 0x73, .token 0x06000006⟩, ⟨10, 0x2A, .none⟩] := by
  cbv

theorem firstConstructor_askingRuntime (typeSpecs : Array (Except TypeFault (Option TypeSig))) :
    ∃ x, FirstConstructor (askingRuntime typeSpecs) 0 0 x ∧ x.code = some askingCode ∧
      Reads (askingRuntime typeSpecs) x "System.Void" "(System.Reflection.Assembly)" := by
  refine ⟨⟨".ctor", .core "Void", [.named "System.Reflection" "Assembly"], 0x1, some askingCode, some 0, 0x06000001⟩,
    ⟨_, rfl, rfl, rfl⟩, rfl, ?_⟩
  have hsame : (askingRuntime typeSpecs).isMethod = (askingRuntime #[]).isMethod := Module.isMethod_congr rfl
  rw [Reads, hsame]
  decide +kernel

/-- the provider is found behind a token that has an answer, and then in front of any code, but not behind a token without one;
a type that is the manager itself is passed over, and a constructor of other parameters is not looked through -/
theorem run_provider_first_askingRuntime :
    (Stage.run (askingRuntime #[.ok none]) askingRoles .provider = .ok { askingRoles with streamProvider := some 5 } ∧
      ∀ other, Stage.run (withCode (askingRuntime #[.ok none]) 0 (askingCode.take 10 ++ other)) askingRoles .provider =
        .ok { askingRoles with streamProvider := some 5 }) ∧
    Stage.run (askingRuntime #[.error (.typeSpec 1)]) askingRoles .provider = .error (.fault (.typeSpec 1)) ∧
    Stage.run (askingRuntime #[.ok none]) { askingRoles with manager := some 5 } .provider =
      .ok { askingRoles with manager := some 5 } ∧
    Stage.run (askingRuntime #[.ok none]) { askingRoles with controller := some 1 } .provider =
      .ok { askingRoles with controller := some 1 } := by
  have hpasses {manager : TypeId} {i : Code.Instruction}
      (hnone : providerMadeBy? (askingRuntime #[.ok none]) manager 2 i = .ok none) :
      Passes (askingRuntime #[.ok none]) manager 2 i := (providerMadeBy?_eq_none_iff (askingRuntime_sound _)).1 hnone
  refine ⟨?_, ?_, ?_, ?_⟩
  · obtain ⟨x, hx, hcode, hreads⟩ := firstConstructor_askingRuntime #[.ok none]
    have hstage := (run_provider_first (askingRuntime #[.ok none]) askingRoles 0 1 2 (askingRuntime_sound _) rfl rfl rfl rfl).2
      0 x askingCode hx hreads hcode
    have hmade : ProviderSite (askingRuntime #[.ok none]) 1 2 ⟨5, 0x73, .token 0x06000006⟩ 5 :=
      providerMadeBy?_eq_some_iff.1 (by decide +kernel)
    have hfront := (hstage.2 [_] _ _ decode_askingCode (by simpa using hpasses (by decide +kernel))).1 5 hmade
    obtain ⟨hfound, -, -, hother⟩ := hfront
    exact ⟨hfound, hother⟩
  · obtain ⟨x, hx, hcode, hreads⟩ := firstConstructor_askingRuntime #[.error (.typeSpec 1)]
    have hstage := (run_provider_first (askingRuntime #[.error (.typeSpec 1)]) askingRoles 0 1 2 (askingRuntime_sound _)
      rfl rfl rfl rfl).2 0 x askingCode hx hreads hcode
    exact ((hstage.2 [] _ _ decode_askingCode (by simp)).2 (.typeSpec 1) rfl).2
  · obtain ⟨x, hx, hcode, hreads⟩ := firstConstructor_askingRuntime #[.ok none]
    have hstage := (run_provider_first (askingRuntime #[.ok none]) { askingRoles with manager := some 5 } 0 5 2
      (askingRuntime_sound _) rfl rfl rfl rfl).2 0 x askingCode hx hreads hcode
    refine hstage.1 fun i hi => hpasses ?_
    rw [decode_askingCode] at hi
    revert i
    decide +kernel
  · refine (run_provider_first (askingRuntime #[.ok none]) { askingRoles with controller := some 1 } 1 1 2
      (askingRuntime_sound _) rfl rfl rfl rfl).1 fun place x hx hreads => ?_
    obtain ⟨t, ht, hplace, hx⟩ := hx
    cases ht
    cases hplace
    cases hx
    revert hreads
    rw [Reads]
    decide +kernel

end Unbundle.Matching
